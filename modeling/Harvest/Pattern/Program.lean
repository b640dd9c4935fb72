import Harvest.Pattern.Basic

/-!
# Programs

A `Program` is a pattern as steps that refer to one another by their labels. `Program.ofExpr` writes the
steps of a pattern from its end to its start: the steps of a part are written for a given label at which
the match goes on. Where a step leads to two others, the first one is preferred.
-/

namespace Harvest.Pattern

/-- One step of a program. -/
inductive Step where
  /-- The match is complete. -/
  | halt
  /-- Takes one character. -/
  | one (set : Class) (folding : Folding) (next : Nat)
  | look (condition : Look) (next : Nat)
  | split (preferred other : Nat)
  /-- The first group starts here. -/
  | groupStart (next : Nat)
  /-- The first group ends here. -/
  | groupEnd (next : Nat)
  deriving Inhabited

/-- A pattern as steps. -/
structure Program where
  steps : Array Step
  start : Nat
  deriving Inhabited

/-- Writes the steps of a part for the label at which the match goes on, and gives back the label of the
part. -/
abbrev Emitter := Nat → Array Step → Nat × Array Step

namespace Program

/-- Writes one step. -/
def emit (s : Step) (steps : Array Step) : Nat × Array Step :=
  (steps.size, steps.push s)

/-- A step that prefers the round of a repetition, or else leaving it. -/
def roundOr (greedy : Bool) (round leave : Nat) : Step :=
  if greedy then .split round leave else .split leave round

/-- Some rounds in a row. -/
def rounds (inner : Emitter) : Nat → Emitter
  | 0, next, steps => (next, steps)
  | count + 1, next, steps =>
    let (next, steps) := rounds inner count next steps
    inner next steps

/-- At most the given number of rounds; each of them may be the last. -/
def optionalRounds (inner : Emitter) (greedy : Bool) (leave : Nat) :
    Nat → Array Step → Nat × Array Step
  | 0, steps => (leave, steps)
  | count + 1, steps =>
    let (next, steps) := optionalRounds inner greedy leave count steps
    let (round, steps) := inner next steps
    emit (roundOr greedy round leave) steps

/-- One round or more: the label of the first round, with the label of the choice behind a round. -/
def oneOrMore (inner : Emitter) (greedy : Bool) : Emitter := fun next steps =>
  let (choice, steps) := emit .halt steps
  let (round, steps) := inner choice steps
  (round, steps.setIfInBounds choice (roundOr greedy round next))

/-- Any number of rounds. If a round may be empty, this is one round or more, or nothing, so that an
empty round is preferred to none. -/
def anyRounds (inner : Emitter) (greedy roundMayBeEmpty : Bool) : Emitter := fun next steps =>
  if roundMayBeEmpty then
    let (round, steps) := oneOrMore inner greedy next steps
    emit (roundOr greedy round next) steps
  else
    let (choice, steps) := emit .halt steps
    let (round, steps) := inner choice steps
    (choice, steps.setIfInBounds choice (roundOr greedy round next))

/-- A repetition. -/
def repetition (inner : Emitter) (least : Nat) (most : Option Nat)
    (greedy roundMayBeEmpty : Bool) : Emitter := fun next steps =>
  match most with
  | some most =>
    let (next, steps) := optionalRounds inner greedy next (most - least) steps
    rounds inner least next steps
  | none =>
    match least with
    | 0 => anyRounds inner greedy roundMayBeEmpty next steps
    | before + 1 =>
      let (next, steps) := oneOrMore inner greedy next steps
      rounds inner before next steps

mutual

/-- The steps of a pattern. -/
def compile : Expr → Emitter
  | .empty => fun next steps => (next, steps)
  | .one set folding => fun next steps => emit (.one set folding next) steps
  | .look condition => fun next steps => emit (.look condition next) steps
  | .group first inner => fun next steps =>
    if first then
      let (next, steps) := emit (.groupEnd next) steps
      let (next, steps) := compile inner next steps
      emit (.groupStart next) steps
    else compile inner next steps
  | .sequence parts => compileParts parts
  | .choice alternatives => compileAlternatives alternatives
  | .repeated inner least most greedy =>
    let (least, most) := Expr.bounds inner least most
    repetition (compile inner) least most greedy inner.mayBeEmpty

/-- The steps of several patterns in a row. -/
def compileParts : List Expr → Emitter
  | [] => fun next steps => (next, steps)
  | e :: more => fun next steps =>
    let (next, steps) := compileParts more next steps
    compile e next steps

/-- The steps of alternatives. -/
def compileAlternatives : List Expr → Emitter
  | [] => fun next steps => (next, steps)
  | [e] => compile e
  | e :: more => fun next steps =>
    let (other, steps) := compileAlternatives more next steps
    let (preferred, steps) := compile e next steps
    emit (.split preferred other) steps

end

/-- The program of a pattern. -/
def ofExpr (e : Expr) : Program :=
  let (start, steps) := compile e 0 #[.halt]
  ⟨steps, start⟩

end Program

end Harvest.Pattern
