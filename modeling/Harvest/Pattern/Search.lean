import Harvest.Pattern.Parser
import Harvest.Pattern.Program

/-!
# Searching for a pattern

The text is read once. At each place there is a list of threads, the preferred one first; each stands at
a step of the program and knows where the first group lies. A thread that reaches a step which a
preferred one has reached at the same place is dropped. So the match that starts first is found, and
among those the one that the pattern prefers.

`Pattern.capture` gives the first group of that match, and the text itself where there is none.
-/

namespace Harvest.Pattern

/-- Where the first group lies. -/
structure Span where
  first : Option Nat
  last : Option Nat
  deriving Repr, DecidableEq

/-- A step that has been reached. -/
structure Thread where
  label : Nat
  span : Span

/-! ## Conditions on places -/

/-- A place in the text: the number of characters before it, and those next to it. -/
structure Place where
  index : Nat
  before : Option Char
  after : Option Char

/-- Whether a character belongs to words. -/
def isWordChar (unicode : Bool) (c : Char) : Bool :=
  if unicode then Text.Property.isWord c else c.isAlphanum || c == '_'

/-- Whether a place satisfies a condition. -/
def Look.holds (p : Place) : Look → Bool
  | .textStart => p.before.isNone
  | .textEnd => p.after.isNone
  | .lineStart => p.before.isNone || p.before == some '\n'
  | .lineEnd => p.after.isNone || p.after == some '\n'
  | .anyLineStart =>
    p.before.isNone || p.before == some '\n' || (p.before == some '\r' && p.after != some '\n')
  | .anyLineEnd =>
    p.after.isNone || p.after == some '\r' || (p.after == some '\n' && p.before != some '\r')
  | .wordBoundary u => p.before.any (isWordChar u) != p.after.any (isWordChar u)
  | .noWordBoundary u => p.before.any (isWordChar u) == p.after.any (isWordChar u)
  | .wordStart u => !p.before.any (isWordChar u) && p.after.any (isWordChar u)
  | .wordEnd u => p.before.any (isWordChar u) && !p.after.any (isWordChar u)
  | .halfStart u => !p.before.any (isWordChar u)
  | .halfEnd u => !p.after.any (isWordChar u)

/-! ## Threads -/

/-- The threads at one place: the steps that have been reached, and the threads that wait there, the
preferred one last. -/
structure Crowd where
  reached : Array Bool
  waiting : List Thread

/-- No thread. -/
def Crowd.none (size : Nat) : Crowd :=
  ⟨Array.replicate size false, []⟩

/-- Follows threads, the first one first, up to steps that wait for a character or are the end. A round
takes a thread from the list; it adds at most two for a step that had not been reached. -/
def follow (steps : Array Step) (p : Place) : Nat → List Thread → Crowd → Crowd
  | 0, _, crowd => crowd
  | _ + 1, [], crowd => crowd
  | rounds + 1, t :: more, crowd =>
    if crowd.reached[t.label]?.getD true then follow steps p rounds more crowd
    else
      let crowd := { crowd with reached := crowd.reached.setIfInBounds t.label true }
      match steps[t.label]? with
      | some (.split preferred other) =>
        follow steps p rounds (⟨preferred, t.span⟩ :: ⟨other, t.span⟩ :: more) crowd
      | some (.look condition next) =>
        follow steps p rounds (if condition.holds p then ⟨next, t.span⟩ :: more else more) crowd
      | some (.groupStart next) =>
        follow steps p rounds (⟨next, { t.span with first := some p.index }⟩ :: more) crowd
      | some (.groupEnd next) =>
        follow steps p rounds (⟨next, { t.span with last := some p.index }⟩ :: more) crowd
      | _ => follow steps p rounds more { crowd with waiting := t :: crowd.waiting }

/-- Follows one thread. -/
def followOne (steps : Array Step) (p : Place) (t : Thread) (crowd : Crowd) : Crowd :=
  follow steps p (2 * steps.size + 2) [t] crowd

/-- The threads up to the first that is at its end, with the group of that one. -/
def untilHalt (steps : Array Step) : List Thread → List Thread × Option Span
  | [] => ([], none)
  | t :: more =>
    match steps[t.label]? with
    | some .halt => ([], some t.span)
    | _ =>
      let (before, found) := untilHalt steps more
      (t :: before, found)

/-- Lets a thread go on if it waits for the given character; `p` is the place behind it. -/
def advanceOne (steps : Array Step) (c : Char) (p : Place) (crowd : Crowd) (t : Thread) : Crowd :=
  match steps[t.label]? with
  | some (.one set folding next) =>
    if set.admits folding c then followOne steps p ⟨next, t.span⟩ crowd else crowd
  | _ => crowd

/-- The threads that a character lets go on, at the place behind it. -/
def advance (steps : Array Step) (c : Char) (p : Place) (threads : List Thread) : Crowd :=
  threads.foldl (advanceOne steps c p) (.none steps.size)

/-- Reads the rest of the text. `found` is the group of the best match so far. -/
def searchFrom (program : Program) :
    List Char → Place → Crowd → Option Span → Option Span
  | rest, p, crowd, found =>
    let crowd :=
      if found.isSome then crowd
      else followOne program.steps p ⟨program.start, ⟨none, none⟩⟩ crowd
    let (threads, ended) := untilHalt program.steps crowd.waiting.reverse
    let found := ended.or found
    match rest with
    | [] => found
    | c :: rest =>
      if threads.isEmpty && found.isSome then found
      else
        let p : Place := ⟨p.index + 1, some c, rest.head?⟩
        searchFrom program rest p (advance program.steps c p threads) found

/-- The place of the first group of the first match. -/
def search (program : Program) (cs : List Char) : Option Span :=
  searchFrom program cs ⟨0, none, cs.head?⟩ (.none program.steps.size) none

/-- The first group of the first match, if it takes part in it. -/
def firstGroup? (program : Program) (cs : List Char) : Option (List Char) :=
  match search program cs with
  | some ⟨some first, some last⟩ => some ((cs.drop first).take (last - first))
  | _ => none

/-- The first group of the first match of a pattern. Where there is no such group, or the pattern is none,
the text stays as it is. -/
def capture (pattern value : String) : String :=
  match Expr.ofText? pattern with
  | none => value
  | some e =>
    match firstGroup? (.ofExpr e) value.toList with
    | some cs => String.ofList cs
    | none => value

end Harvest.Pattern
