import Harvest.Json.Basic
import Harvest.Template.Basic

/-!
# Scopes

A block may make a part of the data the new place to start from, set variables, and give names. `Scope`
is what one block does, and `resolve` follows a reference through the scopes, the innermost one first. A
value that lies in the data is kept together with its place there.
-/

namespace Harvest.Template

/-- The names of steps from the whole of the data to a place in it. -/
abbrev Place := List String

/-- Where references start. -/
inductive Base where
  | place (value : Place)
  /-- A value that does not lie in the data. -/
  | value (value : Json)

/-- What a name stands for: the place at which its block starts, or a value. -/
inductive Meaning where
  | base
  | value (value : Json)

/-- What one block does. -/
structure Scope where
  base : Base
  locals : List (String × Json)
  names : List (String × Meaning)

/-- The scope outside of all blocks. -/
def Scope.outermost : Scope := ⟨.place [], [], []⟩

/-- The steps to the start of a scope; there are none if it starts at a value. -/
def Scope.place (s : Scope) : Place :=
  match s.base with
  | .place p => p
  | .value _ => []

/-- What a reference leads to. -/
structure Found where
  value? : Option Json
  /-- Where the value lies in the data. -/
  place? : Option Place

namespace Found

/-- A value that does not lie in the data. -/
def ofValue (v : Json) : Found := ⟨some v, none⟩

/-- Nothing. -/
def missing : Found := ⟨none, none⟩

/-- The value, where nothing counts as null. -/
def value (f : Found) : Json :=
  f.value?.getD .null

/-- The scope that starts at what has been found. -/
def scope (f : Found) : Scope :=
  match f.place? with
  | some p => ⟨.place p, [], []⟩
  | none => ⟨.value f.value, [], []⟩

end Found

/-- One step: a field of an object, or an item of a list, which takes an index. -/
def step (j : Json) (name : String) : Except String (Option Json) :=
  match j with
  | .array items =>
    match Number.parseIndex name with
    | some i => .ok items[i]?
    | none => .error ("a list has no item " ++ name)
  | .object fields => .ok (Fields.find? name fields)
  | _ => .ok none

/-- Steps one after the other. -/
def steps : Option Json → List String → Except String (Option Json)
  | found, [] => .ok found
  | none, _ => .ok none
  | some j, name :: more =>
    match step j name with
    | .ok found => steps found more
    | .error e => .error e

/-- The steps by name. -/
def namesOf (segments : List Segment) : List String :=
  segments.filterMap fun s => match s with | .name n => some n | _ => none

/-- The level and the name of a variable, if a reference leads to one. -/
def blockVariable? : List Segment → Option (Nat × String)
  | .blockVariable :: rest => outwards 0 rest
  | _ => none
where
  /-- Counts steps outwards. -/
  outwards (level : Nat) : List Segment → Option (Nat × String)
    | .up :: rest => outwards (level + 1) rest
    | .name n :: _ => some (level, n)
    | _ => none

/-- How a reference starts. -/
inductive Start where
  /-- With a name that a block gives; the scope of the block comes with it. -/
  | named (scope : Scope) (meaning : Meaning)
  | root
  /-- Some blocks outwards. -/
  | outwards (level : Nat)

/-- What a name means, with the scope that gives it. -/
def meaning? (name : String) : List Scope → Option (Scope × Meaning)
  | [] => none
  | s :: outer =>
    match s.names.find? fun n => n.1 == name with
    | some (_, m) => some (s, m)
    | none => meaning? name outer

/-- How the steps of a reference start. -/
def startOf (scopes : List Scope) (level : Nat) : List Segment → Start
  | .name n :: _ =>
    match meaning? n scopes with
    | some (s, m) => .named s m
    | none => .outwards level
  | .root :: _ => .root
  | .up :: rest => startOf scopes (level + 1) rest
  | _ => .outwards level

/-- The value at a place of the data. -/
def atPlace (data : Json) (p : Place) : Except String Found :=
  (steps (some data) p).map fun found =>
    match found with
    | some v => ⟨some v, some p⟩
    | none => .missing

/-- The value some steps from another one. -/
def within (v : Json) (names : List String) : Except String Found :=
  (steps (some v) names).map fun found => ⟨found, none⟩

/-- The value some steps from the start of a scope. -/
def fromBase (data : Json) (b : Base) (names : List String) : Except String Found :=
  match b with
  | .place p => atPlace data (p ++ names)
  | .value v => within v names

/-- Follows a reference. A block that does not exist outwards is replaced by the innermost one. -/
def resolve (data : Json) (scopes : List Scope) (r : Reference) : Except String Found :=
  match blockVariable? r.segments with
  | some (level, name) =>
    let value := (scopes[level]?).bind fun s => (s.locals.find? fun v => v.1 == name).map Prod.snd
    .ok ⟨value, none⟩
  | none =>
    match startOf scopes 0 r.segments with
    | .named _ (.value v) => within v (namesOf (r.segments.drop 1))
    | .named s .base => atPlace data (s.place ++ namesOf (r.segments.drop 1))
    | .root => atPlace data (namesOf r.segments)
    | .outwards level =>
      let scope := (scopes[level]?).or scopes.head?
      fromBase data ((scope.map (·.base)).getD (.place [])) (namesOf r.segments)

end Harvest.Template
