import Harvest.Json.Skip

/-!
# Readers of fixed shape

Readers for values whose kind is known beforehand: texts, truth values, numbers within bounds,
sequences, and structures. A structure stands as a map, where unknown fields are passed over, missing
ones keep their default and a repeated one is a fault, or as a sequence of its fields in their order.
-/

namespace Harvest.Json

/-- How a value is described when another kind was expected. -/
def foundOf : Json → Found
  | .null => .null
  | .bool b => .bool b
  | .int i => .integer i
  | .float f => .float f
  | .string s => .string s
  | .array _ => .sequence
  | .object _ => .map

/-- The fault for a value of the wrong kind. -/
def wrongTypeAt (expected : String) (s : List Symbol) : Fault :=
  match s with
  | [] => faultNext .expectedValue []
  | some '[' :: _ => faultAt (.wrongType .sequence expected) s
  | some '{' :: _ => faultAt (.wrongType .map expected) s
  | first :: rest =>
    match readScalar? first rest with
    | none => faultNext .expectedValue s
    | some (.error f) => f
    | some (.ok (v, rest)) => faultAt (.wrongType (foundOf v) expected) rest

/-- Reads a text. -/
def readString : Reader String := fun s =>
  match skipSpace s with
  | [] => .error (faultNext .eofInValue [])
  | some '"' :: rest => readText rest
  | t => .error (wrongTypeAt "a string" t)

/-- Reads a text or null. -/
def readOptionalString : Reader (Option String) := fun s =>
  match skipSpace s with
  | some 'n' :: rest => readLiteral none ['u', 'l', 'l'] rest
  | t => (readString t).map some

/-- Reads a truth value. -/
def readBool : Reader Bool := fun s =>
  match skipSpace s with
  | [] => .error (faultNext .eofInValue [])
  | some 't' :: rest => readLiteral true ['r', 'u', 'e'] rest
  | some 'f' :: rest => readLiteral false ['a', 'l', 's', 'e'] rest
  | t => .error (wrongTypeAt "a boolean" t)

/-- The natural number of a numeral, if it is one within the limit. -/
def natOf (expected : String) (limit : Nat) (r : Result Numeral) : Result Nat :=
  match r with
  | .error f => .error f
  | .ok (.float f, rest) => .error (faultAt (.wrongType (.float f) expected) rest)
  | .ok (.int i, rest) =>
    if 0 ≤ i ∧ i ≤ limit then .ok (i.toNat, rest)
    else .error (faultAt (.wrongValue (.integer i) expected) rest)

/-- Reads a natural number up to a limit. -/
def readNat (expected : String) (limit : Nat) : Reader Nat := fun s =>
  match skipSpace s with
  | [] => .error (faultNext .eofInValue [])
  | some '-' :: rest => natOf expected limit (readNumber false rest)
  | first :: rest =>
    if (digit? first).isSome then natOf expected limit (readNumber true (first :: rest))
    else .error (wrongTypeAt expected (first :: rest))

/-- Reads a sequence; its bracket counts against the depth. -/
def readList {α : Type} (depth : Nat) (element : Reader α) : Reader (List α) := fun s =>
  match skipSpace s with
  | [] => .error (faultNext .eofInValue [])
  | some '[' :: rest =>
    if depth = 0 then .error (faultNext .tooDeep (some '[' :: rest))
    else readSequence element rest
  | t => .error (wrongTypeAt "a sequence" t)

/-- A field of a structure: its name, and how its value changes what has been read so far. -/
structure Field (σ : Type) where
  name : String
  read : σ → Reader σ

/-- Reads the fields of a structure that stands as a sequence; fields that are missing at the end keep
their value. -/
def readFieldsInOrder {σ : Type} : List (Field σ) → Bool → σ → Reader σ
  | [], _, value, s => .ok (value, s)
  | field :: more, first, value, s =>
    match nextElement first s with
    | .error f => .error f
    | .ok (false, rest) => .ok (value, rest)
    | .ok (true, rest) =>
      match field.read value rest with
      | .error f => .error f
      | .ok (value, rest) => readFieldsInOrder more false value rest

/-- The place of the fault for a repeated field: where leaving the map comes to a halt. -/
def duplicateAt (name : String) (s : List Symbol) : Fault :=
  match endMap s with
  | .ok ((), rest) => faultAt (.duplicateField name) rest
  | .error _ => faultAt (.duplicateField name) (skipSpace s)

/-- Reads the fields of a structure that stands as a map; at most `bound` of them. -/
def readFieldsByName {σ : Type} (fields : List (Field σ)) :
    Nat → Bool → List String → σ → Reader σ
  | 0, _, _, _, s => .error (faultNext .eofInObject s)
  | bound + 1, first, seen, value, s =>
    match nextKey first s with
    | .error f => .error f
    | .ok (false, rest) => .ok (value, rest)
    | .ok (true, rest) =>
      match readText rest with
      | .error f => .error f
      | .ok (key, rest) =>
        match fields.find? fun field => field.name == key with
        | none =>
          match readColon rest with
          | .error f => .error f
          | .ok ((), rest) =>
            match skipValue rest with
            | .error f => .error f
            | .ok ((), rest) => readFieldsByName fields bound false seen value rest
        | some field =>
          if seen.contains key then .error (duplicateAt key rest)
          else
            match readColon rest with
            | .error f => .error f
            | .ok ((), rest) =>
              match field.read value rest with
              | .error f => .error f
              | .ok (value, rest) => readFieldsByName fields bound false (key :: seen) value rest

/-- Leaves a structure by the reader for its closing bracket. -/
def leave {σ : Type} (close : List Symbol → Result Unit) (r : Result σ) : Result σ :=
  match r with
  | .error f => .error f
  | .ok (value, rest) =>
    match close rest with
    | .error f => .error f
    | .ok ((), rest) => .ok (value, rest)

/-- Reads a structure; its bracket counts against the depth. -/
def readStructure {σ : Type} (expected : String) (depth : Nat) (fields : List (Field σ))
    (default : σ) : Reader σ := fun s =>
  match skipSpace s with
  | [] => .error (faultNext .eofInValue [])
  | some '[' :: rest =>
    if depth = 0 then .error (faultNext .tooDeep (some '[' :: rest))
    else leave endSequence (readFieldsInOrder fields true default rest)
  | some '{' :: rest =>
    if depth = 0 then .error (faultNext .tooDeep (some '{' :: rest))
    else leave endMap (readFieldsByName fields (rest.length + 1) true [] default rest)
  | t => .error (wrongTypeAt expected t)

/-- Reads a whole text by one reader, or tells what is wrong with it. -/
def readShaped {α : Type} (reader : Reader α) (s : String) : Except String α :=
  let text := symbolsOf s
  describeFault text (readWhole reader text)

end Harvest.Json
