import Harvest.Json.Serializer

/-!
# Extracted values

`Value` is the result of evaluating one property, and a `Record` maps property ids to values.
`Value.toJson` forgets only whether fields come from a record or from a property array. `Value.serialize`
writes a value in any format, as its content alone.
-/

namespace Harvest

/-- The result of evaluating one property. -/
inductive Value where
  | null
  | text (value : String)
  | integer (value : Int)
  | list (items : List String)
  | record (fields : List (String × Value))
  /-- Keys and values of a property array. -/
  | map (entries : List (String × String))
  deriving Inhabited

/-- One extracted record. -/
abbrev Record := Fields Value

namespace Value

/-- The name of the kind of a value. -/
def kind : Value → String
  | .null => "Null"
  | .text _ => "Text"
  | .integer _ => "Integer"
  | .list _ => "List"
  | .record _ => "Record"
  | .map _ => "Map"

/-- Whether there is no value. -/
def isNull : Value → Bool
  | .null => true
  | _ => false

/-- The text of a text. -/
def text? : Value → Option String
  | .text s => some s
  | _ => none

/-- The number of an integer. -/
def integer? : Value → Option Int
  | .integer i => some i
  | _ => none

/-- The items of a list. -/
def list? : Value → Option (List String)
  | .list items => some items
  | _ => none

/-- The fields of a record. -/
def record? : Value → Option Record
  | .record fields => some fields
  | _ => none

/-- The entries of a property array. -/
def map? : Value → Option (Fields String)
  | .map entries => some entries
  | _ => none

/-- A text, or no value. -/
def ofText? : Option String → Value
  | some s => .text s
  | none => .null

/-- An integer, or no value. -/
def ofInteger? : Option Int → Value
  | some i => .integer i
  | none => .null

mutual

/-- The value as JSON. -/
def toJson : Value → Json
  | .null => .null
  | .text s => .string s
  | .integer i => .int i
  | .list items => .array (items.map Json.string)
  | .record fields => .object (fieldsToJson fields)
  | .map entries => .object (entries.map fun e => (e.1, Json.string e.2))

/-- The fields of a record as JSON. -/
def fieldsToJson : List (String × Value) → List (String × Json)
  | [] => []
  | (k, v) :: rest => (k, toJson v) :: fieldsToJson rest

end

mutual

/-- Writes a value in a format. What is written does not name the kind of the value. -/
def serialize {α : Type} (s : Serializer α) : Value → α
  | .null => s.unit
  | .text t => s.text t
  | .integer i => s.integer i
  | .list items => s.sequence (items.map s.text)
  | .record fields => s.mapping (serializeFields s fields)
  | .map entries => s.mapping (entries.map fun e => (e.1, s.text e.2))

/-- Writes the values of the fields of a record in a format. -/
def serializeFields {α : Type} (s : Serializer α) : List (String × Value) → List (String × α)
  | [] => []
  | (k, v) :: rest => (k, serialize s v) :: serializeFields s rest

end

/-- The JSON text of a value. -/
def print (v : Value) : String :=
  String.ofList (v.serialize Json.writer)

end Value

/-- A record as a JSON object. -/
def Record.toJson (r : Record) : Json :=
  .object (Value.fieldsToJson r)

end Harvest
