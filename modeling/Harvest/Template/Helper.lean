import Harvest.Json.Printer
import Harvest.Number.Exact
import Harvest.Template.Scope
import Harvest.Url.Parser
import Harvest.Url.Query

/-!
# Helpers

Helpers compute values from their arguments. `param`, `add` and `set_params` serve to compute addresses:
they read a parameter of a query, add numbers, and set parameters of a query.
-/

namespace Harvest.Template

/-! ## Values -/

mutual

/-- The text of a value. -/
def textOf : Json → String
  | .null => ""
  | .string s => s
  | .array items => "[" ++ ", ".intercalate (textsOf items) ++ "]"
  | .object _ => "[object]"
  | .bool b => if b then "true" else "false"
  | .int i => Number.ofInt i
  | .float f => (Json.float f).print

/-- The texts of several values. -/
def textsOf : List Json → List String
  | [] => []
  | v :: more => textOf v :: textsOf more

end

/-- Whether a value counts as true. -/
def isTruthy (includeZero : Bool) : Json → Bool
  | .null => false
  | .bool b => b
  | .int i => includeZero || i != 0
  | .float f => if includeZero then !f.isNaN else Number.isNormal f
  | .string s => !s.isEmpty
  | .array items => !items.isEmpty
  | .object fields => !fields.isEmpty

/-- How two values compare; most do not. -/
def compareValues (a b : Json) : Option Ordering :=
  match a, b with
  | .int i, .int j => some (compare i j)
  | .int i, .float g => some (Number.compareWith g i).swap
  | .float f, .int j => some (Number.compareWith f j)
  | .float f, .float g => Number.compareFloats f g
  | .string s, .string t => some (compare s t)
  | .bool x, .bool y => some (compare x y)
  | .int i, .string t => (Number.readFloat? t).bind (Number.compareFloats (Float.ofInt i))
  | .float f, .string t => (Number.readFloat? t).bind (Number.compareFloats f)
  | .string s, .int j =>
    (Number.readFloat? s).bind fun f => (Number.compareFloats (Float.ofInt j) f).map Ordering.swap
  | .string s, .float g =>
    (Number.readFloat? s).bind fun f => (Number.compareFloats g f).map Ordering.swap
  | _, _ => none

/-- The length of a value: of a text in bytes. -/
def lengthOf : Json → Nat
  | .array items => items.length
  | .object fields => fields.length
  | .string s => (Text.Utf8.ofString s).length
  | _ => 0

/-- A value as a 64-bit integer; what is none counts as zero. -/
def toInteger : Json → Int
  | .int i =>
    if Number.minInt64 ≤ i && i ≤ Number.maxInt64 then i
    else Number.truncate Number.minInt64 Number.maxInt64 (Float.ofInt i)
  | .float f => Number.truncate Number.minInt64 Number.maxInt64 f
  | .string s => (Number.parseInteger s).getD 0
  | _ => 0

/-- The sum of two values as 64-bit integers; one that is too large wraps around. -/
def sumOf (a b : Json) : Int :=
  Number.wrapInt64 (toInteger a + toInteger b)

/-- A value as a part of a query. -/
def toParam : Json → String
  | .string s => s
  | .null => ""
  | v => v.print

/-! ## Addresses -/

/-- The value of a parameter of an address, if the address is one and has it. -/
def queryParam (address key : String) : Option String :=
  match Url.parse address with
  | .ok u => u.param? key
  | .error _ => none

/-- Keys and values in turn; a value that is missing at the end is empty. -/
def pairsOf : List Json → List Url.Pair
  | [] => []
  | [k] => [(toParam k, "")]
  | k :: v :: more => (toParam k, toParam v) :: pairsOf more

/-- The address with parameters set. What is no address stays as it is. -/
def setQuery (address : String) (arguments : List Json) : String :=
  match Url.parse address with
  | .ok u => (u.setParams (pairsOf arguments)).toText
  | .error _ => address

/-! ## Calls -/

/-- An argument by its place. -/
def argumentAt (helper : String) (arguments : List Found) (i : Nat) : Except String Json :=
  match arguments[i]? with
  | some f => .ok f.value
  | none => .error (helper ++ " lacks an argument")

/-- An argument that has to be a text. -/
def textAt (helper : String) (arguments : List Found) (i : Nat) : Except String String :=
  match argumentAt helper arguments i with
  | .ok (.string s) => .ok s
  | .ok _ => .error (helper ++ " takes texts")
  | .error e => .error e

/-- A helper with one argument. -/
def unary (helper : String) (f : Json → Json) (arguments : List Found) : Except String Json :=
  (argumentAt helper arguments 0).map f

/-- A helper with two arguments. -/
def binary (helper : String) (f : Json → Json → Json) (arguments : List Found) :
    Except String Json :=
  match argumentAt helper arguments 0 with
  | .error e => .error e
  | .ok a => (argumentAt helper arguments 1).map (f a)

/-- A helper that compares two values. -/
def comparison (helper : String) (accepts : Ordering → Bool) : List Found → Except String Json :=
  binary helper fun a b => .bool ((compareValues a b).any accepts)

/-- An item of a list by its index, or of an object by its key. -/
def lookupItem (collection index : Json) : Json :=
  match collection, index with
  | .array items, .int i => if i < 0 then .null else items[i.toNat]?.getD .null
  | .object fields, .string k => (Fields.find? k fields).getD .null
  | _, _ => .null

/-- The helpers that compute a value. -/
def valueHelper? (name : String) : Option (List Found → Except String Json) :=
  match name with
  | "param" => some fun arguments =>
    match textAt name arguments 0 with
    | .error e => .error e
    | .ok address =>
      (textAt name arguments 1).map fun key => .string ((queryParam address key).getD "")
  | "add" => some (binary name fun a b => .int (sumOf a b))
  | "set_params" => some fun arguments =>
    match arguments.map Found.value with
    | [] => .ok (.string "")
    | address :: more => .ok (.string (setQuery (toParam address) more))
  | "lookup" => some (binary name lookupItem)
  | "eq" => some (binary name fun a b => .bool (a.equal b))
  | "ne" => some (binary name fun a b => .bool !(a.equal b))
  | "gt" => some (comparison name (· == .gt))
  | "gte" => some (comparison name (· != .lt))
  | "lt" => some (comparison name (· == .lt))
  | "lte" => some (comparison name (· != .gt))
  | "and" => some (binary name fun a b => .bool (isTruthy false a && isTruthy false b))
  | "or" => some (binary name fun a b => .bool (isTruthy false a || isTruthy false b))
  | "not" => some (unary name fun a => .bool !(isTruthy false a))
  | "len" => some (unary name fun a => .int (lengthOf a))
  | _ => none

/-- The helpers that choose what to write. -/
inductive BlockHelper where
  | when (expected : Bool)
  | each
  | inside
  /-- Writes its body. -/
  | raw
  /-- Writes nothing. -/
  | log

/-- The helper of a name that chooses what to write. -/
def blockHelper? (name : String) : Option BlockHelper :=
  match name with
  | "if" => some (.when true)
  | "unless" => some (.when false)
  | "each" => some .each
  | "with" => some .inside
  | "raw" => some .raw
  | "log" => some .log
  | _ => none

/-- Whether there is a helper of a name. -/
def isHelper (name : String) : Bool :=
  (valueHelper? name).isSome || (blockHelper? name).isSome

end Harvest.Template
