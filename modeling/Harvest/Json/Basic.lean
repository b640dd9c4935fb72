import Harvest.Fields
import Harvest.Number.Decimal

/-!
# JSON values

A number is an integer of 64 bits, signed or unsigned, or a floating-point number. An object is a
list of fields. `Json.ofFields` orders them by key and lets the last value of a repeated key win.
-/

namespace Harvest

/-- A JSON value. -/
inductive Json where
  | null
  | bool (value : Bool)
  | int (value : Int)
  | float (value : Float)
  | string (value : String)
  | array (items : List Json)
  | object (fields : List (String × Json))
  deriving Inhabited

namespace Json

/-- The object with the given fields, the last of equal keys winning. -/
def ofFields (fields : List (String × Json)) : Json :=
  .object (Fields.ofList fields)

/-- The field of an object; nothing for any other value. -/
def field? (j : Json) (key : String) : Option Json :=
  match j with
  | .object fields => Fields.find? key fields
  | _ => none

/-- Whether the value is null. -/
def isNull : Json → Bool
  | .null => true
  | _ => false

mutual

/-- Equality of values. Numbers are equal as integers or as floating-point numbers; an integer never
equals a floating-point number. -/
def equal : Json → Json → Bool
  | .null, .null => true
  | .bool a, .bool b => a == b
  | .int a, .int b => a == b
  | .float a, .float b => a == b
  | .string a, .string b => a == b
  | .array a, .array b => equalItems a b
  | .object a, .object b => equalFields a b
  | _, _ => false

/-- Equality of item lists. -/
def equalItems : List Json → List Json → Bool
  | [], [] => true
  | a :: as, b :: bs => equal a b && equalItems as bs
  | _, _ => false

/-- Equality of field lists. -/
def equalFields : List (String × Json) → List (String × Json) → Bool
  | [], [] => true
  | (k, a) :: as, (l, b) :: bs => k == l && equal a b && equalFields as bs
  | _, _ => false

end

end Json

end Harvest
