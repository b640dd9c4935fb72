import Harvest.Json.Basic

/-!
# Templates

A template is a text with tags in double braces. A tag shows a value, calls a helper, or opens a block.
Values are found by references such as `data.items.0`, `../url` or `@index`.
-/

namespace Harvest.Template

/-- One step of a reference. -/
inductive Segment where
  /-- The whole of the data. -/
  | root
  /-- A variable that a block sets. -/
  | blockVariable
  /-- One block outwards. -/
  | up
  | name (value : String)
  deriving DecidableEq, Repr

/-- A reference as it is written, with its steps. -/
structure Reference where
  source : String
  segments : List Segment
  deriving DecidableEq, Repr

/-- An argument of a helper. -/
inductive Argument where
  | literal (value : Json)
  | reference (target : Reference)
  /-- The result of a helper. -/
  | call (name : String) (arguments : List Argument) (options : List (String × Argument))
  deriving Inhabited

/-- A part of a template. -/
inductive Element where
  | text (value : String)
  /-- A reference, or a call in parentheses, that stands alone. -/
  | value (target : Argument)
  | call (name : String) (arguments : List Argument) (options : List (String × Argument))
  /-- A block with the names that it gives to what it goes through. -/
  | block (name : String) (arguments : List Argument) (options : List (String × Argument))
      (names : List String) (body otherwise : List Element)
  /-- Something that there is no template for. -/
  | missing
  /-- What stands in the place of another template. -/
  | group (body : List Element)
  deriving Inhabited

end Harvest.Template
