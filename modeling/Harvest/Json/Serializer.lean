import Harvest.Json.Printer

/-!
# Formats

A `Serializer` is a format that data is written in: what it makes of nothing, of texts and integers, and of
sequences and mappings whose parts are written already. `Json.builder` builds JSON values, inserting the
fields of a mapping one after the other. `Json.writer` writes JSON text without building a value first.
-/

namespace Harvest

/-- A format. -/
structure Serializer (α : Type) where
  unit : α
  text : String → α
  integer : Int → α
  sequence : List α → α
  mapping : List (String × α) → α

namespace Json

/-- The format of JSON values. -/
def builder : Serializer Json where
  unit := .null
  text := .string
  integer := .int
  sequence := .array
  mapping := ofFields

/-- Characters of several parts with commas between them. -/
def commaSeparated : List (List Char) → List Char
  | [] => []
  | [part] => part
  | part :: more => part ++ ',' :: commaSeparated more

/-- The format of JSON text. -/
def writer : Serializer (List Char) where
  unit := "null".toList
  text := stringChars
  integer := Number.intChars
  sequence items := '[' :: (commaSeparated items ++ [']'])
  mapping fields := '{' :: (commaSeparated (fields.map fun f => stringChars f.1 ++ ':' :: f.2) ++ ['}'])

end Json

end Harvest
