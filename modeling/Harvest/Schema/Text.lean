import Harvest.Json.Shaped
import Harvest.Schema.Basic

/-!
# The text of a schema

`Schema.toJson` writes a schema with all its fields, and `Schema.ofText` reads one from JSON text.
Fields may be missing or unknown; a schema may also stand as the sequence of its fields.
-/

namespace Harvest.Schema

/-- A list of texts. -/
def textsToJson (texts : List String) : Json :=
  .array (texts.map Json.string)

mutual

/-- The schema with all its fields, in their order. -/
def toJson : Schema → Json
  | ⟨id, css, next, kind, mergeWithParent, keyPath, valPath, limit, properties⟩ =>
    .object
      [("id", .string id), ("css", textsToJson css), ("next", textsToJson next),
       ("type", .string kind.tag), ("mergeWithParent", .bool mergeWithParent),
       ("key", textsToJson keyPath), ("val", textsToJson valPath), ("limit", .int limit),
       ("properties", .array (listToJson properties))]

/-- The schemas of a list. -/
def listToJson : List Schema → List Json
  | [] => []
  | s :: more => toJson s :: listToJson more

end

/-- The text of a schema. -/
def toText (s : Schema) : String :=
  s.toJson.print

/-- The fields of a schema. `depth` brackets may be opened within it, and `property` reads a schema
within the list of properties. -/
def fields (depth : Nat) (property : Json.Reader Schema) : List (Json.Field Schema) :=
  let texts : Json.Reader (List String) := Json.readList depth Json.readString
  [⟨"id", fun s t => (Json.readString t).map fun v => { s with id := v }⟩,
   ⟨"css", fun s t => (texts t).map fun v => { s with css := v }⟩,
   ⟨"next", fun s t => (texts t).map fun v => { s with next := v }⟩,
   ⟨"type", fun s t => (Json.readString t).map fun v => { s with kind := .ofTag v }⟩,
   ⟨"mergeWithParent", fun s t => (Json.readBool t).map fun v => { s with mergeWithParent := v }⟩,
   ⟨"key", fun s t => (texts t).map fun v => { s with keyPath := v }⟩,
   ⟨"val", fun s t => (texts t).map fun v => { s with valPath := v }⟩,
   ⟨"limit", fun s t =>
      (Json.readNat "usize" Number.maxNat64 t).map fun v => { s with limit := v }⟩,
   ⟨"properties", fun s t =>
      (Json.readList depth property t).map fun v => { s with properties := v }⟩]

/-- What a schema is called in a fault. -/
def expectation : String := "struct Schema"

/-- Reads a schema, with brackets nested at most `depth` deep: one for the schema itself and one for
its list of properties. -/
def reader : Nat → Json.Reader Schema
  | 0 => Json.readStructure expectation 0 [] empty
  | 1 => Json.readStructure expectation 1 (fields 0 fun s => .error (Json.faultAt .tooDeep s)) empty
  | depth + 2 =>
    Json.readStructure expectation (depth + 2) (fields (depth + 1) (reader depth)) empty

/-- Reads a schema from JSON text, or tells what is wrong with it. -/
def ofText (text : String) : Except String Schema :=
  Json.readShaped (reader Json.maxDepth) text

/-- Reads a schema from JSON text, if it holds one. -/
def ofText? (text : String) : Option Schema :=
  (ofText text).toOption

end Harvest.Schema
