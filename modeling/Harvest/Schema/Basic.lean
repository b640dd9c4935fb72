/-!
# Extraction schemas

A schema is a tree of properties. Each names a selector path relative to its parent node and a type
that decides how the matched nodes become a value. A selector path is
`[selector, attribute, pattern]`, where the last two may be missing or empty.
-/

namespace Harvest

/-- How matched nodes become a value. -/
inductive PropertyType where
  | object
  | string
  | longText
  | image
  | integer
  | array
  | propertyArray
  | urlList
  /-- Any other name; it is looked up among the registered types. -/
  | custom (name : String)
  deriving DecidableEq, Repr, Inhabited

namespace PropertyType

/-- The tag that stands for the type in a schema. -/
def tag : PropertyType → String
  | .object => "object"
  | .string => "string"
  | .longText => "longtext"
  | .image => "imageurl"
  | .integer => "integer"
  | .array => "array"
  | .propertyArray => "property_array"
  | .urlList => "urllist"
  | .custom name => name

/-- The type that a tag stands for; the empty tag is `string`, and `image` is another spelling of
`imageurl`. -/
def ofTag (tag : String) : PropertyType :=
  match tag with
  | "object" => .object
  | "string" => .string
  | "" => .string
  | "longtext" => .longText
  | "imageurl" => .image
  | "image" => .image
  | "integer" => .integer
  | "array" => .array
  | "property_array" => .propertyArray
  | "urllist" => .urlList
  | other => .custom other

/-- Whether the type is one that a program registers. -/
def isCustom : PropertyType → Bool
  | .custom _ => true
  | _ => false

end PropertyType

/-- One node of a schema tree. -/
structure Schema where
  /-- The key of the value in the parent record. -/
  id : String
  /-- The selector path of the nodes. -/
  css : List String
  /-- The path to the next list of links, for lists of links. -/
  next : List String
  kind : PropertyType
  /-- Whether the fields of a record are put among the fields of the parent. -/
  mergeWithParent : Bool
  /-- The selector path of the key of an item, for property arrays. -/
  keyPath : List String
  /-- The selector path of the value of an item, for property arrays. -/
  valPath : List String
  /-- How many links are followed, for lists of links; zero for all. -/
  limit : Nat
  properties : List Schema
  deriving Inhabited

namespace Schema

/-- The schema with every field at its default: a text, read from the parent node itself. -/
def empty : Schema :=
  ⟨"", [], [], .string, false, [], [], 0, []⟩

/-- The selector; the empty one stands for the parent node itself. -/
def selector (s : Schema) : String :=
  s.css.head?.getD ""

/-- The attribute that is read instead of the text. -/
def attribute? (s : Schema) : Option String :=
  s.css[1]?

/-- The pattern whose first group is captured. -/
def pattern? (s : Schema) : Option String :=
  s.css[2]?

/-- Whether the schema describes a list of links. -/
def isUrlList (s : Schema) : Bool :=
  s.kind == .urlList

end Schema

end Harvest
