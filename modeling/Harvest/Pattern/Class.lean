import Harvest.Text.Folding
import Harvest.Text.Property
import Harvest.Text.Script

/-!
# Character classes

A `Class` is a set of characters as a pattern writes it. `Class.has` says which characters it holds;
where letter case does not count, it does so by closing sets under `Folding.variants`, and before they
are complemented.
-/

namespace Harvest.Pattern

open Text (CharSet)

/-- Whether letter case counts. -/
inductive Folding where
  | exact
  /-- ASCII letters of either case are alike. -/
  | ascii
  /-- Characters that differ in case only are alike. -/
  | full
  deriving DecidableEq, Repr

/-- The characters that are like a given one. -/
def Folding.variants (f : Folding) (c : Char) : List Char :=
  match f with
  | .exact => [c]
  | .ascii => Text.Folding.asciiVariants c
  | .full => Text.Folding.variants c

/-- A set of characters as a pattern writes it. -/
inductive Class where
  | char (c : Char)
  | range (low high : Char)
  /-- A named set. `folds` says that letter case may count within it. -/
  | named (tables : List CharSet) (negated folds : Bool)
  | union (parts : List Class)
  | bracket (negated : Bool) (inner : Class)
  | both (left right : Class)
  | without (left right : Class)
  | either (left right : Class)
  deriving Inhabited

namespace Class

/-- Whether a set holds a character or one that is like it. -/
def closed (f : Folding) (p : Char → Bool) (c : Char) : Bool :=
  (f.variants c).any p

mutual

/-- Whether a character lies in a class. -/
def has (f : Folding) : Class → Char → Bool
  | .char a, c => c == a
  | .range low high, c => low ≤ c && c ≤ high
  | .named tables negated folds, c =>
    closed (if folds then f else .exact) (Text.Property.isInAny tables) c != negated
  | .union parts, c => anyHas f parts c
  | .bracket negated inner, c => closed f (has f inner) c != negated
  | .both left right, c => closed f (has f left) c && closed f (has f right) c
  | .without left right, c => closed f (has f left) c && !closed f (has f right) c
  | .either left right, c => closed f (has f left) c != closed f (has f right) c

/-- Whether a character lies in one of several classes. -/
def anyHas (f : Folding) : List Class → Char → Bool
  | [], _ => false
  | part :: more, c => has f part c || anyHas f more c

end

/-- Whether a class that stands alone admits a character. -/
def admits (f : Folding) (s : Class) (c : Char) : Bool :=
  closed f (has f s) c

mutual

/-- How deep brackets, unions and set operations are nested. -/
def height : Class → Nat
  | .char _ => 0
  | .range .. => 0
  | .named .. => 0
  | .union parts => 1 + greatestHeight parts
  | .bracket _ inner => 1 + height inner
  | .both left right => 1 + max (height left) (height right)
  | .without left right => 1 + max (height left) (height right)
  | .either left right => 1 + max (height left) (height right)

/-- The greatest of several heights. -/
def greatestHeight : List Class → Nat
  | [] => 0
  | part :: more => max (height part) (greatestHeight more)

end

/-! ## Named classes -/

/-- Any character. -/
def anything : Class := .named [Text.Property.everything] false false

/-- Any character but a line feed. -/
def anyButLineFeed : Class := .named [.ofText "0-9 B-10FFFF"] false false

/-- Any character but a line feed and a carriage return. -/
def anyButLineEnd : Class := .named [.ofText "0-9 B-C E-10FFFF"] false false

/-- The classes of one letter: digits, white space and characters of words. -/
def ofLetter? (letter : Char) (unicode negated : Bool) : Option Class :=
  match letter, unicode with
  | 'd', true => some (.named [Text.Category.decimalNumber] negated false)
  | 'd', false => some (.named [.ofText "30-39"] negated false)
  | 's', true => some (.named [Text.Property.whiteSpace] negated false)
  | 's', false => some (.named [.ofText "9-D 20"] negated false)
  | 'w', true => some (.named Text.Property.word negated false)
  | 'w', false => some (.named [.ofText "30-39 41-5A 5F 61-7A"] negated false)
  | _, _ => none

/-- The ASCII classes by their names. -/
def asciiTable? (name : String) : Option CharSet :=
  match name with
  | "alnum" => some (.ofText "30-39 41-5A 61-7A")
  | "alpha" => some (.ofText "41-5A 61-7A")
  | "ascii" => some (.ofText "0-7F")
  | "blank" => some (.ofText "9 20")
  | "cntrl" => some (.ofText "0-1F 7F")
  | "digit" => some (.ofText "30-39")
  | "graph" => some (.ofText "21-7E")
  | "lower" => some (.ofText "61-7A")
  | "print" => some (.ofText "20-7E")
  | "punct" => some (.ofText "21-2F 3A-40 5B-60 7B-7E")
  | "space" => some (.ofText "9-D 20")
  | "upper" => some (.ofText "41-5A")
  | "word" => some (.ofText "30-39 41-5A 5F 61-7A")
  | "xdigit" => some (.ofText "30-39 41-46 61-66")
  | _ => none

/-- A property name without `is` at the start, without separators and in lower case. -/
def plainName (name : List Char) : String :=
  let (cs, stripped) := match name with
    | 'i' :: 's' :: more => (more, true)
    | 'I' :: 'S' :: more => (more, true)
    | 'i' :: 'S' :: more => (more, true)
    | 'I' :: 's' :: more => (more, true)
    | _ => (name, false)
  let kept := (cs.filter fun c => c != ' ' && c != '_' && c != '-' && c.toNat < 0x80).map
    Text.Casing.asciiLower
  if stripped && kept == ['c'] then "isc" else String.ofList kept

/-- The sets of a general category and whether they have to be complemented. -/
def category? (name : String) : Option (List CharSet × Bool) :=
  let all := Text.Category.sets.map Prod.snd
  match name with
  | "cn" => some (all, true)
  | "unassigned" => some (all, true)
  | "c" => some (["Cc", "Cf", "Co"].foldl without all, true)
  | "other" => some (["Cc", "Cf", "Co"].foldl without all, true)
  | _ => (Text.Property.find? Text.Property.categories name).map fun tables => (tables, false)
where
  /-- The sets without the one of a category. -/
  without (sets : List CharSet) (name : String) : List CharSet :=
    let gone := (Text.Category.sets.find? fun s => s.1 == name).map fun s => s.2.ranges
    sets.filter fun s => some s.ranges != gone

/-- The sets behind a property name that stands alone. -/
def property? (name : String) : Option (List CharSet × Bool) :=
  let binary :=
    if name == "cf" || name == "sc" || name == "lc" then none
    else Text.Property.find? Text.Property.binary name
  match binary with
  | some tables => some (tables, false)
  | none =>
    match category? name with
    | some found => some found
    | none => (Text.Property.find? Text.Script.sets name).map fun s => ([s], false)

/-- The sets behind a property name with a value. -/
def propertyValue? (name value : String) : Option (List CharSet × Bool) :=
  if name == "gc" || name == "generalcategory" then category? value
  else if name == "sc" || name == "script" || name == "scx" || name == "scriptextensions" then
    (Text.Property.find? Text.Script.sets value).map fun s => ([s], false)
  else none

/-- The class that a property description stands for: a name, or a name and a value with `=`, `:` or
`!=` between them. -/
def ofProperty? (description : List Char) (negated : Bool) : Option Class :=
  let build (found : Option (List CharSet × Bool)) (negated : Bool) : Option Class :=
    found.map fun (tables, complement) => .named tables (complement != negated) true
  match cutNotEqual description with
  | some (name, value) => build (propertyValue? (plainName name) (plainName value)) (!negated)
  | none =>
    match cutFirst ':' description with
    | some (name, value) => build (propertyValue? (plainName name) (plainName value)) negated
    | none =>
      match cutFirst '=' description with
      | some (name, value) => build (propertyValue? (plainName name) (plainName value)) negated
      | none => build (property? (plainName description)) negated
where
  /-- What stands before and after the first `!=`. -/
  cutNotEqual : List Char → Option (List Char × List Char)
    | '!' :: '=' :: rest => some ([], rest)
    | c :: rest => (cutNotEqual rest).map fun (before, after) => (c :: before, after)
    | [] => none
  /-- What stands before and after the first mark. -/
  cutFirst (mark : Char) : List Char → Option (List Char × List Char)
    | [] => none
    | c :: rest =>
      if c = mark then some ([], rest)
      else (cutFirst mark rest).map fun (before, after) => (c :: before, after)

end Class

end Harvest.Pattern
