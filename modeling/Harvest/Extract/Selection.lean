import Harvest.Selector.Matching
import Harvest.Selector.Parser

/-!
# Selections

A `Selection` is a list of distinct elements of one document. `Selection.find` looks for elements below
the selected ones: it keeps the order in which they are met, and each element once. The text of a
selection is the text of all its elements; attributes and own text are read from the first one.
-/

namespace Harvest

open Markup (Document Element)

/-- Elements of a document. -/
structure Selection where
  document : Document
  nodes : List Nat
  deriving Inhabited

namespace Selection

/-- The elements of a list, each once, in the order in which they are met. -/
def distinct : List Nat → List Nat
  | [] => []
  | n :: more => n :: (distinct more).filter (· != n)

/-- The selection of the given elements. -/
def ofNodes (d : Document) (ns : List Nat) : Selection :=
  ⟨d, distinct ns⟩

/-- No element. -/
def none (d : Document) : Selection :=
  ⟨d, []⟩

/-- The outermost element. -/
def root (d : Document) : Selection :=
  ⟨d, [d.root]⟩

/-- The elements of a document that match a selector, in the order in which they were made. -/
def select (d : Document) (s : Selector) : Selection :=
  .ofNodes d (d.elementsByBirth.filter (Selector.matchesElement s d Option.none))

/-- The elements within an element that match a selector, in document order. -/
def matchesWithin (d : Document) (s : Selector) (n : Nat) : List Nat :=
  (d.elementsOf (d.descendants n)).filter (Selector.matchesElement s d (some n))

/-- The elements below the selected ones that match a selector. -/
def find (sel : Selection) (s : Selector) : Selection :=
  .ofNodes sel.document (sel.nodes.flatMap (matchesWithin sel.document s))

/-- The first element. -/
def first (sel : Selection) : Selection :=
  ⟨sel.document, sel.nodes.take 1⟩

/-- The selections of one element each. -/
def each (sel : Selection) : List Selection :=
  sel.nodes.map fun n => ⟨sel.document, [n]⟩

/-- The number of elements. -/
def size (sel : Selection) : Nat :=
  sel.nodes.length

/-- Whether there is no element. -/
def isEmpty (sel : Selection) : Bool :=
  sel.nodes.isEmpty

/-- The text within all elements. -/
def text (sel : Selection) : String :=
  String.join (sel.nodes.map sel.document.text)

/-- The text just within the first element. -/
def ownText (sel : Selection) : String :=
  (sel.nodes.head?.map sel.document.ownText).getD ""

/-- An attribute of an element. -/
def attributeOf? (d : Document) (name : String) (n : Nat) : Option String :=
  (d.element? n).bind fun e => e.attribute? name

/-- An attribute of the first element. -/
def attribute? (sel : Selection) (name : String) : Option String :=
  sel.nodes.head?.bind (attributeOf? sel.document name)

/-- The names of the elements. -/
def names (sel : Selection) : List String :=
  sel.nodes.map fun n => ((sel.document.element? n).map (·.name)).getD ""

end Selection

/-- The elements of a document that the text of a selector describes: the outermost one if the text is
empty, and none if it is no selector. -/
def Selection.ofDocument (d : Document) (selector : String) : Selection :=
  if selector.isEmpty then .root d
  else match Selector.parse? selector with
    | some s => .select d s
    | Option.none => .none d

end Harvest
