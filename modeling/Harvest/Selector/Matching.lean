import Harvest.Markup.Document
import Harvest.Selector.Basic
import Harvest.Text.Casing
import Harvest.Text.Split

/-!
# Matching selectors

`Selector.matchesElement` says whether an element of a document matches a selector. `:scope` stands for
the element that a search started from, or else for the outermost element.
-/

namespace Harvest.Selector

open Markup (Document Element Vocabulary)

/-! ## Relatives of an element -/

/-- The elements around an element, the nearest first; at most `count` of them. -/
def ancestors (d : Document) : Nat → Nat → List Nat
  | 0, _ => []
  | count + 1, n =>
    match d.parentElement? n with
    | some p => p :: ancestors d count p
    | none => []

/-- The elements that share the parent of an element, itself included, in document order. -/
def siblings (d : Document) (n : Nat) : List Nat :=
  match d.parent? n with
  | some p => d.elementsOf (d.children p)
  | none => [n]

/-- The siblings before an element, the nearest first. -/
def siblingsBefore (d : Document) (n : Nat) : List Nat :=
  ((siblings d n).filter (· < n)).reverse

/-- The elements to which a combinator leads leftwards. -/
def leftOf (d : Document) (n : Nat) : Combinator → List Nat
  | .descendant => ancestors d (d.depth n) n
  | .child => (d.parentElement? n).toList
  | .nextSibling => ((siblingsBefore d n).head?).toList
  | .laterSibling => siblingsBefore d n

/-- The elements that a relative selector which starts at an element may lead to. -/
def reachable (d : Document) (n : Nat) : List Nat :=
  let later := (siblings d n).filter (n < ·)
  d.elementsOf (d.descendants n) ++ later.flatMap fun m => m :: d.elementsOf (d.descendants m)

/-! ## Conditions -/

/-- Whether an element has a name; the names of ordinary elements have no capital letters. -/
def hasName (e : Element) (name : String) : Bool :=
  if e.vocabulary == .html then e.name == Text.Casing.asciiLowerString name else e.name == name

/-- The words of an attribute value. -/
def wordsOf (isBlank : Char → Bool) (s : String) : List (List Char) :=
  Text.splitWhere isBlank s.toList

/-- White space between words. -/
def separatesWords (c : Char) : Bool :=
  c == ' ' || c == '\t' || c == '\n' || c == '\r' || c == '\x0c'

/-- Compares characters that have the same case already. -/
def Comparison.holds (c : Comparison) (value wanted : List Char) : Bool :=
  match c with
  | .equal => value == wanted
  | .word => !wanted.isEmpty && (Text.splitWhere separatesWords value).contains wanted
  | .language =>
    value == wanted || (Text.stripStart? wanted value).any fun rest => rest.head? == some '-'
  | .start => !wanted.isEmpty && (Text.stripStart? wanted value).isSome
  | .ending => !wanted.isEmpty && (Text.stripStart? wanted.reverse value.reverse).isSome
  | .part => !wanted.isEmpty && Text.containsPart wanted value

/-- Whether an attribute value satisfies a condition. -/
def valueHolds (e : Element) (value : String) (c : Comparison) (wanted : String)
    (rule : CaseRule) : Bool :=
  let caseless : Bool := match rule with
    | .sensitive => false
    | .insensitive => true
    | .byElement => e.vocabulary == .html
  let fold (s : String) : List Char :=
    if caseless then s.toList.map Text.Casing.asciiLower else s.toList
  c.holds (fold value) (fold wanted)

/-- Whether an element satisfies a condition on an attribute. -/
def AttributeTest.holds (t : AttributeTest) (e : Element) : Bool :=
  let name := if e.vocabulary == .html then Text.Casing.asciiLowerString t.name else t.name
  e.attributes.any fun a =>
    (t.anyVocabulary || !a.qualified) && a.name == name
      && (match t.value with
        | none => true
        | some (c, wanted, rule) => valueHolds e a.value c wanted rule)

/-- Whether an element has a class. -/
def hasClassNamed (e : Element) (name : String) : Bool :=
  match e.attribute? "class" with
  | some v => !name.isEmpty && (wordsOf separatesWords v).contains name.toList
  | none => false

/-- Whether two elements have the same name and vocabulary. -/
def sameType (d : Document) (m n : Nat) : Bool :=
  match d.element? m, d.element? n with
  | some e, some f => e.vocabulary == f.vocabulary && e.name == f.name
  | _, _ => false

/-- Whether an element stands at one of the positions. -/
def Position.holds (p : Position) (d : Document) (n : Nat) : Bool :=
  let counted := (siblings d n).filter fun m =>
    (if p.fromEnd then n ≤ m else m ≤ n) && (!p.ofType || sameType d m n)
  let distance : Int := counted.length - p.offset
  if p.step = 0 then distance = 0 else distance % p.step = 0 && 0 ≤ distance / p.step

/-- Whether an element holds neither text nor elements. -/
def isEmptyElement (d : Document) (n : Nat) : Bool :=
  (d.children n).all fun m =>
    match (d.nodes[m]?).map (·.content) with
    | some (Markup.NodeContent.comment _) => true
    | some Markup.NodeContent.doctype => true
    | _ => false

/-- Where a search takes place. -/
structure Context where
  document : Document
  /-- The element that the search started from. -/
  scope : Option Nat

mutual

/-- Whether an element satisfies a condition. -/
def Simple.holds (c : Context) (n : Nat) : Simple → Bool
  | .nothing => false
  | .anyElement => true
  | .elementName name => (c.document.element? n).any fun e => hasName e name
  | .id name => ((c.document.element? n).bind fun e => e.attribute? "id") == some name
  | .hasClass name => (c.document.element? n).any fun e => hasClassNamed e name
  | .attribute t => (c.document.element? n).any t.holds
  | .position p => p.holds c.document n
  | .root => (c.document.parent? n).isNone
  | .empty => isEmptyElement c.document n
  | .scope =>
    match c.scope with
    | some s => s == n
    | none => (c.document.parent? n).isNone
  | .isAny alternatives => anyHolds c none n alternatives
  | .isNone alternatives => !anyHolds c none n alternatives
  | .has alternatives =>
    (reachable c.document n).any fun m => anyHolds c (some n) m alternatives

/-- Whether an element satisfies all conditions. -/
def allHold (c : Context) (n : Nat) : List Simple → Bool
  | [] => true
  | s :: more => s.holds c n && allHold c n more

/-- Whether an element matches a complex selector; `anchor` is the element that a relative one starts
at. -/
def Complex.holds (c : Context) (anchor : Option Nat) (n : Nat) : Complex → Bool
  | .anchor => anchor == some n
  | .compound parts => allHold c n parts
  | .chain left combinator parts =>
    allHold c n parts
      && (leftOf c.document n combinator).any fun m => left.holds c anchor m

/-- Whether an element matches one of several complex selectors. -/
def anyHolds (c : Context) (anchor : Option Nat) (n : Nat) : List Complex → Bool
  | [] => false
  | s :: more => s.holds c anchor n || anyHolds c anchor n more

end

/-- Whether an element of a document matches a selector. -/
def matchesElement (s : Selector) (d : Document) (scope : Option Nat) (n : Nat) : Bool :=
  anyHolds ⟨d, scope⟩ none n s.alternatives

end Harvest.Selector
