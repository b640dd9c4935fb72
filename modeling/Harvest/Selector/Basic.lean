/-!
# Selectors

A selector describes elements. A `Simple` selector looks at one element, a compound is a list of simple
selectors that must all match, and a `Complex` selector chains compounds by the relation between the
elements that they match. A list of complex selectors matches what any of them matches.
-/

namespace Harvest.Selector

/-- The relation between two elements, the left one first. -/
inductive Combinator where
  | descendant
  | child
  | nextSibling
  | laterSibling
  deriving DecidableEq, Repr

/-- How an attribute value is compared. -/
inductive Comparison where
  | equal
  /-- One of the words. -/
  | word
  /-- The whole value, or what stands before a hyphen. -/
  | language
  | start
  | ending
  | part
  deriving DecidableEq, Repr

/-- Whether letter case counts in an attribute value. -/
inductive CaseRule where
  | sensitive
  | insensitive
  /-- Insensitive for ordinary elements only. -/
  | byElement
  deriving DecidableEq, Repr

/-- A condition on an attribute. -/
structure AttributeTest where
  name : String
  /-- Whether attributes with a vocabulary of their own count too. -/
  anyVocabulary : Bool
  /-- The comparison, unless it is enough that the attribute is there. -/
  value : Option (Comparison × String × CaseRule)
  deriving Repr

/-- The positions `step * n + offset` among siblings. -/
structure Position where
  step : Int
  offset : Int
  fromEnd : Bool
  /-- Whether only siblings of the same name count. -/
  ofType : Bool
  deriving Repr

mutual

/-- A condition on one element. -/
inductive Simple where
  /-- No element satisfies it. -/
  | nothing
  | anyElement
  | elementName (name : String)
  | id (name : String)
  | hasClass (name : String)
  | attribute (test : AttributeTest)
  | position (test : Position)
  | root
  | empty
  | scope
  | isAny (alternatives : List Complex)
  | isNone (alternatives : List Complex)
  /-- Some element satisfies one of the selectors, which start at this element. -/
  | has (alternatives : List Complex)

/-- Compounds in a chain. -/
inductive Complex where
  /-- The element at which a relative selector starts. -/
  | anchor
  | compound (parts : List Simple)
  | chain (left : Complex) (combinator : Combinator) (parts : List Simple)

end

end Harvest.Selector

namespace Harvest

/-- A selector: it matches what any of the alternatives matches. -/
structure Selector where
  alternatives : List Selector.Complex

end Harvest
