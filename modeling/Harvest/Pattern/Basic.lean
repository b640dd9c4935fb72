import Harvest.Pattern.Class

/-!
# Patterns

An `Expr` is a pattern that has been read. Only the first group that captures is of interest, so that
others are kept for their structure alone, and a group that does not capture is a sequence of one part.
`Expr.height` says how deep a pattern is nested.
-/

namespace Harvest.Pattern

/-- A condition on a place in the text. -/
inductive Look where
  | textStart
  | textEnd
  | lineStart
  | lineEnd
  /-- Line ends are line feeds, carriage returns and pairs of both. -/
  | anyLineStart
  | anyLineEnd
  | wordBoundary (unicode : Bool)
  | noWordBoundary (unicode : Bool)
  | wordStart (unicode : Bool)
  | wordEnd (unicode : Bool)
  /-- No character of a word before. -/
  | halfStart (unicode : Bool)
  /-- No character of a word behind. -/
  | halfEnd (unicode : Bool)
  deriving DecidableEq, Repr

/-- A pattern that has been read. -/
inductive Expr where
  | empty
  /-- One character of a class. -/
  | one (set : Class) (folding : Folding)
  | look (condition : Look)
  /-- A group that captures; `first` marks the first one. -/
  | group (first : Bool) (inner : Expr)
  | sequence (parts : List Expr)
  /-- The first alternative that leads to a match counts. -/
  | choice (alternatives : List Expr)
  | repeated (inner : Expr) (least : Nat) (most : Option Nat) (greedy : Bool)
  deriving Inhabited

namespace Expr

/-- Several expressions in a row. -/
def ofParts : List Expr → Expr
  | [] => .empty
  | [e] => e
  | parts => .sequence parts

/-- One of several expressions. -/
def ofAlternatives : List Expr → Expr
  | [e] => e
  | alternatives => .choice alternatives

mutual

/-- How deep a pattern is nested. -/
def height : Expr → Nat
  | .empty => 0
  | .one set _ => set.height
  | .look _ => 0
  | .group _ inner => 1 + height inner
  | .sequence parts => 1 + greatestHeight parts
  | .choice alternatives => 1 + greatestHeight alternatives
  | .repeated inner _ _ _ => 1 + height inner

/-- The greatest of several heights. -/
def greatestHeight : List Expr → Nat
  | [] => 0
  | e :: more => max (height e) (greatestHeight more)

end

mutual

/-- Whether a pattern matches the empty text only. -/
def onlyEmpty : Expr → Bool
  | .empty => true
  | .one .. => false
  | .look _ => true
  | .group _ inner => onlyEmpty inner
  | .sequence parts => allOnlyEmpty parts
  | .choice alternatives => allOnlyEmpty alternatives
  | .repeated inner _ most _ => most == some 0 || onlyEmpty inner

/-- Whether several patterns match the empty text only. -/
def allOnlyEmpty : List Expr → Bool
  | [] => true
  | e :: more => onlyEmpty e && allOnlyEmpty more

end

mutual

/-- Whether a pattern may match the empty text. -/
def mayBeEmpty : Expr → Bool
  | .empty => true
  | .one .. => false
  | .look _ => true
  | .group _ inner => mayBeEmpty inner
  | .sequence parts => allMayBeEmpty parts
  | .choice alternatives => someMayBeEmpty alternatives
  | .repeated inner least _ _ => least == 0 || mayBeEmpty inner

/-- Whether each of several patterns may match the empty text. -/
def allMayBeEmpty : List Expr → Bool
  | [] => true
  | e :: more => mayBeEmpty e && allMayBeEmpty more

/-- Whether one of several patterns may match the empty text. -/
def someMayBeEmpty : List Expr → Bool
  | [] => false
  | e :: more => mayBeEmpty e || someMayBeEmpty more

end

/-- The bounds of a repetition; more than one round of the empty text is no different from one. -/
def bounds (inner : Expr) (least : Nat) (most : Option Nat) : Nat × Option Nat :=
  if onlyEmpty inner then (min least 1, some (min (most.getD 1) 1)) else (least, most)

end Expr

end Harvest.Pattern
