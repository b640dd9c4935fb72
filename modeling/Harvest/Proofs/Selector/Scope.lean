import Harvest.Selector.Matching

/-!
# Selectors that ignore where a search starts

`:scope` stands for the node that a search starts from. A selector that does not mention it matches the same
elements whatever that node is (`Selector.ignoresScope_of_not_mentionsScope`).
-/

namespace Harvest

namespace Selector

open Markup (Document)

/-! ## Mentioning the scope -/

mutual

/-- Whether a condition mentions `:scope`. -/
def Simple.mentionsScope : Simple → Bool
  | .scope => true
  | .isAny alternatives => anyMentionsScope alternatives
  | .isNone alternatives => anyMentionsScope alternatives
  | .has alternatives => anyMentionsScope alternatives
  | _ => false

/-- Whether some of several conditions mentions `:scope`. -/
def partsMentionScope : List Simple → Bool
  | [] => false
  | s :: more => s.mentionsScope || partsMentionScope more

/-- Whether a chain of compounds mentions `:scope`. -/
def Complex.mentionsScope : Complex → Bool
  | .anchor => false
  | .compound parts => partsMentionScope parts
  | .chain left _ parts => left.mentionsScope || partsMentionScope parts

/-- Whether some of several chains mentions `:scope`. -/
def anyMentionsScope : List Complex → Bool
  | [] => false
  | s :: more => s.mentionsScope || anyMentionsScope more

end

/-! ## Matching elsewhere -/

section elsewhere
variable {d : Document} {scope scope' : Option Nat}

mutual

theorem Simple.holds_of_not_mentionsScope : ∀ (s : Simple) (n : Nat), s.mentionsScope = false →
    s.holds ⟨d, scope⟩ n = s.holds ⟨d, scope'⟩ n
  | .nothing, _, _ => rfl
  | .anyElement, _, _ => rfl
  | .elementName _, _, _ => rfl
  | .id _, _, _ => rfl
  | .hasClass _, _, _ => rfl
  | .attribute _, _, _ => rfl
  | .position _, _, _ => rfl
  | .root, _, _ => rfl
  | .empty, _, _ => rfl
  | .isAny alternatives, n, h => by
    rw [Simple.mentionsScope] at h
    rw [Simple.holds, Simple.holds, anyHolds_of_not_mentionsScope alternatives none n h]
  | .isNone alternatives, n, h => by
    rw [Simple.mentionsScope] at h
    rw [Simple.holds, Simple.holds, anyHolds_of_not_mentionsScope alternatives none n h]
  | .has alternatives, n, h => by
    rw [Simple.mentionsScope] at h
    rw [Simple.holds, Simple.holds]
    simp only [anyHolds_of_not_mentionsScope alternatives (some n) _ h]

theorem allHold_of_not_mentionsScope : ∀ (parts : List Simple) (n : Nat),
    partsMentionScope parts = false → allHold ⟨d, scope⟩ n parts = allHold ⟨d, scope'⟩ n parts
  | [], _, _ => rfl
  | s :: more, n, h => by
    rw [partsMentionScope, Bool.or_eq_false_iff] at h
    rw [allHold, allHold, Simple.holds_of_not_mentionsScope s n h.1, allHold_of_not_mentionsScope more n h.2]

theorem Complex.holds_of_not_mentionsScope : ∀ (s : Complex) (anchor : Option Nat) (n : Nat),
    s.mentionsScope = false → s.holds ⟨d, scope⟩ anchor n = s.holds ⟨d, scope'⟩ anchor n
  | .anchor, _, _, _ => rfl
  | .compound parts, anchor, n, h => by
    rw [Complex.mentionsScope] at h
    rw [Complex.holds, Complex.holds, allHold_of_not_mentionsScope parts n h]
  | .chain left combinator parts, anchor, n, h => by
    rw [Complex.mentionsScope, Bool.or_eq_false_iff] at h
    rw [Complex.holds, Complex.holds, allHold_of_not_mentionsScope parts n h.2]
    simp only [Complex.holds_of_not_mentionsScope left anchor _ h.1]

theorem anyHolds_of_not_mentionsScope : ∀ (alternatives : List Complex) (anchor : Option Nat) (n : Nat),
    anyMentionsScope alternatives = false →
      anyHolds ⟨d, scope⟩ anchor n alternatives = anyHolds ⟨d, scope'⟩ anchor n alternatives
  | [], _, _, _ => rfl
  | s :: more, anchor, n, h => by
    rw [anyMentionsScope, Bool.or_eq_false_iff] at h
    rw [anyHolds, anyHolds, Complex.holds_of_not_mentionsScope s anchor n h.1,
      anyHolds_of_not_mentionsScope more anchor n h.2]

end

end elsewhere

/-- It does not matter to a selector below which node of a document an element is searched for. -/
def IgnoresScope (s : Selector) (d : Document) : Prop :=
  ∀ m, (d.element? m).isSome = true →
    ∀ n n', s.matchesElement d (some n) m = s.matchesElement d (some n') m

theorem ignoresScope_of_not_mentionsScope {s : Selector} (h : anyMentionsScope s.alternatives = false)
    (d : Document) : s.IgnoresScope d :=
  fun m _ _ _ => anyHolds_of_not_mentionsScope s.alternatives none m h

end Selector

end Harvest
