import Harvest.Markup.Document
import Mathlib.Logic.Relation

/-!
# Documents as trees

The nodes of a document stand in document order, and the descendants of a node are the nodes behind it that
lie deeper, without a gap (`Document.mem_descendants`). Two facts about depths make that the same as going
up from parent to parent (`Document.Nested.mem_descendants_iff`): an outermost node has depth zero, and any
other one is a descendant of its parent, one deeper. Every page has them, since a subtree is written down
whole before what follows it (`Document.nested_ofDraft`).
-/

namespace Harvest.Markup

namespace Document

variable {d : Document} {a k m n p : Nat}

/-! ## Descendants -/

theorem deeperFrom_succ (d : Document) (depth count n : Nat) :
    d.deeperFrom depth (count + 1) n =
      if depth < d.depth n then n :: d.deeperFrom depth count (n + 1) else [] := by
  rw [deeperFrom, Document.depth]
  cases d.nodes[n]? with
  | none => exact (if_neg (Nat.not_lt_zero depth)).symm
  | some node => rfl

theorem mem_deeperFrom {depth count : Nat} :
    m ∈ d.deeperFrom depth count n ↔
      m < n + count ∧ n ≤ m ∧ ∀ k, n ≤ k → k ≤ m → depth < d.depth k := by
  induction count generalizing n with
  | zero =>
    rw [deeperFrom]
    simp only [List.not_mem_nil, false_iff]
    omega
  | succ count ih =>
    rw [deeperFrom_succ]
    by_cases hdeep : depth < d.depth n
    · rw [if_pos hdeep, List.mem_cons, ih]
      constructor
      · rintro (rfl | ⟨hlt, hle, hall⟩)
        · refine ⟨by omega, Nat.le_refl m, fun k hmk hkm => ?_⟩
          obtain rfl : k = m := Nat.le_antisymm hkm hmk
          exact hdeep
        · refine ⟨by omega, by omega, fun k hnk hkm => ?_⟩
          rcases Nat.eq_or_lt_of_le hnk with rfl | hnk
          · exact hdeep
          · exact hall k hnk hkm
      · rintro ⟨hlt, hle, hall⟩
        rcases Nat.eq_or_lt_of_le hle with rfl | hbehind
        · exact Or.inl rfl
        · exact Or.inr ⟨by omega, hbehind, fun k hnk hkm => hall k (by omega) hkm⟩
    · rw [if_neg hdeep]
      simp only [List.not_mem_nil, false_iff]
      rintro ⟨-, hle, hall⟩
      exact hdeep (hall n (Nat.le_refl n) hle)

theorem lt_size_of_depth_pos (h : 0 < d.depth n) : n < d.nodes.size := by
  refine Nat.lt_of_not_le fun hge => ?_
  rw [Document.depth, Array.getElem?_eq_none hge] at h
  exact Nat.lt_irrefl 0 h

/-- The descendants of a node are the nodes behind it up to the first that lies no deeper. -/
theorem mem_descendants :
    m ∈ d.descendants n ↔ n < m ∧ ∀ k, n < k → k ≤ m → d.depth n < d.depth k := by
  rw [descendants, mem_deeperFrom]
  constructor
  · rintro ⟨-, hlt, hall⟩
    exact ⟨hlt, hall⟩
  · rintro ⟨hlt, hall⟩
    have hm := lt_size_of_depth_pos (Nat.lt_of_le_of_lt (Nat.zero_le _) (hall m hlt (Nat.le_refl m)))
    exact ⟨by omega, hlt, hall⟩

theorem descendants_interval (ha : a ∈ d.descendants n) (hlow : n < k) (hhigh : k ≤ a) :
    k ∈ d.descendants n :=
  mem_descendants.2 ⟨hlow, fun j hj hjk => (mem_descendants.1 ha).2 j hj (Nat.le_trans hjk hhigh)⟩

theorem descendants_trans (hm : m ∈ d.descendants k) (hk : k ∈ d.descendants n) :
    m ∈ d.descendants n := by
  obtain ⟨hkm, hbelow⟩ := mem_descendants.1 hm
  obtain ⟨hnk, habove⟩ := mem_descendants.1 hk
  refine mem_descendants.2 ⟨Nat.lt_trans hnk hkm, fun j hj hjm => ?_⟩
  by_cases hjk : j ≤ k
  · exact habove j hj hjk
  · exact Nat.lt_trans (habove k hnk (Nat.le_refl k)) (hbelow j (Nat.lt_of_not_le hjk) hjm)

/-- What comes after a node without being among its descendants comes after all of them. -/
theorem lt_of_not_mem_descendants (ha : a ∈ d.descendants n) (hlow : n < k)
    (hout : k ∉ d.descendants n) : a < k :=
  Nat.lt_of_not_le fun hhigh => hout (descendants_interval ha hlow hhigh)

theorem deeperFrom_ascending (d : Document) (depth count n : Nat) :
    (d.deeperFrom depth count n).Pairwise (· < ·) := by
  induction count generalizing n with
  | zero => exact .nil
  | succ count ih =>
    rw [deeperFrom_succ]
    split
    · exact List.pairwise_cons.2 ⟨fun m hm => (mem_deeperFrom.1 hm).2.1, ih (n + 1)⟩
    · exact .nil

/-- Descendants stand in document order. -/
theorem descendants_ascending (d : Document) (n : Nat) : (d.descendants n).Pairwise (· < ·) :=
  deeperFrom_ascending d _ _ _

/-! ## The tree -/

/-- A node lies within another one: that is its parent, or around its parent. -/
def LiesIn (d : Document) : Nat → Nat → Prop :=
  Relation.TransGen fun m p => d.parent? m = some p

/-- Depths and parents say the same. -/
structure Nested (d : Document) : Prop where
  depth_of_outermost : ∀ n, d.parent? n = none → d.depth n = 0
  depth_of_parent : ∀ n p, d.parent? n = some p → d.depth n = d.depth p + 1
  mem_of_parent : ∀ n p, d.parent? n = some p → n ∈ d.descendants p

theorem Nested.mem_descendants_of_liesIn (hd : d.Nested) (h : d.LiesIn m n) : m ∈ d.descendants n := by
  induction h with
  | single hparent => exact hd.mem_of_parent _ _ hparent
  | tail _ hparent ih => exact descendants_trans ih (hd.mem_of_parent _ _ hparent)

theorem Nested.liesIn_of_mem_descendants (hd : d.Nested) (h : m ∈ d.descendants n) : d.LiesIn m n := by
  induction m using Nat.strongRecOn with
  | ind m ih =>
    obtain ⟨hnm, hall⟩ := mem_descendants.1 h
    have hdeeper := hall m hnm (Nat.le_refl m)
    cases hparent : d.parent? m with
    | none =>
      have hzero := hd.depth_of_outermost m hparent
      omega
    | some p =>
      have hdepth := hd.depth_of_parent m p hparent
      obtain ⟨hpm, hbelow⟩ := mem_descendants.1 (hd.mem_of_parent m p hparent)
      rcases Nat.lt_trichotomy p n with hpn | rfl | hnp
      · -- then `n` would lie below the parent, and be as deep as `m` at least
        have hn := hbelow n hpn (Nat.le_of_lt hnm)
        omega
      · exact .single hparent
      · exact .head hparent (ih p hpm (descendants_interval h hnp (Nat.le_of_lt hpm)))

/-- The descendants of a node are the nodes that lie in it. -/
theorem Nested.mem_descendants_iff (hd : d.Nested) : m ∈ d.descendants n ↔ d.LiesIn m n :=
  ⟨hd.liesIn_of_mem_descendants, hd.mem_descendants_of_liesIn⟩

/-! ## Writing a page down -/

section writing
variable {acc : Array Node} {node : Node} {pending : List Pending}

theorem depth_push_self : (⟨acc.push node⟩ : Document).depth acc.size = node.depth := by
  rw [Document.depth, Array.getElem?_push_size]
  rfl

theorem depth_push_of_ne (h : n ≠ acc.size) :
    (⟨acc.push node⟩ : Document).depth n = (⟨acc⟩ : Document).depth n := by
  rw [Document.depth, Document.depth, Array.getElem?_push, if_neg h]

theorem parent?_push_self : (⟨acc.push node⟩ : Document).parent? acc.size = node.parent := by
  rw [Document.parent?, Array.getElem?_push_size]
  rfl

theorem parent?_push_of_ne (h : n ≠ acc.size) :
    (⟨acc.push node⟩ : Document).parent? n = (⟨acc⟩ : Document).parent? n := by
  rw [Document.parent?, Document.parent?, Array.getElem?_push, if_neg h]

theorem lt_size_of_parent? {q : Nat} (h : (⟨acc⟩ : Document).parent? n = some q) : n < acc.size := by
  refine Nat.lt_of_not_le fun hge => ?_
  rw [Document.parent?, Array.getElem?_eq_none hge] at h
  cases h

theorem mem_descendants_push (hm : m < acc.size) :
    m ∈ (⟨acc.push node⟩ : Document).descendants n ↔ m ∈ (⟨acc⟩ : Document).descendants n := by
  rw [mem_descendants, mem_descendants]
  refine and_congr_right fun hnm => forall_congr' fun k => imp_congr_right fun hnk =>
    imp_congr_right fun hkm => ?_
  rw [depth_push_of_ne (by omega), depth_push_of_ne (by omega)]

/-- A subtree may be written down next: all that has been written since its parent lies deeper than that. -/
structure Attached (acc : Array Node) (p : Pending) : Prop where
  depth_of_outermost : p.parent = none → p.depth = 0
  lt_size : ∀ q, p.parent = some q → q < acc.size
  depth_of_parent : ∀ q, p.parent = some q → p.depth = (⟨acc⟩ : Document).depth q + 1
  deeper : ∀ q, p.parent = some q → ∀ k, q < k → k < acc.size →
    (⟨acc⟩ : Document).depth q < (⟨acc⟩ : Document).depth k

theorem nested_push {draft : Nat} {content : NodeContent} {p : Pending} (hd : (⟨acc⟩ : Document).Nested)
    (hp : Attached acc p) :
    (⟨acc.push ⟨content, p.depth, p.parent, draft⟩⟩ : Document).Nested where
  depth_of_outermost := by
    intro n hnone
    by_cases hn : n = acc.size
    · subst hn
      rw [parent?_push_self] at hnone
      rw [depth_push_self]
      exact hp.depth_of_outermost hnone
    · rw [parent?_push_of_ne hn] at hnone
      rw [depth_push_of_ne hn]
      exact hd.depth_of_outermost n hnone
  depth_of_parent := by
    intro n q hparent
    by_cases hn : n = acc.size
    · subst hn
      rw [parent?_push_self] at hparent
      rw [depth_push_self, depth_push_of_ne (Nat.ne_of_lt (hp.lt_size q hparent))]
      exact hp.depth_of_parent q hparent
    · rw [parent?_push_of_ne hn] at hparent
      have hq : q < n := (mem_descendants.1 (hd.mem_of_parent n q hparent)).1
      have hsize := lt_size_of_parent? hparent
      rw [depth_push_of_ne hn, depth_push_of_ne (by omega)]
      exact hd.depth_of_parent n q hparent
  mem_of_parent := by
    intro n q hparent
    by_cases hn : n = acc.size
    · subst hn
      rw [parent?_push_self] at hparent
      have hq := hp.lt_size q hparent
      refine mem_descendants.2 ⟨hq, fun k hqk hk => ?_⟩
      rw [depth_push_of_ne (Nat.ne_of_lt hq)]
      by_cases hlast : k = acc.size
      · rw [hlast, depth_push_self]
        exact Nat.lt_of_lt_of_eq (Nat.lt_succ_self _) (hp.depth_of_parent q hparent).symm
      · rw [depth_push_of_ne hlast]
        exact hp.deeper q hparent k hqk (by omega)
    · rw [parent?_push_of_ne hn] at hparent
      rw [mem_descendants_push (lt_size_of_parent? hparent)]
      exact hd.mem_of_parent n q hparent

/-- A subtree that waits may still be written after a node that lies as deep at least. -/
theorem Attached.push {p : Pending} (hp : Attached acc p) (hdepth : p.depth ≤ node.depth) :
    Attached (acc.push node) p where
  depth_of_outermost := hp.depth_of_outermost
  lt_size := by
    intro q hq
    rw [Array.size_push]
    exact Nat.lt_succ_of_lt (hp.lt_size q hq)
  depth_of_parent := by
    intro q hq
    rw [depth_push_of_ne (Nat.ne_of_lt (hp.lt_size q hq))]
    exact hp.depth_of_parent q hq
  deeper := by
    intro q hq k hqk hk
    rw [Array.size_push] at hk
    have hown := hp.depth_of_parent q hq
    rw [depth_push_of_ne (Nat.ne_of_lt (hp.lt_size q hq))]
    by_cases hlast : k = acc.size
    · rw [hlast, depth_push_self]
      omega
    · rw [depth_push_of_ne hlast]
      exact hp.deeper q hq k hqk (by omega)

theorem attached_child (node : Node) (child : Nat) :
    Attached (acc.push node) ⟨child, node.depth + 1, some acc.size⟩ where
  depth_of_outermost := nofun
  lt_size := by
    rintro q ⟨⟩
    rw [Array.size_push]
    exact Nat.lt_succ_self _
  depth_of_parent := by
    rintro q ⟨⟩
    rw [depth_push_self]
  deeper := by
    rintro q ⟨⟩ k hlow hhigh
    rw [Array.size_push] at hhigh
    omega

/-- What has been written is nested and stays so: the subtrees that wait are attached, the deepest first. -/
theorem nested_flatten (draft : Draft) (rounds : Nat) (hd : (⟨acc⟩ : Document).Nested)
    (hattached : ∀ p ∈ pending, Attached acc p)
    (hsorted : pending.Pairwise fun p q => q.depth ≤ p.depth) :
    (⟨flatten draft rounds acc pending⟩ : Document).Nested := by
  induction rounds generalizing acc pending with
  | zero => cases pending <;> exact hd
  | succ rounds ih =>
    cases pending with
    | nil => exact hd
    | cons p more =>
      obtain ⟨hp, hmore⟩ := List.forall_mem_cons.1 hattached
      obtain ⟨hfirst, hrest⟩ := List.pairwise_cons.1 hsorted
      rw [flatten]
      cases hnode : draft.nodes[p.node]? with
      | none => exact ih hd hmore hrest
      | some node =>
        refine ih (nested_push hd hp) ?_ ?_
        · intro q hq
          rcases List.mem_append.1 hq with hchild | hq
          · obtain ⟨c, -, rfl⟩ := List.mem_map.1 hchild
            exact attached_child ⟨contentOf node.kind, p.depth, p.parent, p.node⟩ c
          · exact (hmore q hq).push (hfirst q hq)
        · refine List.pairwise_append.2 ⟨?_, hrest, ?_⟩
          · rw [List.pairwise_map]
            exact List.pairwise_of_forall fun _ _ => Nat.le_refl _
          · intro q hq r hr
            obtain ⟨c, -, rfl⟩ := List.mem_map.1 hq
            exact Nat.le_succ_of_le (hfirst r hr)

theorem nested_empty : (⟨#[]⟩ : Document).Nested where
  depth_of_outermost := fun _ _ => rfl
  depth_of_parent := nofun
  mem_of_parent := nofun

end writing

/-- Every page is nested. -/
theorem nested_ofDraft (draft : Draft) : (ofDraft draft).Nested := by
  refine nested_flatten draft _ nested_empty ?_ ?_
  · intro p hp
    obtain ⟨c, -, rfl⟩ := List.mem_map.1 hp
    exact ⟨fun _ => rfl, nofun, nofun, nofun⟩
  · rw [List.pairwise_map]
    exact List.pairwise_of_forall fun _ _ => Nat.le_refl 0

theorem nested_parse (text : String) : (parse text).Nested :=
  nested_ofDraft _

end Document

end Harvest.Markup
