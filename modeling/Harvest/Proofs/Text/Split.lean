import Harvest.Text.Clean
import Harvest.Text.Split

/-!
# Pieces, cuts and ends

Pieces that hold no separator come back when they are joined and split again
(`splitWhere_intercalate`, `intercalate_splitWhere`), and a cut falls at the first separator (`cutAt_append`). Trimming leaves a
text that neither begins nor ends with what is trimmed (`trimWhere_eq_self`).
-/

namespace Harvest.Text

variable {α : Type} {p : α → Bool} {s : α}

theorem splitWhere_of_none {xs : List α} (h : ∀ x ∈ xs, p x = false) : splitWhere p xs = [xs] := by
  induction xs with
  | nil => rfl
  | cons x xs ih =>
    rw [splitWhere, h x (List.mem_cons_self ..), ih fun x hx => h x (List.mem_cons_of_mem _ hx)]
    rfl

theorem splitWhere_ne_nil (p : α → Bool) (xs : List α) : splitWhere p xs ≠ [] := by
  cases xs with
  | nil => exact List.cons_ne_nil _ _
  | cons x xs =>
    rw [splitWhere]
    split
    · exact List.cons_ne_nil _ _
    · split <;> exact List.cons_ne_nil _ _

/-- The pieces in front of a separator and those behind it are the pieces of the whole. -/
theorem splitWhere_append_cons (hs : p s = true) (xs ys : List α) :
    splitWhere p (xs ++ s :: ys) = splitWhere p xs ++ splitWhere p ys := by
  induction xs with
  | nil =>
    change splitWhere p (s :: ys) = [] :: splitWhere p ys
    rw [splitWhere, if_pos hs]
  | cons x xs ih =>
    rw [List.cons_append, splitWhere, splitWhere, ih]
    split
    · rfl
    · cases hxs : splitWhere p xs with
      | nil => exact absurd hxs (splitWhere_ne_nil p xs)
      | cons piece more => rfl

theorem splitWhere_append {xs : List α} (h : ∀ x ∈ xs, p x = false) (hs : p s = true)
    (ys : List α) : splitWhere p (xs ++ s :: ys) = xs :: splitWhere p ys := by
  rw [splitWhere_append_cons hs, splitWhere_of_none h]
  rfl

/-- Pieces without separators are the pieces of the text that joins them. -/
theorem splitWhere_intercalate {pieces : List (List α)} (hne : pieces ≠ [])
    (h : ∀ piece ∈ pieces, ∀ x ∈ piece, p x = false) (hs : p s = true) :
    splitWhere p ([s].intercalate pieces) = pieces := by
  induction pieces with
  | nil => exact absurd rfl hne
  | cons piece pieces ih =>
    have hpiece := h piece (List.mem_cons_self ..)
    cases pieces with
    | nil => rw [List.intercalate_singleton, splitWhere_of_none hpiece]
    | cons next more =>
      rw [List.intercalate_cons_cons, List.append_assoc, List.singleton_append, splitWhere_append hpiece hs,
        ih (List.cons_ne_nil next more) fun piece hp => h piece (List.mem_cons_of_mem _ hp)]

theorem of_mem_splitWhere {xs piece : List α} (h : piece ∈ splitWhere p xs) : ∀ x ∈ piece, p x = false := by
  induction xs generalizing piece with
  | nil =>
    obtain rfl := List.mem_singleton.1 h
    simp
  | cons x xs ih =>
    rw [splitWhere] at h
    split at h
    · rcases List.mem_cons.1 h with rfl | hmore
      · simp
      · exact ih hmore
    · next hx =>
      cases hxs : splitWhere p xs with
      | nil => exact absurd hxs (splitWhere_ne_nil p xs)
      | cons first more =>
        rw [hxs] at h
        rcases List.mem_cons.1 h with rfl | hmore
        · have hfirst := ih (hxs ▸ List.mem_cons_self)
          exact List.forall_mem_cons.2 ⟨Bool.eq_false_iff.2 hx, hfirst⟩
        · exact ih (hxs ▸ List.mem_cons_of_mem first hmore)

theorem intercalate_splitWhere (honly : ∀ x, p x = true → x = s) (xs : List α) :
    [s].intercalate (splitWhere p xs) = xs := by
  induction xs with
  | nil => rfl
  | cons x xs ih =>
    rw [splitWhere]
    cases hxs : splitWhere p xs with
    | nil => exact absurd hxs (splitWhere_ne_nil p xs)
    | cons first more =>
      rw [hxs] at ih
      split
      · next hx =>
        rw [List.intercalate_cons_cons, ih, honly x hx]
        rfl
      · cases more with
        | nil =>
          rw [List.intercalate_singleton] at ih ⊢
          rw [ih]
        | cons next more =>
          rw [List.intercalate_cons_cons] at ih ⊢
          rw [List.cons_append, List.cons_append, ih]

theorem map_intercalate {β : Type} (f : α → β) (s : α) (pieces : List (List α)) :
    ([s].intercalate pieces).map f = [f s].intercalate (pieces.map (List.map f)) := by
  induction pieces with
  | nil => rfl
  | cons piece pieces ih =>
    cases pieces with
    | nil => simp
    | cons next more =>
      rw [List.map_cons, List.map_cons, List.intercalate_cons_cons, List.intercalate_cons_cons,
        List.map_append, List.map_append, ih]
      rfl

theorem cutAt_of_none {xs : List α} (h : ∀ x ∈ xs, p x = false) : cutAt p xs = (xs, none) := by
  induction xs with
  | nil => rfl
  | cons x xs ih =>
    rw [cutAt, h x (List.mem_cons_self ..), ih fun x hx => h x (List.mem_cons_of_mem _ hx)]
    rfl

theorem cutAt_append {xs : List α} (h : ∀ x ∈ xs, p x = false) (hs : p s = true) (ys : List α) :
    cutAt p (xs ++ s :: ys) = (xs, some ys) := by
  induction xs with
  | nil => rw [List.nil_append, cutAt, if_pos hs]
  | cons x xs ih =>
    rw [List.cons_append, cutAt, h x (List.mem_cons_self ..),
      ih fun x hx => h x (List.mem_cons_of_mem _ hx)]
    rfl

theorem eq_of_cutAt_none {xs before : List α} (h : cutAt p xs = (before, none)) : before = xs := by
  induction xs generalizing before with
  | nil => cases h; rfl
  | cons x xs ih =>
    rw [cutAt] at h
    split at h
    · cases h
    · cases hcut : cutAt p xs with
      | mk first second =>
        rw [hcut] at h
        cases h
        rw [ih hcut]

/-- A cut falls on a separator. -/
theorem eq_of_cutAt {xs before after : List α} (h : cutAt p xs = (before, some after)) :
    ∃ s, p s = true ∧ xs = before ++ s :: after := by
  induction xs generalizing before with
  | nil => cases h
  | cons x xs ih =>
    rw [cutAt] at h
    split at h
    · rename_i hx
      cases h
      exact ⟨x, hx, rfl⟩
    · cases hcut : cutAt p xs with
      | mk first second =>
        rw [hcut] at h
        cases h
        obtain ⟨s, hs, rfl⟩ := ih hcut
        exact ⟨s, hs, rfl⟩

/-! ## Ends -/

theorem dropWhile_eq_self {xs : List α} (h : ∀ x ∈ xs.head?, p x = false) : xs.dropWhile p = xs := by
  cases xs with
  | nil => rfl
  | cons x xs => exact List.dropWhile_cons_of_neg (by simp [h x rfl])

theorem trimWhere_eq_self {xs : List α} (hfirst : ∀ x ∈ xs.head?, p x = false)
    (hlast : ∀ x ∈ xs.getLast?, p x = false) : trimWhere p xs = xs := by
  rw [trimWhere, dropWhile_eq_self hfirst, dropWhile_eq_self, List.reverse_reverse]
  rwa [List.head?_reverse]

end Harvest.Text
