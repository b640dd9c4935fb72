import Harvest.Text.CodeMap
import Mathlib.Data.List.Chain

/-!
# Tables of characters

A set holds exactly the characters of its ranges, provided that the ranges ascend
(`CharSet.contains_eq_true_iff`). A map moves a character only by one of its runs (`CodeMap.apply_cases`), so
that what no run moves stays (`CodeMap.apply_eq_self`).
-/

namespace Harvest.Text

/-! ## Ranges -/

namespace CharSet

/-- A range lies before another one. -/
def Before (r q : Nat × Nat) : Prop :=
  r.1 < q.1 ∧ r.2 < q.1

instance : DecidableRel Before := fun r q =>
  inferInstanceAs (Decidable (r.1 < q.1 ∧ r.2 < q.1))

instance : Trans Before Before Before where
  trans hpq hqr := ⟨hpq.1.trans hqr.1, hpq.2.trans hqr.1⟩

/-- Every range lies behind the one before it. -/
def Ascending (s : CharSet) : Prop :=
  s.ranges.toList.IsChain Before

theorem exists_of_search {ranges : Array (Nat × Nat)} {n lo hi : Nat}
    (h : search ranges n lo hi = true) : ∃ r ∈ ranges.toList, r.1 ≤ n ∧ n ≤ r.2 := by
  fun_induction search ranges n lo hi with
  | case1 => cases h
  | case2 lo hi _ mid a b _ _ ih => exact ih h
  | case3 lo hi _ mid a b _ _ _ ih => exact ih h
  | case4 lo hi _ mid a b hmid hlow hhigh =>
    exact ⟨(a, b), Array.mem_toList_iff.2 (Array.mem_of_getElem? hmid), Nat.le_of_not_lt hlow,
      Nat.le_of_not_lt hhigh⟩
  | case5 => cases h

/-- The search never leaves the half where a range around the code point is. -/
theorem Ascending.search_eq_true {s : CharSet} (h : s.Ascending) {r : Nat × Nat} {n i lo hi : Nat}
    (hr : s.ranges[i]? = some r) (hlow : r.1 ≤ n) (hhigh : n ≤ r.2) (hlo : lo ≤ i) (hhi : i < hi)
    (hsize : hi ≤ s.ranges.size) : search s.ranges n lo hi = true := by
  have horder : ∀ {j k : Nat} {p q : Nat × Nat}, s.ranges[j]? = some p → s.ranges[k]? = some q → j < k →
      Before p q := by
    intro j k p q hj hk hlt
    rw [← Array.getElem?_toList, List.getElem?_eq_some_iff] at hj hk
    obtain ⟨hjlt, rfl⟩ := hj
    obtain ⟨hklt, rfl⟩ := hk
    exact List.pairwise_iff_getElem.1 (List.isChain_iff_pairwise.1 h) j k hjlt hklt hlt
  -- the search stays on the side of the range, since the ranges there lie before or behind it
  fun_induction search s.ranges n lo hi with
  | case1 lo hi _ mid hmid =>
    rw [Array.getElem?_eq_none_iff] at hmid
    omega
  | case2 lo hi _ mid a b hmid hbelow ih =>
    have hleft : i < mid := by
      refine Nat.lt_of_not_le fun hge => ?_
      rcases Nat.eq_or_lt_of_le hge with he | hlt
      · rw [← he, hmid] at hr
        cases hr
        omega
      · have hbehind := (horder hmid hr hlt).1
        omega
    exact ih hlo hleft (by omega)
  | case3 lo hi _ mid a b hmid hbelow habove ih =>
    have hright : mid < i := by
      refine Nat.lt_of_not_le fun hle => ?_
      rcases Nat.eq_or_lt_of_le hle with he | hlt
      · rw [he, hmid] at hr
        cases hr
        omega
      · have hbefore := (horder hr hmid hlt).2
        omega
    exact ih hright hhi hsize
  | case4 => rfl
  | case5 lo hi hempty => omega

/-- **A set holds the characters of its ranges.** -/
theorem contains_eq_true_iff {s : CharSet} (h : s.Ascending) {c : Char} :
    s.contains c = true ↔ ∃ r ∈ s.ranges.toList, r.1 ≤ c.toNat ∧ c.toNat ≤ r.2 := by
  constructor
  · exact exists_of_search
  · rintro ⟨r, hmem, hlow, hhigh⟩
    obtain ⟨i, hi⟩ := List.mem_iff_getElem?.1 hmem
    rw [Array.getElem?_toList] at hi
    have hlt : i < s.ranges.size := (Array.getElem?_eq_some_iff.1 hi).1
    exact h.search_eq_true hi hlow hhigh (Nat.zero_le i) hlt (Nat.le_refl _)

/-- The ranges that are read in front of others, as a list. -/
def Partial.ranges (p : Partial) (more : List (Nat × Nat)) : List (Nat × Nat) :=
  match p.low, p.current with
  | some a, some b => (a, b) :: more
  | none, some b => (b, b) :: more
  | _, none => more

/-- The ranges of a table text as a list. -/
def rangesOf : List Char → Partial → List (Nat × Nat)
  | [], p => p.ranges []
  | c :: cs, p =>
    match hexValue? c with
    | some d => rangesOf cs { p with current := some (p.current.getD 0 * 16 + d) }
    | none =>
      if c = '-' then rangesOf cs ⟨p.current, none⟩
      else p.ranges (rangesOf cs ⟨none, none⟩)

theorem Partial.toList_finish (p : Partial) (acc : Array (Nat × Nat)) (more : List (Nat × Nat)) :
    (p.finish acc).toList ++ more = acc.toList ++ p.ranges more := by
  obtain ⟨low, current⟩ := p
  cases low <;> cases current <;> simp [finish, ranges]

theorem toList_readRanges (cs : List Char) (p : Partial) (acc : Array (Nat × Nat)) :
    (readRanges cs p acc).toList = acc.toList ++ rangesOf cs p := by
  induction cs generalizing p acc with
  | nil =>
    have hfinish := p.toList_finish acc []
    rwa [List.append_nil] at hfinish
  | cons c cs ih =>
    simp only [readRanges, rangesOf]
    cases hexValue? c with
    | some d => exact ih _ _
    | none =>
      by_cases hc : c = '-'
      · simp only [if_pos hc]
        exact ih _ _
      · simp only [if_neg hc]
        rw [ih, Partial.toList_finish]

/-- A list is quicker to look through than an array that is built from its end. -/
theorem toList_ofText_ofList (cs : List Char) :
    (ofText (String.ofList cs)).ranges.toList = rangesOf cs ⟨none, none⟩ := by
  rw [ofText, String.toList_ofList, toList_readRanges]
  rfl

end CharSet

/-! ## Runs -/

/-- Whether a run moves a code point. -/
def CodeRun.Moves (r : CodeRun) (n : Nat) : Prop :=
  r.low ≤ n ∧ n ≤ r.high ∧ (n - r.low) % r.stride = 0

/-- Whether what a run leads to begins and ends such that the other run may move some of it. -/
def CodeRun.meets (r other : CodeRun) : Bool :=
  Nat.ble other.low (r.target + (r.high - r.low)) && Nat.ble r.target other.high

/-- The other run moves every second code point, and the run leads to those between. -/
def CodeRun.PassesBy (r other : CodeRun) : Prop :=
  other.stride = 2 ∧ (r.stride = 2 ∨ r.high = r.low) ∧ r.target % 2 ≠ other.low % 2

instance (r other : CodeRun) : Decidable (r.PassesBy other) :=
  inferInstanceAs (Decidable (_ ∧ _))

theorem CodeRun.Moves.not_moves {r other : CodeRun} {n : Nat} (hn : r.Moves n)
    (h : r.meets other = true → r.PassesBy other) : ¬other.Moves (r.target + (n - r.low)) := by
  obtain ⟨hlow, hhigh, hmod⟩ := hn
  rintro ⟨hlow', hhigh', hmod'⟩
  have hmeets : r.meets other = true := by
    simp only [meets, Bool.and_eq_true, Nat.ble_eq]
    omega
  obtain ⟨hstride', hstride, hparity⟩ := h hmeets
  rw [hstride'] at hmod'
  rcases hstride with hstride | hsingle
  · rw [hstride] at hmod
    omega
  · omega

namespace CodeMap

theorem of_search_eq_some {runs : Array CodeRun} {n lo hi : Nat} {r : CodeRun}
    (h : search runs n lo hi = some r) : r ∈ runs.toList ∧ r.Moves n := by
  fun_induction search runs n lo hi with
  | case1 => cases h
  | case2 lo hi _ mid r' hr' _ ih => exact ih h
  | case3 lo hi _ mid r' hr' _ _ ih => exact ih h
  | case4 lo hi _ mid r' hr' hlow hhigh hmod =>
    cases h
    exact ⟨Array.mem_toList_iff.2 (Array.mem_of_getElem? hr'), Nat.le_of_not_lt hlow,
      Nat.le_of_not_lt hhigh, hmod⟩
  | case5 => cases h
  | case6 => cases h

/-- A map leaves a character, or sends it by one of its runs. -/
theorem apply_cases (m : CodeMap) (c : Char) :
    m.apply c = c ∨ ∃ r ∈ m.runs.toList, r.Moves c.toNat ∧
      m.apply c = Char.ofNat (r.target + (c.toNat - r.low)) := by
  cases hfound : search m.runs c.toNat 0 m.runs.size with
  | none =>
    left
    rw [apply, find?, hfound]
    rfl
  | some r =>
    obtain ⟨hmem, hmoves⟩ := of_search_eq_some hfound
    refine .inr ⟨r, hmem, hmoves, ?_⟩
    rw [apply, find?, hfound]
    rfl

theorem apply_eq_self {m : CodeMap} {c : Char} (h : ∀ r ∈ m.runs.toList, ¬r.Moves c.toNat) :
    m.apply c = c := by
  rcases m.apply_cases c with hsame | ⟨r, hr, hmoves, -⟩
  · exact hsame
  · exact absurd hmoves (h r hr)

theorem runs_ofText_ofList (cs : List Char) :
    (ofText (String.ofList cs)).runs.toList =
      (pieces (fun c => c = ' ' || c = '\n') cs []).filterMap readRun := by
  rw [ofText, String.toList_ofList]

end CodeMap

end Harvest.Text
