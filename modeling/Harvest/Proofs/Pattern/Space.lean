import Harvest.Pattern.Space
import Harvest.Text.Utf8

/-!
# The bytes of a class

The automata for a pattern are sized by the sequences of ranges of bytes that its classes stand for. Where
letter case counts, these are right: the bytes of a character lie in one of them exactly if the class admits
the character (`encodeChar_fits_iff`). A sequence is found by the digits of the code point in base 64
(`fits_spread_iff`), and the ranges of a class by trying one character between any two edges of the sets that
it is written with (`Cuts`).
-/

namespace Harvest.Pattern

theorem toNat_lt (c : Char) : c.toNat < 0x110000 := by
  have hc : c.toNat.isValidChar := c.valid
  unfold Nat.isValidChar at hc
  omega

namespace Utf8

/-- Bytes that lie in the ranges of a sequence, one in each. -/
def Fits : List Nat → Sequence → Prop
  | [], [] => True
  | byte :: bytes, range :: ranges => (range.1 ≤ byte ∧ byte ≤ range.2) ∧ Fits bytes ranges
  | _, _ => False

/-- The digits of a number in base 64, as bytes; the highest one counts from `lead` on. -/
def written (lead : Nat) : Nat → Nat → List Nat
  | 0, n => [lead + n]
  | k + 1, n => (lead + n / block k) :: written 0x80 k (n % block k)

theorem block_pos (k : Nat) : 0 < block k := by
  induction k with
  | zero => decide
  | succ k ih => exact Nat.mul_pos (by decide) ih

theorem Fits.length_eq :
    ∀ {bytes : List Nat} {s : Sequence}, Fits bytes s → bytes.length = s.length
  | [], [], _ => rfl
  | _ :: _, _ :: _, h => congrArg (· + 1) h.2.length_eq

theorem length_written (lead k n : Nat) : (written lead k n).length = k + 1 := by
  induction k generalizing lead n with
  | zero => rfl
  | succ k ih => rw [written, List.length_cons, ih]

theorem written_fits_replicate {k n : Nat} (h : n < block k) :
    Fits (written 0x80 k n) (List.replicate (k + 1) (0x80, 0xBF)) := by
  induction k generalizing n with
  | zero =>
    have h : n < 64 := h
    exact ⟨⟨by omega, by omega⟩, trivial⟩
  | succ k ih =>
    have hdigit : n / block k < 64 := (Nat.div_lt_iff_lt_mul (block_pos k)).2 h
    exact ⟨⟨Nat.le_add_right _ _, Nat.add_le_add_left (Nat.le_of_lt_succ hdigit) 0x80⟩,
      ih (Nat.mod_lt _ (block_pos k))⟩

theorem le_iff_div_mod (b m n : Nat) :
    m ≤ n ↔ m / b < n / b ∨ m / b = n / b ∧ m % b ≤ n % b := by
  have hm := Nat.div_add_mod m b
  have hn := Nat.div_add_mod n b
  constructor
  · intro h
    rcases Nat.lt_or_eq_of_le (Nat.div_le_div_right (c := b) h) with hlt | heq
    · exact Or.inl hlt
    · rw [heq] at hm
      exact Or.inr ⟨heq, by omega⟩
  · rintro (hlt | ⟨heq, hle⟩)
    · exact Nat.le_of_lt (Nat.lt_of_div_lt_div hlt)
    · rw [heq] at hm
      omega

section
variable {lead k low high n : Nat}

/-- The sequences of a block: the number has to lie in that block, and its other digits have to fit. -/
theorem fits_block_iff {d : Nat} {rests : List Sequence} :
    (∃ s ∈ rests.map fun rest => (lead + d, lead + d) :: rest, Fits (written lead (k + 1) n) s) ↔
      n / block k = d ∧ ∃ rest ∈ rests, Fits (written 0x80 k (n % block k)) rest := by
  constructor
  · rintro ⟨s, hs, hfits⟩
    obtain ⟨rest, hrest, rfl⟩ := List.mem_map.1 hs
    exact ⟨by have := hfits.1; dsimp only at this; omega, rest, hrest, hfits.2⟩
  · rintro ⟨rfl, rest, hrest, hfits⟩
    exact ⟨_, List.mem_map_of_mem hrest, ⟨Nat.le_refl _, Nat.le_refl _⟩, hfits⟩

/-- The sequence of several full blocks: the number has to lie in one of them. -/
theorem fits_run_iff {first beyond : Nat} :
    (∃ s ∈ if first < beyond then
        [(lead + first, lead + (beyond - 1)) :: List.replicate (k + 1) (0x80, 0xBF)] else [],
      Fits (written lead (k + 1) n) s) ↔ first ≤ n / block k ∧ n / block k < beyond := by
  have hrest := written_fits_replicate (Nat.mod_lt n (block_pos k))
  constructor
  · rintro ⟨s, hs, hfits⟩
    split at hs
    · obtain rfl := List.mem_singleton.1 hs
      have hdigit := hfits.1
      dsimp only at hdigit
      omega
    · cases hs
  · rintro ⟨hfirst, hbeyond⟩
    rw [if_pos (Nat.lt_of_le_of_lt hfirst hbeyond)]
    exact ⟨_, List.mem_singleton_self _,
      ⟨Nat.add_le_add_left hfirst lead, Nat.add_le_add_left (Nat.le_sub_one_of_lt hbeyond) lead⟩, hrest⟩

/-- The sequences for the numbers between two others are right. -/
theorem fits_spread_iff (h : low ≤ high) :
    (∃ s ∈ spread lead k low high, Fits (written lead k n) s) ↔ low ≤ n ∧ n ≤ high := by
  induction k generalizing lead low high n with
  | zero =>
    rw [spread, written]
    constructor
    · rintro ⟨s, hs, hfits⟩
      obtain rfl := List.mem_singleton.1 hs
      exact ⟨Nat.le_of_add_le_add_left hfits.1.1, Nat.le_of_add_le_add_left hfits.1.2⟩
    · rintro ⟨hlow, hhigh⟩
      exact ⟨_, List.mem_singleton_self _,
        ⟨Nat.add_le_add_left hlow lead, Nat.add_le_add_left hhigh lead⟩, trivial⟩
  | succ k ih =>
    have hlow := Nat.mod_lt low (block_pos k)
    have hhigh := Nat.mod_lt high (block_pos k)
    have hn := Nat.mod_lt n (block_pos k)
    rw [le_iff_div_mod (block k) low n, le_iff_div_mod (block k) n high]
    rw [le_iff_div_mod (block k)] at h
    rw [spread]
    dsimp only
    by_cases hsame : low / block k = high / block k
    · rw [if_pos hsame, fits_block_iff, ih (by omega)]
      omega
    · rw [if_neg hsame]
      simp only [List.mem_append, or_and_right, exists_or, fits_run_iff]
      -- The block of the least number, and that of the greatest, count where they are not full.
      have hopening : (∃ s ∈ if low % block k = 0 then [] else
          (spread 0x80 k (low % block k) (block k - 1)).map fun rest =>
            (lead + low / block k, lead + low / block k) :: rest, Fits (written lead (k + 1) n) s) ↔
          low % block k ≠ 0 ∧ n / block k = low / block k ∧ low % block k ≤ n % block k := by
        split
        · simp_all
        · rw [fits_block_iff, ih (by omega)]
          omega
      have hclosing : (∃ s ∈ if high % block k = block k - 1 then [] else
          (spread 0x80 k 0 (high % block k)).map fun rest =>
            (lead + high / block k, lead + high / block k) :: rest, Fits (written lead (k + 1) n) s) ↔
          high % block k ≠ block k - 1 ∧ n / block k = high / block k ∧ n % block k ≤ high % block k := by
        split
        · simp_all
        · rw [fits_block_iff, ih (by omega)]
          omega
      rw [hopening, hclosing]
      generalize low / block k = ql, high / block k = qh, n / block k = q at *
      split <;> split <;> omega

theorem length_of_mem_spread {s : Sequence} (h : s ∈ spread lead k low high) :
    s.length = k + 1 := by
  induction k generalizing lead low high s with
  | zero => rw [List.mem_singleton.1 h, List.length_singleton]
  | succ k ih =>
    have hblock : ∀ {d low high : Nat},
        s ∈ (spread 0x80 k low high).map (fun rest => (lead + d, lead + d) :: rest) → s.length = k + 2 := by
      intro d low high hs
      obtain ⟨rest, hrest, rfl⟩ := List.mem_map.1 hs
      exact congrArg (· + 1) (ih hrest)
    have hrun : ∀ {first beyond : Nat}, (s ∈ if first < beyond then
        [(lead + first, lead + (beyond - 1)) :: List.replicate (k + 1) (0x80, 0xBF)] else []) →
        s.length = k + 2 := by
      intro first beyond hs
      split at hs
      · rw [List.mem_singleton.1 hs, List.length_cons, List.length_replicate]
      · cases hs
    rw [spread] at h
    dsimp only at h
    split at h
    · exact hblock h
    · rcases List.mem_append.1 h with h | h
      · rcases List.mem_append.1 h with h | h
        · split at h
          · cases h
          · exact hblock h
        · exact hrun h
      · split at h
        · cases h
        · exact hblock h

end

/-- A character is written with the digits of its code point. -/
theorem map_toNat_encodeChar {c : Char} {least greatest lead k : Nat}
    (hlength : (least, greatest, lead, k) ∈ lengths) (hleast : least ≤ c.toNat)
    (hgreatest : c.toNat ≤ greatest) :
    (Text.Utf8.encodeChar c).map UInt8.toNat = written lead k c.toNat := by
  have hbyte : ∀ n, n < 0x100 → n.toUInt8.toNat = n := fun n h => Nat.mod_eq_of_lt h
  simp only [lengths, List.mem_cons, Prod.mk.injEq, List.not_mem_nil, or_false] at hlength
  unfold Text.Utf8.encodeChar
  dsimp only
  rcases hlength with ⟨rfl, rfl, rfl, rfl⟩ | ⟨rfl, rfl, rfl, rfl⟩ | ⟨rfl, rfl, rfl, rfl⟩ | ⟨rfl, rfl, rfl, rfl⟩
  · rw [if_pos (by omega), List.map_singleton, hbyte _ (by omega), written, Nat.zero_add]
  · rw [if_neg (by omega), if_pos (by omega)]
    simp (disch := omega) only [List.map_cons, List.map_nil, hbyte, written, block]
  · rw [if_neg (by omega), if_neg (by omega), if_pos (by omega)]
    simp (disch := omega) only [List.map_cons, List.map_nil, hbyte, written, block, Nat.reduceMul,
      List.cons.injEq, and_true, true_and]
    omega
  · rw [if_neg (by omega), if_neg (by omega), if_neg (by omega)]
    simp (disch := omega) only [List.map_cons, List.map_nil, hbyte, written, block, Nat.reduceMul,
      List.cons.injEq, and_true, true_and]
    omega

/-- The bytes of a character lie in a sequence for some code points if its code point is one of them. -/
theorem encodeChar_fits_sequences_iff {low high : Nat} {c : Char} :
    (∃ s ∈ sequences low high, Fits ((Text.Utf8.encodeChar c).map UInt8.toNat) s) ↔
      low ≤ c.toNat ∧ c.toNat ≤ high := by
  obtain ⟨least, greatest, lead, k, hlength, hleast, hgreatest⟩ :
      ∃ least greatest lead k, (least, greatest, lead, k) ∈ lengths ∧
        least ≤ c.toNat ∧ c.toNat ≤ greatest := by
    rcases Nat.lt_or_ge c.toNat 0x80 with h | h
    · exact ⟨_, _, _, _, .head _, by omega, Nat.le_of_lt_succ h⟩
    rcases Nat.lt_or_ge c.toNat 0x800 with h' | h'
    · exact ⟨_, _, _, _, .tail _ (.head _), h, Nat.le_of_lt_succ h'⟩
    rcases Nat.lt_or_ge c.toNat 0x10000 with h | h
    · exact ⟨_, _, _, _, .tail _ (.tail _ (.head _)), h', Nat.le_of_lt_succ h⟩
    · exact ⟨_, _, _, _, .tail _ (.tail _ (.tail _ (.head _))), h, Nat.le_of_lt_succ (toNat_lt c)⟩
  rw [map_toNat_encodeChar hlength hleast hgreatest, sequences]
  constructor
  · rintro ⟨s, hs, hfits⟩
    obtain ⟨⟨least', greatest', lead', k'⟩, hlength', hs⟩ := List.mem_flatMap.1 hs
    dsimp only at hs
    split at hs
    · -- Sequences for characters of another length have another length.
      obtain rfl : k = k' := by
        have hk := hfits.length_eq
        rw [length_written, length_of_mem_spread hs] at hk
        omega
      obtain ⟨rfl, rfl, rfl⟩ : least = least' ∧ greatest = greatest' ∧ lead = lead' := by
        simp only [lengths, List.mem_cons, Prod.mk.injEq, List.not_mem_nil, or_false] at hlength hlength'
        omega
      have hin := (fits_spread_iff ‹_›).1 ⟨s, hs, hfits⟩
      omega
    · cases hs
  · rintro ⟨hlow, hhigh⟩
    have hle : max low least ≤ min high greatest := by omega
    obtain ⟨s, hs, hfits⟩ : ∃ s ∈ spread lead k (max low least) (min high greatest),
        Fits (written lead k c.toNat) s := (fits_spread_iff hle).2 ⟨by omega, by omega⟩
    refine ⟨s, List.mem_flatMap.2 ⟨_, hlength, ?_⟩, hfits⟩
    dsimp only
    rwa [if_pos hle]

end Utf8

/-! ## Ranges of characters -/

namespace Class

/-- A set of characters that has either both or none of two characters with no bound between them. -/
def Flat (bounds : List Nat) (holds : Char → Bool) : Prop :=
  ∀ c d : Char, (∀ b ∈ bounds, b ≤ c.toNat ↔ b ≤ d.toNat) → holds c = holds d

variable {bounds : List Nat} {holds : Char → Bool}

theorem mem_insertBound {m n : Nat} : m ∈ insertBound n bounds ↔ m = n ∨ m ∈ bounds := by
  induction bounds with
  | nil => exact List.mem_singleton.trans (or_iff_left (List.not_mem_nil)).symm
  | cons b more ih =>
    unfold insertBound
    split
    · exact List.mem_cons
    · split
      · simp_all
      · rw [List.mem_cons, ih, List.mem_cons]
        exact or_left_comm

theorem pairwise_insertBound {n : Nat} (h : bounds.Pairwise (· < ·)) :
    (insertBound n bounds).Pairwise (· < ·) := by
  induction bounds with
  | nil => exact List.pairwise_singleton _ _
  | cons b more ih =>
    obtain ⟨hb, hmore⟩ := List.pairwise_cons.1 h
    unfold insertBound
    split
    · rename_i hn
      exact List.pairwise_cons.2 ⟨fun m hm => by
        rcases List.mem_cons.1 hm with rfl | hm
        · exact hn
        · exact Nat.lt_trans hn (hb m hm), h⟩
    · split
      · exact h
      · refine List.pairwise_cons.2 ⟨fun m hm => ?_, ih hmore⟩
        rcases mem_insertBound.1 hm with rfl | hm
        · omega
        · exact hb m hm

theorem mem_foldr_insertBound {ns : List Nat} {m : Nat} : m ∈ ns.foldr insertBound [] ↔ m ∈ ns := by
  induction ns with
  | nil => rfl
  | cons n more ih => rw [List.foldr_cons, mem_insertBound, ih, List.mem_cons]

theorem pairwise_foldr_insertBound (ns : List Nat) : (ns.foldr insertBound []).Pairwise (· < ·) := by
  induction ns with
  | nil => exact .nil
  | cons n more ih => exact pairwise_insertBound ih

/-- A number lies in one of several ranges. -/
def Covered (ranges : List (Nat × Nat)) (n : Nat) : Prop :=
  ∃ r ∈ ranges, r.1 ≤ n ∧ n ≤ r.2

theorem covered_cons {r : Nat × Nat} {ranges : List (Nat × Nat)} {n : Nat} :
    Covered (r :: ranges) n ↔ (r.1 ≤ n ∧ n ≤ r.2) ∨ Covered ranges n := by
  simp only [Covered, List.mem_cons, or_and_right, exists_or, exists_eq_left]

theorem covered_putRange_iff {low high n : Nat} {ranges : List (Nat × Nat)} (hle : low ≤ high)
    (hranges : ∀ r ∈ ranges, high < r.1 ∧ r.1 ≤ r.2) :
    Covered (putRange low high ranges) n ↔ (low ≤ n ∧ n ≤ high) ∨ Covered ranges n := by
  cases ranges with
  | nil => exact covered_cons
  | cons r more =>
    have hr := hranges r List.mem_cons_self
    unfold putRange
    dsimp only
    split
    · rw [covered_cons, covered_cons, ← or_assoc]
      refine or_congr_left ?_
      dsimp only
      omega
    · exact covered_cons

theorem forall_mem_putRange {low high : Nat} {ranges : List (Nat × Nat)} (hle : low ≤ high)
    (hranges : ∀ r ∈ ranges, high < r.1 ∧ r.1 ≤ r.2) :
    ∀ r ∈ putRange low high ranges, low ≤ r.1 ∧ r.1 ≤ r.2 := by
  intro r hr
  cases ranges with
  | nil =>
    obtain rfl := List.mem_singleton.1 hr
    exact ⟨Nat.le_refl low, hle⟩
  | cons first more =>
    have hfirst := hranges first List.mem_cons_self
    unfold putRange at hr
    dsimp only at hr
    split at hr
    · rcases List.mem_cons.1 hr with rfl | hr
      · exact ⟨Nat.le_refl low, by dsimp only; omega⟩
      · have := hranges r (List.mem_cons_of_mem _ hr)
        omega
    · rcases List.mem_cons.1 hr with rfl | hr
      · exact ⟨Nat.le_refl low, hle⟩
      · have := hranges r hr
        omega

/-- The ranges between bounds start at the first of them or after it. -/
theorem forall_mem_rangesBetween : ∀ {b : Nat} {more : List Nat}, (b :: more).Pairwise (· < ·) →
    ∀ r ∈ rangesBetween holds (b :: more), b ≤ r.1 ∧ r.1 ≤ r.2
  | _, [], _ => fun _ hr => nomatch hr
  | b, next :: more, h => by
    obtain ⟨hb, hmore⟩ := List.pairwise_cons.1 h
    have hnext := hb next List.mem_cons_self
    have ih := forall_mem_rangesBetween hmore
    unfold rangesBetween
    dsimp only
    split
    · exact forall_mem_putRange (by omega) fun r hr => ⟨by have := (ih r hr).1; omega, (ih r hr).2⟩
    · exact fun r hr => ⟨by have := (ih r hr).1; omega, (ih r hr).2⟩

theorem isValidChar_of_le {b : Nat} {c : Char} (hle : b ≤ c.toNat)
    (hgap : 0xD800 ≤ b → 0xE000 ≤ b ∨ c.toNat < 0xE000) : b.isValidChar := by
  have hc : c.toNat.isValidChar := c.valid
  unfold Nat.isValidChar at hc ⊢
  omega

/-- From the bound `b` on, ascending bounds cut the characters into runs that a set has as a whole or not at
all. Characters before and after the surrogates are in different runs. -/
structure Cuts (holds : Char → Bool) (b : Nat) (more : List Nat) : Prop where
  sorted : (b :: more).Pairwise (· < ·)
  gap : 0xE000 ∈ b :: more ∨ 0xE000 < b
  flat : ∀ c d : Char, b ≤ c.toNat → b ≤ d.toNat → (∀ m ∈ b :: more, m ≤ c.toNat ↔ m ≤ d.toNat) →
    holds c = holds d

theorem Cuts.tail {b next : Nat} {more : List Nat} (h : Cuts holds b (next :: more)) :
    Cuts holds next more := by
  obtain ⟨hb, hmore⟩ := List.pairwise_cons.1 h.sorted
  have hnext := hb next List.mem_cons_self
  refine ⟨hmore, ?_, fun c d hc hd heq => h.flat c d (by omega) (by omega) fun m hm => ?_⟩
  · rcases h.gap with hmem | hgt
    · rcases List.mem_cons.1 hmem with rfl | hmem
      · exact Or.inr hnext
      · exact Or.inl hmem
    · exact Or.inr (Nat.lt_trans hgt hnext)
  · rcases List.mem_cons.1 hm with rfl | hm
    · exact iff_of_true (by omega) (by omega)
    · exact heq m hm

/-- A bound stands for the characters up to the next one. -/
theorem Cuts.first {b next : Nat} {more : List Nat} (h : Cuts holds b (next :: more)) {c : Char}
    (hle : b ≤ c.toNat) (hlt : c.toNat < next) : b.isValidChar ∧ holds (Char.ofNat b) = holds c := by
  obtain ⟨hb, hsorted⟩ := List.pairwise_cons.1 h.sorted
  have hmore : ∀ m ∈ next :: more, c.toNat < m := by
    intro m hm
    rcases List.mem_cons.1 hm with rfl | hm
    · exact hlt
    · exact Nat.lt_trans hlt (List.rel_of_pairwise_cons hsorted hm)
  have hvalid : b.isValidChar := isValidChar_of_le hle fun _ => by
    rcases h.gap with hmem | hgt
    · rcases List.mem_cons.1 hmem with rfl | hmem
      · exact Or.inl (Nat.le_refl _)
      · exact Or.inr (hmore _ hmem)
    · exact Or.inl (Nat.le_of_lt hgt)
  have hcode : (Char.ofNat b).toNat = b := by
    rw [Char.ofNat, dif_pos hvalid]
    rfl
  refine ⟨hvalid, h.flat _ _ (Nat.le_of_eq hcode.symm) hle fun m hm => ?_⟩
  rw [hcode]
  rcases List.mem_cons.1 hm with rfl | hm
  · exact iff_of_true (Nat.le_refl _) hle
  · exact iff_of_false (Nat.not_le.2 (hb m hm)) (Nat.not_le.2 (hmore m hm))

/-- The ranges between bounds hold what the set has of the characters between the first bound and the last. -/
theorem Cuts.covered_iff {c : Char} : ∀ {b : Nat} {more : List Nat}, Cuts holds b more → b ≤ c.toNat →
    (∃ m ∈ more, c.toNat < m) → (Covered (rangesBetween holds (b :: more)) c.toNat ↔ holds c = true)
  | _, [], _, _, hlast => by
    obtain ⟨_, hm, -⟩ := hlast
    cases hm
  | b, next :: more, h, hle, hlast => by
    have hnext := List.rel_of_pairwise_cons h.sorted List.mem_cons_self
    have hothers : ∀ r ∈ rangesBetween holds (next :: more), next ≤ r.1 ∧ r.1 ≤ r.2 :=
      forall_mem_rangesBetween h.tail.sorted
    have hput : Covered (putRange b (next - 1) (rangesBetween holds (next :: more))) c.toNat ↔
        (b ≤ c.toNat ∧ c.toNat ≤ next - 1) ∨ Covered (rangesBetween holds (next :: more)) c.toNat :=
      covered_putRange_iff (by omega) fun r hr => ⟨by have := (hothers r hr).1; omega, (hothers r hr).2⟩
    unfold rangesBetween
    dsimp only
    rcases Nat.lt_or_ge c.toNat next with hlt | hge
    · obtain ⟨hvalid, hsame⟩ := h.first hle hlt
      rw [hsame]
      by_cases hholds : holds c = true
      · rw [if_pos ⟨hvalid, hholds⟩, hput]
        exact iff_of_true (Or.inl ⟨hle, Nat.le_sub_one_of_lt hlt⟩) hholds
      · rw [if_neg fun h => hholds h.2]
        refine iff_of_false ?_ hholds
        rintro ⟨r, hr, hlow, -⟩
        have := (hothers r hr).1
        omega
    · have hrest := h.tail.covered_iff hge (by
        obtain ⟨m, hm, hlt⟩ := hlast
        rcases List.mem_cons.1 hm with rfl | hm
        · omega
        · exact ⟨m, hm, hlt⟩)
      rw [or_iff_right (by omega)] at hput
      split
      · exact hput.trans hrest
      · exact hrest

theorem closed_exact (p : Char → Bool) : closed .exact p = p := by
  funext c
  exact Bool.or_false _

theorem Flat.mono {more : List Nat} (h : Flat bounds holds) (hsub : bounds ⊆ more) : Flat more holds :=
  fun c d heq => h c d fun b hb => heq b (hsub hb)

theorem Flat.comp₂ {others : List Nat} {holds' : Char → Bool} (h : Flat bounds holds)
    (h' : Flat others holds') (op : Bool → Bool → Bool) :
    Flat (bounds ++ others) fun c => op (holds c) (holds' c) := by
  intro c d heq
  have hc := h c d fun b hb => heq b (List.mem_append_left _ hb)
  have hc' := h' c d fun b hb => heq b (List.mem_append_right _ hb)
  dsimp only
  rw [hc, hc']

/-- A search asks for nothing but the edges of ranges. -/
theorem search_congr {ranges : Array (Nat × Nat)} {m n : Nat}
    (h : ∀ r ∈ ranges, (r.1 ≤ m ↔ r.1 ≤ n) ∧ (r.2 + 1 ≤ m ↔ r.2 + 1 ≤ n)) (lo hi : Nat) :
    Text.CharSet.search ranges n lo hi = Text.CharSet.search ranges m lo hi := by
  fun_induction Text.CharSet.search ranges m lo hi with
  | case1 lo hi hlt mid hnone =>
    rw [Text.CharSet.search, if_pos hlt]
    dsimp only
    rw [hnone]
  | case2 lo hi hlt mid a b hsome hbefore ih =>
    have hedge := h _ (Array.mem_of_getElem? hsome)
    rw [← ih, Text.CharSet.search, if_pos hlt]
    dsimp only
    rw [hsome]
    exact if_pos (by omega)
  | case3 lo hi hlt mid a b hsome hbefore hafter ih =>
    have hedge := h _ (Array.mem_of_getElem? hsome)
    rw [← ih, Text.CharSet.search, if_pos hlt]
    dsimp only
    rw [hsome]
    exact (if_neg (by omega)).trans (if_pos (by omega))
  | case4 lo hi hlt mid a b hsome hbefore hafter =>
    have hedge := h _ (Array.mem_of_getElem? hsome)
    rw [Text.CharSet.search, if_pos hlt]
    dsimp only
    rw [hsome]
    exact (if_neg (by omega)).trans (if_neg (by omega))
  | case5 lo hi hlt => rw [Text.CharSet.search, if_neg hlt]

theorem eq_iff_of_edges {c d : Char} (a : Char) (heq : ∀ b ∈ edges [a], b ≤ c.toNat ↔ b ≤ d.toNat) :
    c = a ↔ d = a := by
  have hlow := heq a.toNat (by simp [edges])
  have hhigh := heq (a.toNat + 1) (by simp [edges])
  rw [← Char.toNat_inj, ← Char.toNat_inj]
  omega

theorem any_congr {α : Type} {xs : List α} {p q : α → Bool} (h : ∀ x ∈ xs, p x = q x) :
    xs.any p = xs.any q := by
  rw [Bool.eq_iff_iff, List.any_eq_true, List.any_eq_true]
  exact exists_congr fun x => and_congr_right fun hx => by rw [h x hx]

mutual

theorem flat_has : ∀ s : Class, Flat (s.bounds .exact) (has .exact s)
  | .char a => fun c d heq => by
    simp only [has]
    rw [Bool.eq_iff_iff, beq_iff_eq, beq_iff_eq]
    exact eq_iff_of_edges a heq
  | .range low high => fun c d heq => by
    have hlow := heq low.toNat List.mem_cons_self
    have hhigh := heq (high.toNat + 1) (List.mem_cons_of_mem _ List.mem_cons_self)
    have hle : ∀ a b : Char, a ≤ b ↔ a.toNat ≤ b.toNat := fun _ _ => Iff.rfl
    simp only [has]
    rw [Bool.eq_iff_iff, Bool.and_eq_true, Bool.and_eq_true]
    simp only [decide_eq_true_eq, hle]
    omega
  | .named tables negated folds => fun c d heq => by
    have hfolding : (if folds then Folding.exact else .exact) = .exact := ite_self _
    simp only [has, hfolding, closed_exact]
    refine congrArg (· != negated) (any_congr fun t ht => (search_congr (fun r hr => ?_) _ _).symm)
    have hedges : [r.1, r.2 + 1] ⊆ bounds .exact (.named tables negated folds) := fun m hm =>
      List.mem_append_left _ (List.mem_flatMap.2 ⟨t, ht, List.mem_flatMap.2 ⟨r, Array.mem_toList_iff.2 hr, hm⟩⟩)
    exact ⟨heq _ (hedges List.mem_cons_self), heq _ (hedges (List.mem_cons_of_mem _ List.mem_cons_self))⟩
  | .union parts => flat_anyHas parts
  | .bracket negated inner => fun c d heq => by
    simp only [has, closed_exact, flat_has inner c d heq]
  | .both left right => by
    intro c d heq
    simp only [has, closed_exact]
    exact (flat_has left).comp₂ (flat_has right) (· && ·) c d heq
  | .without left right => by
    intro c d heq
    simp only [has, closed_exact]
    exact (flat_has left).comp₂ (flat_has right) (fun l r => l && !r) c d heq
  | .either left right => by
    intro c d heq
    simp only [has, closed_exact]
    exact (flat_has left).comp₂ (flat_has right) (· != ·) c d heq

theorem flat_anyHas : ∀ parts : List Class, Flat (allBounds .exact parts) (anyHas .exact parts)
  | [] => fun _ _ _ => rfl
  | part :: more => (flat_has part).comp₂ (flat_anyHas more) (· || ·)

end

/-- The ranges of a class hold the characters that it admits, where letter case counts. -/
theorem covered_ranges_iff (s : Class) (c : Char) :
    Covered (s.ranges .exact) c.toNat ↔ s.admits .exact c = true := by
  have hmem : ∀ {m : Nat}, m ∈ [0, 0xD800, 0xE000, 0x110000] ++ s.bounds .exact →
      m ∈ ([0, 0xD800, 0xE000, 0x110000] ++ s.bounds .exact).foldr insertBound [] := mem_foldr_insertBound.2
  have hsorted := pairwise_foldr_insertBound ([0, 0xD800, 0xE000, 0x110000] ++ s.bounds .exact)
  have hzero := hmem (m := 0) (by simp)
  have hgap := hmem (m := 0xE000) (by simp)
  have hlast := hmem (m := 0x110000) (by simp)
  have hadmits : s.admits .exact = has .exact s := closed_exact _
  have hflat := (flat_has s).mono fun m hm => hmem (List.mem_append_right _ hm)
  rw [← hadmits] at hflat
  unfold ranges
  generalize ([0, 0xD800, 0xE000, 0x110000] ++ s.bounds .exact).foldr insertBound [] = all at *
  match all with
  | b :: more =>
    have hb : b = 0 := by
      rcases List.mem_cons.1 hzero with rfl | hzero
      · rfl
      · exact absurd (List.rel_of_pairwise_cons hsorted hzero) (Nat.not_lt_zero _)
    have hcuts : Cuts (s.admits .exact) b more := ⟨hsorted, Or.inl hgap, fun c d _ _ => hflat c d⟩
    refine hcuts.covered_iff (by omega) ⟨_, ?_, toNat_lt c⟩
    exact (List.mem_cons.1 hlast).resolve_left (by omega)

/-- Where letter case counts, the bytes of a character lie in a sequence for the ranges of a class exactly if
the class admits the character. -/
theorem encodeChar_fits_iff (s : Class) (c : Char) :
    (∃ sequence ∈ (s.ranges .exact).flatMap fun (low, high) => Utf8.sequences low high,
      Utf8.Fits ((Text.Utf8.encodeChar c).map UInt8.toNat) sequence) ↔ s.admits .exact c = true := by
  rw [← covered_ranges_iff]
  constructor
  · rintro ⟨sequence, hmem, hfits⟩
    obtain ⟨r, hr, hmem⟩ := List.mem_flatMap.1 hmem
    exact ⟨r, hr, Utf8.encodeChar_fits_sequences_iff.1 ⟨sequence, hmem, hfits⟩⟩
  · rintro ⟨r, hr, hin⟩
    obtain ⟨sequence, hmem, hfits⟩ := Utf8.encodeChar_fits_sequences_iff.2 hin
    exact ⟨sequence, List.mem_flatMap.2 ⟨r, hr, hmem⟩, hfits⟩

end Class

/-- Any character but a line feed, forwards. -/
example : rangesSpace false (Class.anyButLineFeed.ranges .exact) = 368 := by decide +kernel

end Harvest.Pattern
