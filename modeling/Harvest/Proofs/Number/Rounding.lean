import Harvest.Number.Exact
import Mathlib.Data.Nat.Dist

/-!
# Rounding to the precision of a floating-point number

`Representable` numbers are those that a floating-point number can be. `roundNat` goes to the nearest of
them (`nearest_roundNat`) and so keeps exactly these (`roundNat_eq_self_iff`).
-/

namespace Harvest.Number

/-- A natural number that 53 binary digits, followed by zeros, can write. -/
def Representable (n : Nat) : Prop :=
  ∃ m e, m < 2 ^ 53 ∧ n = m * 2 ^ e

theorem representable_mul_pow {m : Nat} (hm : m ≤ 2 ^ 53) (e : Nat) : Representable (m * 2 ^ e) := by
  rcases Nat.lt_or_eq_of_le hm with hlt | rfl
  · exact ⟨m, e, hlt, rfl⟩
  · -- the number after the last one with 53 digits needs one digit only
    exact ⟨1, 53 + e, by decide, by rw [Nat.one_mul, Nat.pow_add]⟩

/-- Large numbers of the precision end in zeros. -/
theorem Representable.pow_dvd {k j : Nat} (h : Representable k) (hk : 2 ^ 52 * 2 ^ j ≤ k) : 2 ^ j ∣ k := by
  obtain ⟨m, e, hm, rfl⟩ := h
  have hpow : 2 ^ (52 + j) < 2 ^ (53 + e) := calc
    2 ^ (52 + j) = 2 ^ 52 * 2 ^ j := Nat.pow_add 2 52 j
    _ ≤ m * 2 ^ e := hk
    _ < 2 ^ 53 * 2 ^ e := Nat.mul_lt_mul_of_pos_right hm (Nat.two_pow_pos e)
    _ = 2 ^ (53 + e) := (Nat.pow_add 2 53 e).symm
  have hexponent : 52 + j < 53 + e := (Nat.pow_lt_pow_iff_right (by decide)).1 hpow
  exact Dvd.dvd.mul_left (Nat.pow_dvd_pow 2 (by omega)) m

/-! ## The two neighbours of a number -/

/-- How far apart numbers of the precision are next to a number. -/
def gridStep (n : Nat) : Nat :=
  2 ^ (n.log2 - 52)

section
variable (n : Nat)

theorem gridStep_pos : 0 < gridStep n :=
  Nat.two_pow_pos _

theorem div_gridStep_lt : n / gridStep n < 2 ^ 53 := by
  rw [Nat.div_lt_iff_lt_mul (gridStep_pos n), gridStep, ← Nat.pow_add]
  calc n < 2 ^ (n.log2 + 1) := Nat.lt_log2_self
    _ ≤ 2 ^ (53 + (n.log2 - 52)) := Nat.pow_le_pow_right (by decide) (by omega)

/-- Unless the step is one, the multiples next to a number have all of their 53 digits. -/
theorem le_div_gridStep (h : gridStep n ≠ 1) : 2 ^ 52 ≤ n / gridStep n := by
  have hlarge : 52 < n.log2 := by
    by_contra hsmall
    have hzero : n.log2 - 52 = 0 := by omega
    exact h (by rw [gridStep, hzero, Nat.pow_zero])
  have hne : n ≠ 0 := by
    rintro rfl
    simp at hlarge
  rw [Nat.le_div_iff_mul_le (gridStep_pos n), gridStep, ← Nat.pow_add]
  calc 2 ^ (52 + (n.log2 - 52)) = 2 ^ n.log2 := by rw [Nat.add_sub_cancel' hlarge.le]
    _ ≤ n := Nat.log2_self_le hne

/-- Between the two multiples of the step around a number there is no number of the precision. -/
theorem Representable.outside {k : Nat} (h : Representable k) :
    k ≤ n / gridStep n * gridStep n ∨ (n / gridStep n + 1) * gridStep n ≤ k := by
  rcases Nat.lt_or_ge (n / gridStep n * gridStep n) k with hlt | hle
  · right
    by_cases hone : gridStep n = 1
    · rw [hone, Nat.div_one, Nat.mul_one] at hlt
      rw [hone, Nat.div_one, Nat.mul_one]
      exact hlt
    · have hfar : 2 ^ 52 * gridStep n ≤ k :=
        (Nat.mul_le_mul_right _ (le_div_gridStep n hone)).trans hlt.le
      obtain ⟨c, rfl⟩ : gridStep n ∣ k := h.pow_dvd hfar
      rw [Nat.mul_comm (gridStep n) c] at hlt ⊢
      exact Nat.mul_le_mul_right _ (Nat.lt_of_mul_lt_mul_right hlt)
  · exact .inl hle

end

/-! ## Rounding -/

/-- A number of the precision to which no other one is closer than `k`. -/
structure IsNearest (n k : Nat) : Prop where
  representable : Representable k
  dist_le : ∀ j, Representable j → Nat.dist n k ≤ Nat.dist n j

theorem roundNat_cases (n : Nat) :
    (roundNat n = n / gridStep n * gridStep n ∧ 2 * (n % gridStep n) ≤ gridStep n) ∨
      (roundNat n = (n / gridStep n + 1) * gridStep n ∧ gridStep n ≤ 2 * (n % gridStep n)) := by
  have hstep : Nat.pow 2 (n.log2 - 52) = gridStep n := rfl
  unfold roundNat
  simp only [hstep]
  split
  · next hup =>
    simp only [Bool.or_eq_true, decide_eq_true_eq, Bool.and_eq_true, beq_iff_eq] at hup
    right
    exact ⟨rfl, by omega⟩
  · next hdown =>
    simp only [Bool.or_eq_true, decide_eq_true_eq, Bool.and_eq_true, beq_iff_eq] at hdown
    left
    exact ⟨rfl, by omega⟩

/-- **Rounding goes to the nearest number of the precision.** -/
theorem nearest_roundNat (n : Nat) : IsNearest n (roundNat n) where
  representable := by
    have hkept := div_gridStep_lt n
    rcases roundNat_cases n with ⟨h, -⟩ | ⟨h, -⟩
    · rw [h]
      exact representable_mul_pow hkept.le _
    · rw [h]
      exact representable_mul_pow hkept _
  dist_le j hj := by
    have hsplit : n = n / gridStep n * gridStep n + n % gridStep n := by
      rw [Nat.mul_comm, Nat.div_add_mod]
    have hnext : (n / gridStep n + 1) * gridStep n = n / gridStep n * gridStep n + gridStep n :=
      Nat.succ_mul _ _
    have hrest : n % gridStep n < gridStep n := Nat.mod_lt n (gridStep_pos n)
    have hout := hj.outside n
    unfold Nat.dist
    -- nothing lies between the two multiples, and the closer one of them was taken
    rcases roundNat_cases n with ⟨h, hhalf⟩ | ⟨h, hhalf⟩ <;> omega

theorem IsNearest.eq_of_representable {n k : Nat} (h : IsNearest n k) (hn : Representable n) : k = n := by
  have hdist := h.dist_le n hn
  rw [Nat.dist_self, Nat.le_zero] at hdist
  exact (Nat.eq_of_dist_eq_zero hdist).symm

theorem roundNat_eq_self_iff {n : Nat} : roundNat n = n ↔ Representable n := by
  constructor
  · intro h
    rw [← h]
    exact (nearest_roundNat n).representable
  · exact (nearest_roundNat n).eq_of_representable

end Harvest.Number
