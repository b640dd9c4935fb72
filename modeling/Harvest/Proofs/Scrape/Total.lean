import Harvest.Client.Static
import Harvest.Proofs.Number.Rounding
import Harvest.Scrape.Rest

/-!
# Totals of pages

The total that a page tells passes through a floating-point number, so that of the counts that JSON can
write only those of 53 binary digits and the greatest one of 64 bits are told as they are. Every
other one is replaced by the nearest of them (`total_of_integer`), from 2 ^ 53 + 1 on (`total_off_by_one`).
-/

namespace Harvest.RestScraper

open Number (Representable maxNat64 roundNat)

/-- `k` is told for the count `n`: no number of the precision is closer, and it may be `n` itself. -/
structure ToldFor (n k : Nat) : Prop where
  representable : Representable k ∨ k = maxNat64
  dist_le : ∀ j, Representable j → Nat.dist n k ≤ Nat.dist n j
  exact_iff : k = n ↔ Representable n ∨ n = maxNat64

/-- What lies beyond 64 bits after rounding goes back to the greatest number within. -/
theorem toldFor_min {n : Nat} (hn : n ≤ maxNat64) : ToldFor n (min (roundNat n) maxNat64) where
  representable := by
    rcases Nat.le_total (roundNat n) maxNat64 with h | h
    · rw [Nat.min_eq_left h]
      exact .inl (Number.nearest_roundNat n).representable
    · rw [Nat.min_eq_right h]
      exact .inr rfl
  dist_le j hj := by
    have hnearest := (Number.nearest_roundNat n).dist_le j hj
    unfold Nat.dist at hnearest ⊢
    omega
  exact_iff := by
    constructor
    · intro h
      rcases Nat.le_total (roundNat n) maxNat64 with hle | hle
      · rw [Nat.min_eq_left hle] at h
        exact .inl (Number.roundNat_eq_self_iff.1 h)
      · rw [Nat.min_eq_right hle] at h
        exact .inr h.symm
    · rintro (h | rfl)
      · rw [Number.roundNat_eq_self_iff.2 h, Nat.min_eq_left hn]
      · decide

theorem countOf?_int (n : Int) : countOf? (.int n) =
    if 0 ≤ n then some (min (roundNat n.toNat) maxNat64) else none := rfl

theorem totalAt_of_lookup? {root : Json} {path : String} {n : Int} (h : root.lookup? path = some (.int n)) :
    totalAt path (.json root) = match countOf? (.int n) with
      | some k => .ok k
      | none => .error .noData := by
  have hget : Payload.get? (.json root) path = some (.json (.int n)) := by
    rw [Payload.get?, h]
    rfl
  rw [totalAt, hget]
  rfl

theorem total_json {client : Client} {template countPath rowsPath : String} {r : RestScraper Payload}
    (hr : json client template countPath rowsPath = .ok r) : r.total = totalAt countPath := by
  unfold json at hr
  cases hcompile : Template.compile template with
  | error e =>
    rw [hcompile] at hr
    cases hr
  | ok t =>
    rw [hcompile] at hr
    cases hr
    rfl

/-- **Of a count as JSON the nearest floating-point number is told.** A negative one is no data. -/
theorem total_of_integer {client : Client} {template countPath rowsPath : String}
    {r : RestScraper Payload} (hr : json client template countPath rowsPath = .ok r) {root : Json} {n : Int}
    (hpath : root.lookup? countPath = some (.int n)) :
    (n < 0 → r.total (.json root) = .error .noData) ∧
      (0 ≤ n → n ≤ 2 ^ 53 → r.total (.json root) = .ok n.toNat) ∧
      (0 ≤ n → n ≤ maxNat64 → ∃ k, r.total (.json root) = .ok k ∧ ToldFor n.toNat k) := by
  have htotal : r.total (.json root) = match countOf? (.int n) with
      | some k => .ok k
      | none => .error .noData := by
    rw [total_json hr, totalAt_of_lookup? hpath]
  rw [countOf?_int] at htotal
  have htold : 0 ≤ n → n ≤ maxNat64 → ∃ k, r.total (.json root) = .ok k ∧ ToldFor n.toNat k := by
    intro hn hmax
    rw [if_pos hn] at htotal
    exact ⟨_, htotal, toldFor_min (by omega)⟩
  refine ⟨fun hn => ?_, fun hn hsmall => ?_, htold⟩
  · rw [if_neg (Int.not_le.2 hn)] at htotal
    exact htotal
  · have hrange : n ≤ maxNat64 := hsmall.trans (by decide)
    obtain ⟨k, hk, htold⟩ := htold hn hrange
    have hdigits : Representable (n.toNat * 2 ^ 0) := Number.representable_mul_pow (by omega) 0
    rw [Nat.pow_zero, Nat.mul_one] at hdigits
    rw [hk, htold.exact_iff.2 (.inl hdigits)]

/-! ## The first count that is not told as it is -/

/-- Serves nothing. -/
def mute : Client :=
  .serving fun _ => none

/-- Tells a count that needs one digit more than there is room for. -/
def oversized : Json :=
  .object [("total", .int 9007199254740993)]

theorem lookup?_oversized : oversized.lookup? "total" = some (.int 9007199254740993) := by rfl

theorem roundNat_oversized : roundNat 9007199254740993 = 9007199254740992 := by decide

theorem total_of_integer_oversized :
    ∃ r, json mute "" "total" "data" = .ok r ∧ oversized.lookup? "total" = some (.int 9007199254740993) ∧
      ∃ k, r.total (.json oversized) = .ok k ∧ ToldFor 9007199254740993 k ∧ k ≠ 9007199254740993 := by
  obtain ⟨r, hr⟩ : ∃ r, json mute "" "total" "data" = .ok r := ⟨_, rfl⟩
  obtain ⟨-, -, htold⟩ := total_of_integer hr lookup?_oversized
  obtain ⟨k, hk, hfor⟩ := htold (by decide) (by decide)
  refine ⟨r, hr, lookup?_oversized, k, hk, hfor, ?_⟩
  intro hexact
  rcases hfor.exact_iff.1 hexact with hdigits | hmax
  · have hself : roundNat 9007199254740993 = 9007199254740993 := Number.roundNat_eq_self_iff.2 hdigits
    rw [roundNat_oversized] at hself
    cases hself
  · cases hmax

/-- Not every count of 64 bits is told as it is. -/
theorem total_off_by_one :
    ¬ ∀ (client : Client) (template countPath rowsPath : String) (r : RestScraper Payload),
      json client template countPath rowsPath = .ok r →
      ∀ (root : Json) (n : Int), root.lookup? countPath = some (.int n) →
        (n < 0 → r.total (.json root) = .error .noData) ∧
          (0 ≤ n → n ≤ maxNat64 → r.total (.json root) = .ok n.toNat) := by
  intro hall
  obtain ⟨r, hr⟩ : ∃ r, json mute "" "total" "data" = .ok r := ⟨_, rfl⟩
  have hexact := (hall mute "" "total" "data" r hr oversized _ lookup?_oversized).2 (by decide) (by decide)
  have htotal : r.total (.json oversized) = .ok 9007199254740992 := by
    rw [total_json hr, totalAt_of_lookup? lookup?_oversized, countOf?_int, if_pos (by decide)]
    rfl
  rw [htotal] at hexact
  cases hexact

end Harvest.RestScraper
