import Harvest.Proofs.Number.Decimal
import Harvest.Proofs.Text.Trim
import Mathlib.Data.Nat.Digits.Defs

/-!
# Integers in text

An integer stands in a text as a numeral, perhaps behind a sign, with white space around it (`StandsIn`).
`parseInteger` reads exactly the integers of 64 bits that stand in a text (`parseInteger_eq_some_iff`), and
so every such integer from its own decimal text (`parseInteger_exact`).
-/

namespace Harvest.Number

/-- One or more ASCII digits, zeros in front included, as a number in base ten. -/
structure Numeral (cs : List Char) (n : Nat) : Prop where
  nonempty : cs ≠ []
  digits : ∀ c ∈ cs, isDigit c = true
  value : Nat.ofDigits 10 (cs.reverse.map digitValue) = n

/-- A numeral, perhaps behind a sign. -/
inductive Signed : List Char → Int → Prop where
  | plain {cs : List Char} {n : Nat} (h : Numeral cs n) : Signed cs n
  | plus {cs : List Char} {n : Nat} (h : Numeral cs n) : Signed ('+' :: cs) n
  | minus {cs : List Char} {n : Nat} (h : Numeral cs n) : Signed ('-' :: cs) (-n)

/-- The text is a signed numeral with nothing but white space around it. -/
def StandsIn (s : String) (i : Int) : Prop :=
  ∃ before numeral after, s.toList = before ++ (numeral ++ after) ∧
    (∀ c ∈ before, Text.isBlank c = true) ∧ (∀ c ∈ after, Text.isBlank c = true) ∧ Signed numeral i

/-! ## Numerals -/

theorem digitsValue_eq_ofDigits (cs : List Char) :
    digitsValue cs = Nat.ofDigits 10 (cs.reverse.map digitValue) := by
  -- from the last digit on, each step of Horner's rule is one of `Nat.ofDigits`
  rw [digitsValue, List.foldl_eq_foldr_reverse]
  induction cs.reverse with
  | nil => rfl
  | cons c ds ih =>
    rw [List.foldr_cons, ih, List.map_cons, Nat.ofDigits_cons, Nat.mul_comm, Nat.add_comm]

theorem readDigits?_eq_some_iff_numeral {cs : List Char} {n : Nat} :
    readDigits? cs = some n ↔ Numeral cs n := by
  rw [readDigits?_eq_some_iff, digitsValue_eq_ofDigits]
  constructor
  · rintro ⟨hne, hdigits, hvalue⟩
    exact ⟨hne, hdigits, hvalue⟩
  · intro h
    exact ⟨h.nonempty, h.digits, h.value⟩

theorem Numeral.ne_cons {cs : List Char} {n : Nat} (h : Numeral cs n) {c : Char} (hc : isDigit c = false)
    (rest : List Char) : cs ≠ c :: rest := by
  rintro rfl
  rw [h.digits c List.mem_cons_self] at hc
  cases hc

/-! ## Signs -/

theorem signed_plus_iff {cs : List Char} {i : Int} : Signed ('+' :: cs) i ↔ ∃ n, Numeral cs n ∧ i = n := by
  constructor
  · intro h
    cases h with
    | plain h => exact absurd rfl (h.ne_cons (by decide) cs)
    | plus h => exact ⟨_, h, rfl⟩
  · rintro ⟨n, h, rfl⟩
    exact .plus h

theorem signed_minus_iff {cs : List Char} {i : Int} : Signed ('-' :: cs) i ↔ ∃ n, Numeral cs n ∧ i = -n := by
  constructor
  · intro h
    cases h with
    | plain h => exact absurd rfl (h.ne_cons (by decide) cs)
    | minus h => exact ⟨_, h, rfl⟩
  · rintro ⟨n, h, rfl⟩
    exact .minus h

theorem signed_plain_iff {cs : List Char} (hplus : ∀ rest, cs ≠ '+' :: rest) (hminus : ∀ rest, cs ≠ '-' :: rest)
    {i : Int} : Signed cs i ↔ ∃ n, Numeral cs n ∧ i = n := by
  constructor
  · intro h
    cases h with
    | plain h => exact ⟨_, h, rfl⟩
    | plus => exact absurd rfl (hplus _)
    | minus => exact absurd rfl (hminus _)
  · rintro ⟨n, h, rfl⟩
    exact .plain h

/-- The value of a signed numeral, without any bound. -/
def readSigned? : List Char → Option Int
  | '+' :: rest => (readDigits? rest).map Int.ofNat
  | '-' :: rest => (readDigits? rest).map fun n => -(Int.ofNat n)
  | cs => (readDigits? cs).map Int.ofNat

theorem readInt?_eq_filter (low high : Int) (cs : List Char) :
    readInt? low high cs = (readSigned? cs).filter fun i => low ≤ i && i ≤ high := by
  fun_cases readSigned? cs
  case case1 rest =>
    simp only [readInt?]
    cases readDigits? rest <;> rfl
  case case2 rest =>
    simp only [readInt?]
    cases readDigits? rest <;> rfl
  case case3 hplus hminus =>
    rw [readInt?]
    · cases readDigits? cs <;> rfl
    · exact hplus
    · exact hminus

theorem map_readDigits?_eq_some_iff (sign : Nat → Int) {cs : List Char} {i : Int} :
    (readDigits? cs).map sign = some i ↔ ∃ n, Numeral cs n ∧ i = sign n := by
  rw [Option.map_eq_some_iff]
  simp only [readDigits?_eq_some_iff_numeral, eq_comm (a := i)]

theorem readSigned?_eq_some_iff {cs : List Char} {i : Int} : readSigned? cs = some i ↔ Signed cs i := by
  fun_cases readSigned? cs
  case case1 rest =>
    rw [signed_plus_iff]
    exact map_readDigits?_eq_some_iff _
  case case2 rest =>
    rw [signed_minus_iff]
    exact map_readDigits?_eq_some_iff _
  case case3 hplus hminus =>
    rw [signed_plain_iff hplus hminus]
    exact map_readDigits?_eq_some_iff _

/-- Read is a signed numeral, with its value, if that lies within the bounds. -/
theorem readInt?_eq_some_iff {low high i : Int} {cs : List Char} :
    readInt? low high cs = some i ↔ Signed cs i ∧ low ≤ i ∧ i ≤ high := by
  rw [readInt?_eq_filter, Option.filter_eq_some_iff, readSigned?_eq_some_iff, Bool.and_eq_true,
    decide_eq_true_eq, decide_eq_true_eq]

/-! ## White space around -/

theorem Numeral.isBlank_of_mem {cs : List Char} {n : Nat} (h : Numeral cs n) {c : Char} (hc : c ∈ cs) :
    Text.isBlank c = false := by
  have hrange := isDigit_iff.1 (h.digits c hc)
  simp [Text.isBlank]
  omega

theorem Signed.isBlank_of_mem {cs : List Char} {i : Int} (h : Signed cs i) {c : Char} (hc : c ∈ cs) :
    Text.isBlank c = false := by
  cases h with
  | plain h => exact h.isBlank_of_mem hc
  | plus h =>
    rcases List.mem_cons.1 hc with rfl | hc
    · decide
    · exact h.isBlank_of_mem hc
  | minus h =>
    rcases List.mem_cons.1 hc with rfl | hc
    · decide
    · exact h.isBlank_of_mem hc

/-- White space does not belong to a numeral, so trimming leaves exactly the numeral. -/
theorem standsIn_iff {s : String} {i : Int} : StandsIn s i ↔ Signed (Text.trimChars s.toList) i := by
  constructor
  · rintro ⟨before, numeral, after, hs, hbefore, hafter, h⟩
    have htrim : Text.trimChars s.toList = numeral := by
      rw [hs]
      exact Text.trimWhere_append hbefore hafter (fun _ hc => h.isBlank_of_mem (List.mem_of_mem_head? hc))
        fun _ hc => h.isBlank_of_mem (List.mem_of_mem_getLast? hc)
    rwa [htrim]
  · intro h
    obtain ⟨before, after, hs, hbefore, hafter⟩ := Text.exists_eq_trimWhere Text.isBlank s.toList
    exact ⟨before, _, after, hs, hbefore, hafter, h⟩

theorem parseInteger_eq_some_iff {s : String} {i : Int} :
    parseInteger s = some i ↔ StandsIn s i ∧ minInt64 ≤ i ∧ i ≤ maxInt64 := by
  rw [parseInteger, readInt?_eq_some_iff, standsIn_iff]

theorem signed_intChars (i : Int) : Signed (intChars i) i :=
  (readInt?_eq_some_iff.1 (readInt?_intChars (Int.le_refl i) (Int.le_refl i))).1

/-- Read is an integer of 64 bits that stands in the text, and nothing else; so such an integer is read back
from its decimal text with any white space around it. -/
theorem parseInteger_exact :
    (∀ (t : String) (n : Int), parseInteger t = some n ↔ StandsIn t n ∧ -2 ^ 63 ≤ n ∧ n ≤ 2 ^ 63 - 1) ∧
    (∀ t : String, parseInteger t = none ↔ ∀ n, StandsIn t n → n < -2 ^ 63 ∨ 2 ^ 63 - 1 < n) ∧
    ∀ (n : Int) (before after : List Char), -2 ^ 63 ≤ n → n ≤ 2 ^ 63 - 1 →
      (∀ c ∈ before, Text.isBlank c = true) → (∀ c ∈ after, Text.isBlank c = true) →
      parseInteger (String.ofList (before ++ ((ofInt n).toList ++ after))) = some n := by
  refine ⟨fun t n => parseInteger_eq_some_iff, ?_, ?_⟩
  · intro t
    rw [Option.eq_none_iff_forall_ne_some]
    refine forall_congr' fun n => ?_
    rw [ne_eq, parseInteger_eq_some_iff, minInt64, maxInt64]
    constructor
    · intro hnot hstands
      by_contra hbounds
      exact hnot ⟨hstands, by omega, by omega⟩
    · rintro hbounds ⟨hstands, hlow, hhigh⟩
      have := hbounds hstands
      omega
  · intro n before after hlow hhigh hbefore hafter
    have hchars : (ofInt n).toList = intChars n := String.toList_ofList
    refine parseInteger_eq_some_iff.2 ⟨⟨before, intChars n, after, ?_, hbefore, hafter, signed_intChars n⟩,
      hlow, hhigh⟩
    rw [String.toList_ofList, hchars]

/-- The least integer of 64 bits between no-break and ideographic spaces. -/
theorem parseInteger_exact_least :
    (-2 ^ 63 : Int) ≤ 2 ^ 63 - 1 ∧ (∀ c ∈ ['\n', '\u00a0'], Text.isBlank c = true) ∧
      (∀ c ∈ ['\u3000'], Text.isBlank c = true) ∧
      parseInteger (String.ofList (['\n', '\u00a0'] ++ ((ofInt (-2 ^ 63)).toList ++ ['\u3000']))) =
        some (-2 ^ 63) := by
  have hbounds : (-2 ^ 63 : Int) ≤ 2 ^ 63 - 1 := by decide
  have hbefore : ∀ c ∈ ['\n', '\u00a0'], Text.isBlank c = true := by simp [Text.isBlank]
  have hafter : ∀ c ∈ ['\u3000'], Text.isBlank c = true := by simp [Text.isBlank]
  exact ⟨hbounds, hbefore, hafter, parseInteger_exact.2.2 _ _ _ (Int.le_refl _) hbounds hbefore hafter⟩

end Harvest.Number
