import Harvest.Number.Decimal
import Harvest.Proofs.Text.Split

/-!
# Decimal numerals spell their number

The numeral of a number is a non-empty row of digits (`isDigit_of_mem_digits`), without a leading zero
unless it is `0` itself (`digits_eq_cons`), and Horner's rule gives the number back
(`digitsValue_digits`). With its sign it reads back as an integer (`readInt?_intChars`), as long as the
number lies within the bounds. An index is read from exactly the texts that spell it (`parseIndex_eq_some_iff`).
-/

namespace Harvest.Number

/-! ## One digit -/

theorem toNat_digitChar {n : Nat} (h : n < 10) : (digitChar n).toNat = 48 + n := by
  have hall : ∀ m < 10, (digitChar m).toNat = 48 + m := by decide
  exact hall n h

theorem digitValue_digitChar {n : Nat} (h : n < 10) : digitValue (digitChar n) = n := by
  rw [digitValue, toNat_digitChar h]
  omega

theorem isDigit_iff {c : Char} : isDigit c = true ↔ 48 ≤ c.toNat ∧ c.toNat ≤ 57 := by
  simp only [isDigit, Bool.and_eq_true, decide_eq_true_eq, Char.le_def, UInt32.le_iff_toNat_le]
  rfl

theorem isDigit_digitChar {n : Nat} (h : n < 10) : isDigit (digitChar n) = true := by
  rw [isDigit_iff, toNat_digitChar h]
  omega

/-! ## Numerals -/

theorem digits_of_lt {n : Nat} (h : n < 10) : digits n = [digitChar n] := by
  rw [digits, digitsOnto, if_pos h]

theorem digitsOnto_eq_append (n : Nat) (acc : List Char) :
    digitsOnto n acc = digits n ++ acc := by
  induction n using Nat.strongRecOn generalizing acc with
  | ind n ih =>
    rcases Nat.lt_or_ge n 10 with h | h
    · rw [digits_of_lt h, digitsOnto, if_pos h]
      rfl
    · have hless : n / 10 < n := by omega
      have hdigits : digits n = digits (n / 10) ++ [digitChar (n % 10)] := by
        rw [digits, digitsOnto, if_neg (by omega), ih _ hless]
      rw [digitsOnto, if_neg (by omega), ih _ hless, hdigits, List.append_assoc]
      rfl

theorem digits_of_ge {n : Nat} (h : 10 ≤ n) :
    digits n = digits (n / 10) ++ [digitChar (n % 10)] := by
  rw [digits, digitsOnto, if_neg (by omega), digitsOnto_eq_append]

/-- Digit by digit, from the first. -/
theorem digits_induction {motive : Nat → Prop} (digit : ∀ n < 10, motive n)
    (more : ∀ n, 10 ≤ n → motive (n / 10) → motive n) (n : Nat) : motive n := by
  induction n using Nat.strongRecOn with
  | ind n ih =>
    rcases Nat.lt_or_ge n 10 with h | h
    · exact digit n h
    · exact more n h (ih (n / 10) (by omega))

theorem isDigit_of_mem_digits {n : Nat} {c : Char} (h : c ∈ digits n) : isDigit c = true := by
  induction n using digits_induction with
  | digit n hn =>
    rw [digits_of_lt hn, List.mem_singleton] at h
    rw [h]
    exact isDigit_digitChar hn
  | more n hn ih =>
    rw [digits_of_ge hn, List.mem_append, List.mem_singleton] at h
    rcases h with h | rfl
    · exact ih h
    · exact isDigit_digitChar (Nat.mod_lt n (by omega))

/-- The first digit is zero only in the numeral of zero. -/
theorem digits_eq_cons (n : Nat) : ∃ c cs, digits n = c :: cs ∧ isDigit c = true ∧
    (digitValue c = 0 → n = 0 ∧ cs = []) := by
  induction n using digits_induction with
  | digit n hn =>
    refine ⟨_, [], digits_of_lt hn, isDigit_digitChar hn, ?_⟩
    intro h
    rw [digitValue_digitChar hn] at h
    exact ⟨h, rfl⟩
  | more n hn ih =>
    obtain ⟨c, cs, hcs, hc, hzero⟩ := ih
    refine ⟨c, cs ++ [digitChar (n % 10)], by rw [digits_of_ge hn, hcs]; rfl, hc, ?_⟩
    intro h
    have := (hzero h).1
    omega

theorem digitsValue_digits (n : Nat) : digitsValue (digits n) = n := by
  induction n using digits_induction with
  | digit n hn =>
    rw [digits_of_lt hn, digitsValue, List.foldl_cons, List.foldl_nil, digitValue_digitChar hn]
    omega
  | more n hn ih =>
    rw [digits_of_ge hn, digitsValue, List.foldl_append, ← digitsValue, ih, List.foldl_cons,
      List.foldl_nil, digitValue_digitChar (Nat.mod_lt n (by omega))]
    omega

theorem readDigits?_digits (n : Nat) : readDigits? (digits n) = some n := by
  obtain ⟨c, cs, hcs, -⟩ := digits_eq_cons n
  have hall : (digits n).all isDigit = true := List.all_eq_true.2 fun _ => isDigit_of_mem_digits
  have hne : (digits n).isEmpty = false := by rw [hcs]; rfl
  rw [readDigits?, hall, hne, digitsValue_digits]
  rfl

/-! ## Integers -/

theorem readInt?_intChars {low high i : Int} (hlow : low ≤ i) (hhigh : i ≤ high) :
    readInt? low high (intChars i) = some i := by
  have hbounds : (decide (low ≤ i) && decide (i ≤ high)) = true := by simp [hlow, hhigh]
  rw [intChars]
  split
  · have hi : -Int.ofNat i.natAbs = i := by simp only [Int.ofNat_eq_natCast]; omega
    simp only [readInt?, readDigits?_digits, Option.map_some, hi, hbounds, if_true]
  · have hi : Int.ofNat i.natAbs = i := by simp only [Int.ofNat_eq_natCast]; omega
    obtain ⟨c, cs, hcs, hc, -⟩ := digits_eq_cons i.natAbs
    have hread : readDigits? (c :: cs) = some i.natAbs := by rw [← hcs, readDigits?_digits]
    rw [hcs, readInt?]
    · simp only [hread, Option.map_some, hi, hbounds, if_true]
    · rintro rest ⟨⟩
      exact absurd hc (by decide)
    · rintro rest ⟨⟩
      exact absurd hc (by decide)

theorem mem_intChars {i : Int} {c : Char} (h : c ∈ intChars i) : c = '-' ∨ isDigit c = true := by
  rw [intChars] at h
  split at h
  · exact (List.mem_cons.1 h).imp id isDigit_of_mem_digits
  · exact Or.inr (isDigit_of_mem_digits h)

theorem isBlank_of_mem_intChars {i : Int} {c : Char} (h : c ∈ intChars i) :
    Text.isBlank c = false := by
  have hrange : 45 ≤ c.toNat ∧ c.toNat ≤ 57 := by
    rcases mem_intChars h with rfl | h
    · decide
    · have := isDigit_iff.1 h
      omega
  simp [Text.isBlank]
  omega

/-- A 64-bit integer reads back from its text. -/
theorem parseInteger_ofInt {i : Int} (hlow : minInt64 ≤ i) (hhigh : i ≤ maxInt64) :
    parseInteger (ofInt i) = some i := by
  have htrim : Text.trimChars (intChars i) = intChars i :=
    Text.trimWhere_eq_self (fun _ hc => isBlank_of_mem_intChars (List.mem_of_mem_head? hc))
      fun _ hc => isBlank_of_mem_intChars (List.mem_of_mem_getLast? hc)
  rw [parseInteger, ofInt, String.toList_ofList, htrim, readInt?_intChars hlow hhigh]

theorem wrapInt64_eq_self {i : Int} (hlow : minInt64 ≤ i) (hhigh : i ≤ maxInt64) :
    wrapInt64 i = i := by
  rw [minInt64] at hlow
  rw [maxInt64] at hhigh
  exact Int.bmod_eq_of_le (by omega) (by omega)

theorem parseInteger_range {s : String} {i : Int} (h : parseInteger s = some i) :
    minInt64 ≤ i ∧ i ≤ maxInt64 := by
  unfold parseInteger readInt? at h
  simp only at h
  split at h
  · split at h
    · rename_i hrange
      cases h
      simpa using hrange
    · cases h
  · cases h

/-! ## Indices -/

theorem readDigits?_eq_some_iff {cs : List Char} {n : Nat} :
    readDigits? cs = some n ↔ cs ≠ [] ∧ (∀ c ∈ cs, isDigit c = true) ∧ digitsValue cs = n := by
  rw [readDigits?, ← and_assoc]
  by_cases h : cs ≠ [] ∧ ∀ c ∈ cs, isDigit c = true
  · have hgood : ¬(cs.isEmpty || !cs.all isDigit) = true := by simpa using h
    rw [if_neg hgood, Option.some.injEq]
    exact (and_iff_right h).symm
  · have hbad : (cs.isEmpty || !cs.all isDigit) = true := by
      cases hgood : (cs.isEmpty || !cs.all isDigit) with
      | true => rfl
      | false => exact absurd (by simpa using hgood) h
    rw [if_pos hbad]
    constructor
    · intro hnone
      cases hnone
    · intro hsome
      exact absurd hsome.1 h

/-- How an index is written: in decimal digits, zeros in front included, perhaps behind a plus sign. -/
inductive Spells : List Char → Nat → Prop where
  | plain {cs : List Char} (nonempty : cs ≠ []) (digits : ∀ c ∈ cs, isDigit c = true) :
      Spells cs (digitsValue cs)
  | signed {cs : List Char} (nonempty : cs ≠ []) (digits : ∀ c ∈ cs, isDigit c = true) :
      Spells ('+' :: cs) (digitsValue cs)

theorem spells_plus_iff {cs : List Char} {n : Nat} : Spells ('+' :: cs) n ↔ readDigits? cs = some n := by
  rw [readDigits?_eq_some_iff]
  constructor
  · intro h
    cases h with
    | plain _ hdigits => exact absurd (hdigits '+' List.mem_cons_self) (by decide)
    | signed hne hdigits => exact ⟨hne, hdigits, rfl⟩
  · rintro ⟨hne, hdigits, rfl⟩
    exact .signed hne hdigits

theorem spells_iff_of_ne_plus {cs : List Char} (hplus : ∀ rest, cs ≠ '+' :: rest) {n : Nat} :
    Spells cs n ↔ readDigits? cs = some n := by
  rw [readDigits?_eq_some_iff]
  constructor
  · intro h
    cases h with
    | plain hne hdigits => exact ⟨hne, hdigits, rfl⟩
    | signed => exact absurd rfl (hplus _)
  · rintro ⟨hne, hdigits, rfl⟩
    exact .plain hne hdigits

theorem readNat?_plus (limit : Nat) (cs : List Char) :
    readNat? limit ('+' :: cs) = (readDigits? cs).filter fun n => n ≤ limit := by
  simp only [readNat?]
  cases readDigits? cs <;> simp [Option.filter]

theorem readNat?_of_ne_plus {cs : List Char} (hplus : ∀ rest, cs ≠ '+' :: rest) (limit : Nat) :
    readNat? limit cs = (readDigits? cs).filter fun n => n ≤ limit := by
  simp only [readNat?]
  cases readDigits? cs <;> simp [Option.filter]

theorem readNat?_eq_some_iff {limit n : Nat} {cs : List Char} :
    readNat? limit cs = some n ↔ Spells cs n ∧ n ≤ limit := by
  by_cases hplus : ∃ rest, cs = '+' :: rest
  · obtain ⟨rest, rfl⟩ := hplus
    simp [readNat?_plus, spells_plus_iff, Option.filter_eq_some_iff]
  · rw [not_exists] at hplus
    simp [readNat?_of_ne_plus hplus, spells_iff_of_ne_plus hplus, Option.filter_eq_some_iff]

/-- An index is read from the texts that spell it, up to the greatest number of 64 bits. -/
theorem parseIndex_eq_some_iff {s : String} {n : Nat} :
    parseIndex s = some n ↔ Spells s.toList n ∧ n ≤ maxNat64 :=
  readNat?_eq_some_iff

theorem Spells.unique {cs : List Char} {m n : Nat} (hm : Spells cs m) (hn : Spells cs n) : m = n := by
  have hreadm : readNat? (max m n) cs = some m := readNat?_eq_some_iff.2 ⟨hm, Nat.le_max_left m n⟩
  have hreadn : readNat? (max m n) cs = some n := readNat?_eq_some_iff.2 ⟨hn, Nat.le_max_right m n⟩
  exact Option.some.inj (hreadm.symm.trans hreadn)

theorem spells_digits (n : Nat) : Spells (digits n) n := by
  obtain ⟨c, cs, hcs, -⟩ := digits_eq_cons n
  have hne : digits n ≠ [] := by
    rw [hcs]
    exact List.cons_ne_nil c cs
  have h := Spells.plain hne fun _ => isDigit_of_mem_digits
  rwa [digitsValue_digits] at h

theorem Spells.ne_nil {cs : List Char} {n : Nat} (h : Spells cs n) : cs ≠ [] := by
  cases h with
  | plain hne => exact hne
  | signed => exact List.cons_ne_nil _ _

end Harvest.Number
