import Harvest.Text.Casing
import Harvest.Text.Clean
import Harvest.Proofs.Text.Table

/-!
# Lower case

Lower case makes no white space and no punctuation of labels (`mem_lowerAfter`), nothing that has a lower-case
form of its own (`lowerChars_lowerChars`), and no difference between the cases of ASCII letters
(`lowerChars_map_asciiLower`). All of this rests on properties of the tables, which are checked once
(`apart_lowerForms`, `passesBy_lowerForms`, `ascending_cased`).
-/

namespace Harvest.Text

/-- Characters that stand in a key wherever they are. -/
structure Neutral (c : Char) : Prop where
  no_blank : isBlank c = false
  no_separator : c ≠ ',' ∧ c ≠ '.' ∧ c ≠ ':'
  no_underscore : c ≠ '_'

namespace Casing

/-! ## ASCII letters -/

theorem asciiLower_cases (c : Char) : (asciiLower c = c ∧ ¬(65 ≤ c.toNat ∧ c.toNat ≤ 90)) ∨
    (65 ≤ c.toNat ∧ c.toNat ≤ 90 ∧ (asciiLower c).toNat = c.toNat + 32) := by
  have hupper : ('A' ≤ c && c ≤ 'Z') = true ↔ 65 ≤ c.toNat ∧ c.toNat ≤ 90 := by
    simp only [Bool.and_eq_true, decide_eq_true_eq, Char.le_def, UInt32.le_iff_toNat_le]
    rfl
  rw [asciiLower]
  split
  · next h =>
    obtain ⟨hlow, hhigh⟩ := hupper.1 h
    have hvalid : (c.toNat + 32).isValidChar := Or.inl (by omega)
    refine .inr ⟨hlow, hhigh, ?_⟩
    rw [Char.ofNat, dif_pos hvalid]
    rfl
  · next h => exact .inl ⟨rfl, mt hupper.2 h⟩

theorem asciiLower_eq_self {c : Char} (h : c.toNat < 65 ∨ 90 < c.toNat) : asciiLower c = c := by
  rcases asciiLower_cases c with ⟨hsame, -⟩ | ⟨hlow, hhigh, -⟩
  · exact hsame
  · omega

theorem asciiLower_asciiLower (c : Char) : asciiLower (asciiLower c) = asciiLower c := by
  rcases asciiLower_cases c with ⟨hsame, -⟩ | ⟨hlow, hhigh, hlower⟩
  · rw [hsame, hsame]
  · exact asciiLower_eq_self (by omega)

/-! ## Forms -/

/-- The range of code points lies above the underscore and holds no white space. -/
def Apart (first last : Nat) : Prop :=
  0x5F < first ∧ (last < 0x85 ∨ 0xA0 < first) ∧ (last < 0x1680 ∨ 0x1680 < first) ∧
    (last < 0x2000 ∨ 0x205F < first) ∧ (last < 0x3000 ∨ 0x3000 < first)

instance (first last : Nat) : Decidable (Apart first last) :=
  inferInstanceAs (Decidable (_ ∧ _))

theorem neutral_of_apart {first last n : Nat} {c : Char} (h : Apart first last) (hfirst : first ≤ n)
    (hlast : n ≤ last) (hc : c.toNat = n) : Neutral c := by
  obtain ⟨hlow, hcontrol, hogham, hpunctuation, hideographic⟩ := h
  have hne : ∀ d : Char, d.toNat ≤ 0x5F → c ≠ d := by
    rintro d hd rfl
    omega
  refine ⟨?_, ⟨hne _ (by decide), hne _ (by decide), hne _ (by decide)⟩, hne _ (by decide)⟩
  simp only [isBlank, hc, Bool.or_eq_false_iff, Bool.and_eq_false_iff, decide_eq_false_iff_not,
    beq_eq_false_iff_ne]
  omega

theorem neutral_nul : Neutral '\u0000' := by
  constructor <;> decide

/-- A code point is a character, or stands for NUL. -/
theorem toNat_ofNat_cases (n : Nat) : (Char.ofNat n).toNat = n ∨ Char.ofNat n = '\u0000' := by
  by_cases hn : n.isValidChar
  · left
    rw [Char.ofNat, dif_pos hn]
    rfl
  · right
    rw [Char.ofNat, dif_neg hn]
    rfl

/-- A code point that is no character is as harmless. -/
theorem neutral_ofNat_of_apart {first last n : Nat} (h : Apart first last) (hfirst : first ≤ n)
    (hlast : n ≤ last) : Neutral (Char.ofNat n) := by
  rcases toNat_ofNat_cases n with hn | hnul
  · exact neutral_of_apart h hfirst hlast hn
  · exact hnul ▸ neutral_nul

/-- No run of the table of lower-case forms leads to white space or to punctuation of labels. -/
theorem apart_lowerForms :
    ∀ r ∈ lowerForms.runs.toList, Apart r.target (r.target + (r.high - r.low)) := by
  rw [lowerForms, CodeMap.runs_ofText_ofList]
  decide +kernel

theorem mem_lowerChar {c d : Char} (h : d ∈ lowerChar c) : d = c ∨ Neutral d := by
  rw [lowerChar] at h
  split at h
  · obtain rfl := List.mem_singleton.1 h
    rcases asciiLower_cases c with ⟨hsame, -⟩ | ⟨hlow, hhigh, hlower⟩
    · exact .inl hsame
    · have hletters : Apart 97 122 := by decide
      exact .inr (neutral_of_apart hletters (by omega) (by omega) hlower)
  · split at h
    · right
      rcases List.mem_cons.1 h with rfl | h
      · constructor <;> decide
      · obtain rfl := List.mem_singleton.1 h
        constructor <;> decide
    · obtain rfl := List.mem_singleton.1 h
      rcases CodeMap.apply_cases lowerForms c with hsame | ⟨r, hr, ⟨hlow, hhigh, -⟩, hform⟩
      · exact .inl hsame
      · right
        rw [hform]
        exact neutral_ofNat_of_apart (apart_lowerForms r hr) (by omega) (by omega)

/-- Each character has a form, made of itself and of neutral characters. -/
theorem lowerAfter_cons (before : List Char) (c : Char) (cs : List Char) :
    ∃ form ≠ [], (∀ d ∈ form, d = c ∨ Neutral d) ∧
      lowerAfter before (c :: cs) = form ++ lowerAfter (c :: before) cs := by
  refine ⟨_, ?_, ?_, rfl⟩
  · split
    · exact List.cons_ne_nil _ _
    · rw [lowerChar]
      split
      · exact List.cons_ne_nil _ _
      · split <;> exact List.cons_ne_nil _ _
  · intro d hd
    split at hd
    · obtain rfl := List.mem_singleton.1 hd
      right
      split <;> constructor <;> decide
    · exact mem_lowerChar hd

theorem mem_lowerAfter {before cs : List Char} {d : Char} (h : d ∈ lowerAfter before cs) :
    d ∈ cs ∨ Neutral d := by
  induction cs generalizing before with
  | nil => cases h
  | cons c cs ih =>
    obtain ⟨form, -, hform, heq⟩ := lowerAfter_cons before c cs
    rw [heq, List.mem_append] at h
    rcases h with h | h
    · rcases hform d h with rfl | hd
      · exact .inl List.mem_cons_self
      · exact .inr hd
    · exact (ih h).imp_left (List.mem_cons_of_mem c)

theorem mem_head?_lowerAfter {before cs : List Char} {d : Char}
    (h : d ∈ (lowerAfter before cs).head?) : d ∈ cs.head? ∨ Neutral d := by
  cases cs with
  | nil => cases h
  | cons c cs =>
    obtain ⟨form, hne, hform, heq⟩ := lowerAfter_cons before c cs
    obtain ⟨e, more, rfl⟩ := List.exists_cons_of_ne_nil hne
    rw [heq] at h
    obtain rfl : e = d := Option.some.inj h
    rcases hform e List.mem_cons_self with rfl | he
    · exact .inl rfl
    · exact .inr he

theorem mem_getLast?_lowerAfter {before cs : List Char} {d : Char}
    (h : d ∈ (lowerAfter before cs).getLast?) : d ∈ cs.getLast? ∨ Neutral d := by
  induction cs generalizing before with
  | nil => cases h
  | cons c cs ih =>
    obtain ⟨form, hne, hform, heq⟩ := lowerAfter_cons before c cs
    rw [heq] at h
    cases cs with
    | nil =>
      rw [lowerAfter, List.append_nil] at h
      rcases hform d (List.mem_of_mem_getLast? h) with rfl | hd
      · exact .inl rfl
      · exact .inr hd
    | cons c' cs =>
      obtain ⟨form', hne', -, heq'⟩ := lowerAfter_cons (c :: before) c' cs
      have hrest : lowerAfter (c :: before) (c' :: cs) ≠ [] := by
        rw [heq']
        exact List.append_ne_nil_of_left_ne_nil hne' _
      have hlast := List.getLast?_eq_some_getLast hrest
      rw [List.getLast?_append, hlast, Option.some_or, ← hlast] at h
      rw [List.getLast?_cons_cons]
      exact ih h

/-! ## The case of ASCII letters does not matter -/

theorem lowerChar_of_ascii {c : Char} (h : c.toNat < 0x80) : lowerChar c = [asciiLower c] := by
  rw [lowerChar, if_pos h]

theorem lowerChar_asciiLower (c : Char) : lowerChar (asciiLower c) = lowerChar c := by
  rcases asciiLower_cases c with ⟨hsame, -⟩ | ⟨hlow, hhigh, hlower⟩
  · rw [hsame]
  · rw [lowerChar_of_ascii (by omega), lowerChar_of_ascii (by omega), asciiLower_asciiLower]

theorem ascending_cased : cased.Ascending := by
  rw [CharSet.Ascending, cased, CharSet.toList_ofText_ofList]
  decide +kernel

theorem letters_cased : (65, 90) ∈ cased.ranges.toList ∧ (97, 122) ∈ cased.ranges.toList := by
  rw [cased, CharSet.toList_ofText_ofList]
  decide +kernel

theorem caseIgnorable_letterless :
    ∀ r ∈ caseIgnorable.ranges.toList, r.2 < 65 ∨ (90 < r.1 ∧ r.2 < 97) ∨ 122 < r.1 := by
  rw [caseIgnorable, CharSet.toList_ofText_ofList]
  decide +kernel

theorem contains_asciiLower (c : Char) : cased.contains (asciiLower c) = cased.contains c ∧
    caseIgnorable.contains (asciiLower c) = caseIgnorable.contains c := by
  rcases asciiLower_cases c with ⟨hsame, -⟩ | ⟨hlow, hhigh, hlower⟩
  · rw [hsame]
    exact ⟨rfl, rfl⟩
  constructor
  · obtain ⟨hcapitals, hsmall⟩ := letters_cased
    have hcased : cased.contains c = true :=
      (CharSet.contains_eq_true_iff ascending_cased).2 ⟨_, hcapitals, hlow, hhigh⟩
    have hcased' : cased.contains (asciiLower c) = true :=
      (CharSet.contains_eq_true_iff ascending_cased).2 ⟨_, hsmall, by omega, by omega⟩
    rw [hcased, hcased']
  · have hletter : ∀ d : Char, (65 ≤ d.toNat ∧ d.toNat ≤ 90) ∨ (97 ≤ d.toNat ∧ d.toNat ≤ 122) →
        caseIgnorable.contains d = false := by
      intro d hd
      rw [Bool.eq_false_iff]
      intro hcontains
      obtain ⟨r, hr, hfirst, hlast⟩ := CharSet.exists_of_search hcontains
      have hrange := caseIgnorable_letterless r hr
      omega
    rw [hletter c (.inl ⟨hlow, hhigh⟩), hletter (asciiLower c) (.inr (by omega))]

theorem startsCased_map_asciiLower (cs : List Char) :
    startsCased (cs.map asciiLower) = startsCased cs := by
  have hignorable : caseIgnorable.contains ∘ asciiLower = caseIgnorable.contains := by
    funext c
    rw [Function.comp_apply, (contains_asciiLower c).2]
  rw [startsCased, List.dropWhile_map, hignorable, startsCased]
  cases cs.dropWhile caseIgnorable.contains with
  | nil => rfl
  | cons c _ => exact (contains_asciiLower c).1

/-- Only letters have a letter as their form. -/
theorem asciiLower_eq_iff {c d : Char}
    (hd : d.toNat < 65 ∨ (90 < d.toNat ∧ d.toNat < 97) ∨ 122 < d.toNat) : asciiLower c = d ↔ c = d := by
  rcases asciiLower_cases c with ⟨hsame, -⟩ | ⟨hlow, hhigh, hlower⟩
  · rw [hsame]
  · constructor
    · intro h
      rw [h] at hlower
      omega
    · rintro rfl
      omega

theorem asciiLower_beq {c d : Char} (hd : d.toNat < 65 ∨ (90 < d.toNat ∧ d.toNat < 97) ∨ 122 < d.toNat) :
    (asciiLower c == d) = (c == d) := by
  rw [Bool.eq_iff_iff, beq_iff_eq, beq_iff_eq, asciiLower_eq_iff hd]

theorem lowerAfter_map_asciiLower (before cs : List Char) :
    lowerAfter (before.map asciiLower) (cs.map asciiLower) = lowerAfter before cs := by
  induction cs generalizing before with
  | nil => rfl
  | cons c cs ih =>
    -- a sigma looks at both sides for letters, which are letters in either case
    rw [List.map_cons, lowerAfter, lowerAfter, ← List.map_cons, ih (c :: before),
      startsCased_map_asciiLower, startsCased_map_asciiLower, lowerChar_asciiLower]
    have hsigma : asciiLower c = '\u03A3' ↔ c = '\u03A3' := asciiLower_eq_iff (by decide)
    simp only [hsigma]

theorem lowerChars_map_asciiLower (cs : List Char) : lowerChars (cs.map asciiLower) = lowerChars cs :=
  lowerAfter_map_asciiLower [] cs

/-! ## Lower case of lower case -/

/-- A character that is its own lower-case form, wherever it stands. -/
structure IsLower (c : Char) : Prop where
  not_sigma : c ≠ '\u03A3'
  lowerChar_eq : lowerChar c = [c]

theorem lowerAfter_eq_self {before cs : List Char} (h : ∀ c ∈ cs, IsLower c) :
    lowerAfter before cs = cs := by
  induction cs generalizing before with
  | nil => rfl
  | cons c cs ih =>
    have hc := h c List.mem_cons_self
    rw [lowerAfter, if_neg hc.not_sigma, hc.lowerChar_eq, ih fun d hd => h d (List.mem_cons_of_mem c hd)]
    rfl

/-- No run of the table of lower-case forms leads to what it moves itself. -/
theorem passesBy_lowerForms : ∀ r ∈ lowerForms.runs.toList,
    ∀ other ∈ lowerForms.runs.toList.filter r.meets, r.PassesBy other := by
  rw [lowerForms, CodeMap.runs_ofText_ofList]
  decide +kernel

/-- Nor does it lead to the two characters that have a rule of their own. -/
theorem lowerForms_ne_special : ∀ r ∈ lowerForms.runs.toList, ∀ n ∈ [0x130, 0x3A3],
    r.target + (r.high - r.low) < n ∨ n < r.target := by
  rw [lowerForms, CodeMap.runs_ofText_ofList]
  decide +kernel

/-- The characters that those rules lead to are not moved. -/
theorem lowerForms_keeps_special : ∀ r ∈ lowerForms.runs.toList, ∀ n ∈ [0x307, 0x3C2, 0x3C3],
    r.high < n ∨ n < r.low := by
  rw [lowerForms, CodeMap.runs_ofText_ofList]
  decide +kernel

theorem isLower_of_ascii {c : Char} (h : c.toNat < 0x80) (hlower : asciiLower c = c) : IsLower c where
  not_sigma := by
    rintro rfl
    exact absurd h (by decide)
  lowerChar_eq := by rw [lowerChar_of_ascii h, hlower]

theorem isLower_of_not_moved {c : Char} (hsigma : c ≠ '\u03A3') (hdotted : c ≠ '\u0130')
    (hascii : 0x80 ≤ c.toNat) (h : ∀ r ∈ lowerForms.runs.toList, ¬r.Moves c.toNat) : IsLower c where
  not_sigma := hsigma
  lowerChar_eq := by rw [lowerChar, if_neg (Nat.not_lt.2 hascii), if_neg hdotted, CodeMap.apply_eq_self h]

theorem isLower_special {c : Char} (hc : c.toNat ∈ [0x307, 0x3C2, 0x3C3]) : IsLower c := by
  have hrange : 0x307 ≤ c.toNat ∧ c.toNat ≠ 0x3A3 := by
    simp only [List.mem_cons, List.not_mem_nil, or_false] at hc
    omega
  refine isLower_of_not_moved ?_ ?_ (by omega) fun r hr hmoves => ?_
  · rintro rfl
    exact hrange.2 (by decide)
  · rintro rfl
    exact absurd hrange.1 (by decide)
  · obtain ⟨hlow, hhigh, -⟩ := hmoves
    have hkeeps := lowerForms_keeps_special r hr _ hc
    omega

theorem isLower_of_moved {r : CodeRun} (hr : r ∈ lowerForms.runs.toList) {n : Nat} (hn : r.Moves n) :
    IsLower (Char.ofNat (r.target + (n - r.low))) := by
  obtain ⟨hlow, hhigh, -⟩ := id hn
  rcases toNat_ofNat_cases (r.target + (n - r.low)) with hcode | hnul
  · have hspecial : ∀ m ∈ [0x130, 0x3A3], (Char.ofNat (r.target + (n - r.low))).toNat ≠ m := by
      intro m hm
      have hne := lowerForms_ne_special r hr m hm
      omega
    have hsigma : Char.ofNat (r.target + (n - r.low)) ≠ '\u03A3' := by
      intro h
      exact hspecial 0x3A3 (by decide) (by rw [h]; decide)
    have hdotted : Char.ofNat (r.target + (n - r.low)) ≠ '\u0130' := by
      intro h
      exact hspecial 0x130 (by decide) (by rw [h]; decide)
    rcases Nat.lt_or_ge (Char.ofNat (r.target + (n - r.low))).toNat 0x80 with hascii | hbeyond
    · have habove := (apart_lowerForms r hr).1
      exact isLower_of_ascii hascii (asciiLower_eq_self (.inr (by omega)))
    · refine isLower_of_not_moved hsigma hdotted hbeyond fun other hother => ?_
      rw [hcode]
      exact hn.not_moves fun hmeets =>
        passesBy_lowerForms r hr other (List.mem_filter.2 ⟨hother, hmeets⟩)
  · rw [hnul]
    exact isLower_of_ascii (by decide) (by decide)

theorem isLower_of_mem_lowerChar {c d : Char} (hsigma : c ≠ '\u03A3') (h : d ∈ lowerChar c) :
    IsLower d := by
  rw [lowerChar] at h
  split at h
  · next hascii =>
    obtain rfl := List.mem_singleton.1 h
    have hstill : (asciiLower c).toNat < 0x80 := by
      rcases asciiLower_cases c with ⟨hsame, -⟩ | ⟨-, hhigh, hlower⟩
      · rwa [hsame]
      · omega
    exact isLower_of_ascii hstill (asciiLower_asciiLower c)
  · next hbeyond =>
    split at h
    · rcases List.mem_cons.1 h with rfl | h
      · exact isLower_of_ascii (by decide) (by decide)
      · obtain rfl := List.mem_singleton.1 h
        exact isLower_special (by decide)
    · next hdotted =>
      obtain rfl := List.mem_singleton.1 h
      rcases CodeMap.apply_cases lowerForms c with hsame | ⟨r, hr, hmoves, hform⟩
      · have hlower : lowerChar c = [c] := by rw [lowerChar, if_neg hbeyond, if_neg hdotted, hsame]
        rw [hsame]
        exact ⟨hsigma, hlower⟩
      · rw [hform]
        exact isLower_of_moved hr hmoves

theorem isLower_of_mem_lowerAfter {before cs : List Char} {d : Char} (h : d ∈ lowerAfter before cs) :
    IsLower d := by
  induction cs generalizing before with
  | nil => cases h
  | cons c cs ih =>
    rw [lowerAfter, List.mem_append] at h
    rcases h with h | h
    · split at h
      · obtain rfl := List.mem_singleton.1 h
        split <;> exact isLower_special (by decide)
      · next hsigma => exact isLower_of_mem_lowerChar hsigma h
    · exact ih h

/-- **Lower case of lower case is the same.** -/
theorem lowerChars_lowerChars (cs : List Char) : lowerChars (lowerChars cs) = lowerChars cs :=
  lowerAfter_eq_self fun _ => isLower_of_mem_lowerAfter

end Casing

end Harvest.Text
