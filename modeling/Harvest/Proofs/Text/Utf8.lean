import Harvest.Text.Utf8

/-!
# UTF-8 reads back

The bytes of a character are read as that character, whatever bytes follow (`step_encodeChar`), so that
the bytes of a text are read as the text (`decodeLossy_encode`).
-/

namespace Harvest.Text.Utf8

theorem toNat_toUInt8 {n : Nat} (h : n < 256) : n.toUInt8.toNat = n := by
  simpa using h

/-- A follower byte with six bits is taken, if it lies within the bounds. -/
theorem followers_cons {k acc n : Nat} {lo hi : UInt8} {bs : List UInt8} {r : Nat × List UInt8}
    (hn : n < 64) (hlo : lo.toNat ≤ 0x80 + n) (hhi : 0x80 + n ≤ hi.toNat)
    (h : followers k 0x80 0xBF (acc * 64 + n) bs = .ok r) :
    followers (k + 1) lo hi acc ((0x80 + n).toUInt8 :: bs) = .ok r := by
  have hb : ((0x80 + n).toUInt8).toNat = 0x80 + n := toNat_toUInt8 (by omega)
  have hbits : (0x80 + n) % 64 = n := by omega
  have hin : (decide (lo ≤ (0x80 + n).toUInt8) && decide ((0x80 + n).toUInt8 ≤ hi)) = true := by
    simp only [UInt8.le_iff_toNat_le, hb, Bool.and_eq_true, decide_eq_true_eq]
    exact ⟨hlo, hhi⟩
  simp only [followers, hin, if_true, hb, hbits, h]

/-- A lead byte and its followers make a character. -/
theorem step_of_followers {m k n : Nat} {lo hi : UInt8} {bs rest : List UInt8} (hm : m < 64)
    (hlead : lead? (0xC0 + m).toUInt8 = some (k, lo, hi))
    (h : followers k lo hi (leadBits k (0xC0 + m).toUInt8) bs = .ok (n, rest)) :
    step (0xC0 + m).toUInt8 bs = .ok (Char.ofNat n, rest) := by
  have hb : ¬ (0xC0 + m).toUInt8 < 0x80 := by
    rw [UInt8.lt_iff_toNat_lt, toNat_toUInt8 (by omega)]
    simp
    omega
  simp only [step, if_neg hb, hlead, h]

theorem lead?_two : ∀ m < 32, 2 ≤ m → lead? (0xC0 + m).toUInt8 = some (1, 0x80, 0xBF) := by
  decide

theorem lead?_three : ∀ m < 16, lead? (0xC0 + (32 + m)).toUInt8 =
    some (2, if m = 0 then 0xA0 else 0x80, if m = 13 then 0x9F else 0xBF) := by
  decide

theorem lead?_four : ∀ m < 5, lead? (0xC0 + (48 + m)).toUInt8 =
    some (3, if m = 0 then 0x90 else 0x80, if m = 4 then 0x8F else 0xBF) := by
  decide

theorem step_two {n : Nat} (hlow : 0x80 ≤ n) (hhigh : n < 0x800) (rest : List UInt8) :
    step (0xC0 + n / 64).toUInt8 ((0x80 + n % 64).toUInt8 :: rest) = .ok (Char.ofNat n, rest) := by
  refine step_of_followers (by omega) (lead?_two (n / 64) (by omega) (by omega)) ?_
  have hbits : leadBits 1 (0xC0 + n / 64).toUInt8 = n / 64 := by
    rw [leadBits, toNat_toUInt8 (by omega)]
    omega
  have hsum : n / 64 * 64 + n % 64 = n := by omega
  rw [hbits]
  exact followers_cons (by omega) (by simp) (by simp; omega) (by rw [hsum, followers])

theorem step_three {n : Nat} (hlow : 0x800 ≤ n) (hhigh : n < 0x10000)
    (hvalid : n < 0xD800 ∨ 0xDFFF < n) (rest : List UInt8) :
    step (0xE0 + n / 4096).toUInt8
        ((0x80 + n / 64 % 64).toUInt8 :: (0x80 + n % 64).toUInt8 :: rest) =
      .ok (Char.ofNat n, rest) := by
  have hlead := lead?_three (n / 4096) (by omega)
  rw [show 0xE0 + n / 4096 = 0xC0 + (32 + n / 4096) by omega]
  refine step_of_followers (by omega) hlead ?_
  have hbits : leadBits 2 (0xC0 + (32 + n / 4096)).toUInt8 = n / 4096 := by
    rw [leadBits, toNat_toUInt8 (by omega)]
    omega
  have hsum : (n / 4096 * 64 + n / 64 % 64) * 64 + n % 64 = n := by omega
  rw [hbits]
  refine followers_cons (by omega) ?_ ?_
    (followers_cons (by omega) (by simp) (by simp; omega) (by rw [hsum, followers]))
  · split <;> simp
    omega
  · split <;> simp <;> omega

theorem step_four {n : Nat} (hlow : 0x10000 ≤ n) (hhigh : n < 0x110000) (rest : List UInt8) :
    step (0xF0 + n / 262144).toUInt8
        ((0x80 + n / 4096 % 64).toUInt8 :: (0x80 + n / 64 % 64).toUInt8 ::
          (0x80 + n % 64).toUInt8 :: rest) =
      .ok (Char.ofNat n, rest) := by
  have hlead := lead?_four (n / 262144) (by omega)
  rw [show 0xF0 + n / 262144 = 0xC0 + (48 + n / 262144) by omega]
  refine step_of_followers (by omega) hlead ?_
  have hbits : leadBits 3 (0xC0 + (48 + n / 262144)).toUInt8 = n / 262144 := by
    simp only [leadBits, toNat_toUInt8 (show 0xC0 + (48 + n / 262144) < 256 by omega)]
    omega
  have hsum : ((n / 262144 * 64 + n / 4096 % 64) * 64 + n / 64 % 64) * 64 + n % 64 = n := by omega
  rw [hbits]
  refine followers_cons (by omega) ?_ ?_
    (followers_cons (by omega) (by simp) (by simp; omega)
      (followers_cons (by omega) (by simp) (by simp; omega) (by rw [hsum, followers])))
  · split <;> simp
    omega
  · split <;> simp <;> omega

/-- The first character is read from its bytes, and nothing of what follows them. -/
theorem step_encodeChar (c : Char) (rest : List UInt8) :
    ∃ b bs, encodeChar c = b :: bs ∧ step b (bs ++ rest) = .ok (c, rest) := by
  have hvalid : c.toNat < 0xD800 ∨ 0xDFFF < c.toNat ∧ c.toNat < 0x110000 := c.valid
  simp only [encodeChar]
  split
  case isTrue h =>
    refine ⟨_, _, rfl, ?_⟩
    have hb : c.toNat.toUInt8 < 0x80 := by
      rw [UInt8.lt_iff_toNat_lt, toNat_toUInt8 (by omega)]
      exact h
    rw [step, if_pos hb, toNat_toUInt8 (by omega), Char.ofNat_toNat]
    rfl
  case isFalse hone =>
  split
  case isTrue h =>
    refine ⟨_, _, rfl, ?_⟩
    rw [List.cons_append, List.nil_append, step_two (by omega) h, Char.ofNat_toNat]
  case isFalse htwo =>
  split
  case isTrue h =>
    refine ⟨_, _, rfl, ?_⟩
    rw [List.cons_append, List.cons_append, List.nil_append,
      step_three (by omega) h (by omega), Char.ofNat_toNat]
  case isFalse hthree =>
    refine ⟨_, _, rfl, ?_⟩
    rw [List.cons_append, List.cons_append, List.cons_append, List.nil_append,
      step_four (by omega) (by omega), Char.ofNat_toNat]

/-- A text is read from its bytes. -/
theorem decodeLossy_encode (cs : List Char) : decodeLossy (encode cs) = cs := by
  induction cs with
  | nil => rw [encode, List.flatMap_nil, decodeLossy]
  | cons c cs ih =>
    obtain ⟨b, bs, hbytes, hstep⟩ := step_encodeChar c (encode cs)
    rw [encode, List.flatMap_cons, ← encode, hbytes, List.cons_append, decodeLossy]
    split
    case h_1 heq => rw [hstep] at heq; cases heq; rw [ih]
    case h_2 heq => rw [hstep] at heq; cases heq

theorem toStringLossy_ofString (s : String) : toStringLossy (ofString s) = s := by
  rw [toStringLossy, ofString, decodeLossy_encode, String.ofList_toList]

/-- Characters of ASCII are their own bytes. -/
theorem encode_of_ascii {cs : List Char} (h : ∀ c ∈ cs, c.toNat < 0x80) :
    encode cs = cs.map fun c => c.toNat.toUInt8 := by
  induction cs with
  | nil => rfl
  | cons c cs ih =>
    have hc : encodeChar c = [c.toNat.toUInt8] := by
      rw [encodeChar, if_pos (h c (List.mem_cons_self ..))]
    rw [encode, List.flatMap_cons, hc, ← encode, ih fun c hc => h c (List.mem_cons_of_mem _ hc)]
    rfl

end Harvest.Text.Utf8
