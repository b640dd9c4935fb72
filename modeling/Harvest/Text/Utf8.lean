/-!
# UTF-8

`encode` writes characters as bytes. `step` takes one character, or one undecodable byte, off the
front of a byte sequence; `symbols` reads a whole sequence so, and `decodeLossy` reads it with one
replacement character for each longest undecodable piece.
-/

namespace Harvest.Text.Utf8

/-- The bytes of one character. -/
def encodeChar (c : Char) : List UInt8 :=
  let n := c.toNat
  if n < 0x80 then [n.toUInt8]
  else if n < 0x800 then [(0xC0 + n / 64).toUInt8, (0x80 + n % 64).toUInt8]
  else if n < 0x10000 then
    [(0xE0 + n / 4096).toUInt8, (0x80 + n / 64 % 64).toUInt8, (0x80 + n % 64).toUInt8]
  else
    [(0xF0 + n / 262144).toUInt8, (0x80 + n / 4096 % 64).toUInt8, (0x80 + n / 64 % 64).toUInt8,
      (0x80 + n % 64).toUInt8]

/-- The bytes of a sequence of characters. -/
def encode (cs : List Char) : List UInt8 :=
  cs.flatMap encodeChar

/-- The bytes of a text. -/
def ofString (s : String) : List UInt8 :=
  encode s.toList

/-- How many bytes a character takes. -/
def width (c : Char) : Nat :=
  let n := c.toNat
  if n < 0x80 then 1 else if n < 0x800 then 2 else if n < 0x10000 then 3 else 4

/-- The number of bytes after a lead byte, with the bounds of the first of them. -/
def lead? (b : UInt8) : Option (Nat × UInt8 × UInt8) :=
  if 0xC2 ≤ b && b ≤ 0xDF then some (1, 0x80, 0xBF)
  else if b == 0xE0 then some (2, 0xA0, 0xBF)
  else if b == 0xED then some (2, 0x80, 0x9F)
  else if 0xE1 ≤ b && b ≤ 0xEF then some (2, 0x80, 0xBF)
  else if b == 0xF0 then some (3, 0x90, 0xBF)
  else if 0xF1 ≤ b && b ≤ 0xF3 then some (3, 0x80, 0xBF)
  else if b == 0xF4 then some (3, 0x80, 0x8F)
  else none

/-- The bits that a lead byte with `k` followers carries. -/
def leadBits (k : Nat) (b : UInt8) : Nat :=
  match k with
  | 1 => b.toNat % 32
  | 2 => b.toNat % 16
  | _ => b.toNat % 8

/-- Takes up to `k` follower bytes, the first within the given bounds. Answers the value read, or
how many bytes fitted before the sequence broke off. -/
def followers : Nat → UInt8 → UInt8 → Nat → List UInt8 → Except Nat (Nat × List UInt8)
  | 0, _, _, acc, bs => .ok (acc, bs)
  | _ + 1, _, _, _, [] => .error 0
  | k + 1, lo, hi, acc, b :: bs =>
    if lo ≤ b && b ≤ hi then
      match followers k 0x80 0xBF (acc * 64 + b.toNat % 64) bs with
      | .ok r => .ok r
      | .error n => .error (n + 1)
    else .error 0

/-- The first character of a byte sequence and the bytes after it, or the length of the longest
undecodable piece at the front. -/
def step (b : UInt8) (bs : List UInt8) : Except Nat (Char × List UInt8) :=
  if b < 0x80 then .ok (Char.ofNat b.toNat, bs)
  else match lead? b with
    | none => .error 1
    | some (k, lo, hi) =>
      match followers k lo hi (leadBits k b) bs with
      | .ok (n, rest) => .ok (Char.ofNat n, rest)
      | .error n => .error (n + 1)

theorem followers_length {k : Nat} {lo hi : UInt8} {acc n : Nat} {bs rest : List UInt8}
    (h : followers k lo hi acc bs = .ok (n, rest)) : rest.length ≤ bs.length := by
  induction k generalizing lo hi acc bs with
  | zero => simp only [followers, Except.ok.injEq, Prod.mk.injEq] at h; simp [h.2]
  | succ k ih =>
    cases bs with
    | nil => simp [followers] at h
    | cons b bs =>
      simp only [followers] at h
      split at h
      · cases hf : followers k 0x80 0xBF (acc * 64 + b.toNat % 64) bs with
        | ok r =>
          rw [hf] at h
          simp only [Except.ok.injEq] at h
          subst h
          have := ih hf
          simp only [List.length_cons]
          omega
        | error m => rw [hf] at h; simp at h
      · simp at h

theorem step_length {b : UInt8} {bs rest : List UInt8} {c : Char}
    (h : step b bs = .ok (c, rest)) : rest.length ≤ bs.length := by
  unfold step at h
  split at h
  · simp only [Except.ok.injEq, Prod.mk.injEq] at h; simp [h.2]
  · split at h
    · simp at h
    · rename_i k lo hi _
      cases hf : followers k lo hi (leadBits k b) bs with
      | ok r =>
        rw [hf] at h
        simp only [Except.ok.injEq, Prod.mk.injEq] at h
        obtain ⟨n, r'⟩ := r
        simp only at h
        exact h.2 ▸ followers_length hf
      | error m => rw [hf] at h; simp at h

/-- Reads bytes as characters, with `none` for each byte that is part of no character. -/
def symbols : List UInt8 → List (Option Char)
  | [] => []
  | b :: bs =>
    match h : step b bs with
    | .ok (c, rest) =>
      have := step_length h
      some c :: symbols rest
    | .error _ => none :: symbols bs
termination_by bs => bs.length

/-- Reads bytes as characters, with one replacement character for each undecodable piece. -/
def decodeLossy : List UInt8 → List Char
  | [] => []
  | b :: bs =>
    match h : step b bs with
    | .ok (c, rest) =>
      have := step_length h
      c :: decodeLossy rest
    | .error n => '\uFFFD' :: decodeLossy (bs.drop (n - 1))
termination_by bs => bs.length

/-- The text that bytes stand for, undecodable pieces replaced. -/
def toStringLossy (bs : List UInt8) : String :=
  String.ofList (decodeLossy bs)

end Harvest.Text.Utf8
