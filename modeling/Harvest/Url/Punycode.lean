/-!
# Punycode

Labels of any characters, written with letters, digits and hyphens. The ASCII characters of a label come
first; behind the last hyphen the others are inserted, in ascending order, each by the distance from the
insertion before. A distance is a number of base 36 whose digits have varying weights, so that its end
can be told, and the weights adapt to the distances.
-/

namespace Harvest.Url.Punycode

/-- The value of a digit. -/
def digitValue? (c : Char) : Option Nat :=
  if 'a' ≤ c && c ≤ 'z' then some (c.toNat - 97)
  else if '0' ≤ c && c ≤ '9' then some (c.toNat - 22)
  else none

/-- The digit of a value. -/
def digit (n : Nat) : Char :=
  if n < 26 then Char.ofNat (97 + n) else Char.ofNat (22 + n)

/-- How much the digit at place `36 · i` can carry before it ends a number. -/
def threshold (bias place : Nat) : Nat :=
  max 1 (min 26 (place - bias))

theorem threshold_bounds (bias place : Nat) :
    1 ≤ threshold bias place ∧ threshold bias place ≤ 26 := by
  unfold threshold
  omega

/-- Divides a distance until it is small, and counts the places that takes. -/
def shrink (delta places : Nat) : Nat :=
  if 455 < delta then shrink (delta / 35) (places + 36) else places + 36 * delta / (delta + 38)
termination_by delta
decreasing_by omega

/-- The bias after a distance, when a label has so many characters. -/
def adapt (delta count : Nat) (first : Bool) : Nat :=
  let halved := if first then delta / 700 else delta / 2
  shrink (halved + halved / count) 0

/-! ## Reading -/

/-- Reads a distance onto `total`, at a place whose digits weigh `weight`. -/
def readDelta (bias : Nat) : Nat → Nat → Nat → List Char → Option (Nat × List Char)
  | _, _, _, [] => none
  | place, weight, total, c :: cs =>
    match digitValue? c with
    | none => none
    | some d =>
      let t := threshold bias place
      if d < t then some (total + d * weight, cs)
      else readDelta bias (place + 36) (weight * (36 - t)) (total + d * weight) cs

/-- Reads insertions into a label, at most `rounds` of them; the next one is of a character from `code`
on, and there not before `position`. -/
def insertAll : Nat → Nat → Nat → Nat → List Char → List Char → Option (List Char)
  | 0, _, _, _, label, _ => some label
  | _ + 1, _, _, _, label, [] => some label
  | rounds + 1, code, position, bias, label, c :: cs =>
    match readDelta bias 36 1 0 (c :: cs) with
    | none => none
    | some (delta, rest) =>
      let count := label.length + 1
      let code := code + (position + delta) / count
      let place := (position + delta) % count
      if code.isValidChar then
        insertAll rounds code (place + 1) (adapt delta count (position == 0))
          (label.insertIdx place (Char.ofNat code)) rest
      else none

/-- The first code point that is inserted, and the bias before the first insertion. -/
def firstCode : Nat := 0x80

/-- The bias before the first insertion. -/
def firstBias : Nat := 72

/-- The parts of a text before and behind its last hyphen; all of it is behind if nothing comes before
a hyphen. -/
def cutAtHyphen (cs : List Char) : List Char × List Char :=
  let behind := (cs.reverse.takeWhile (· != '-')).reverse
  let before := cs.take (cs.length - behind.length - 1)
  if before.isEmpty then ([], cs) else (before, behind)

/-- Reads a label. -/
def decode (cs : List Char) : Option (List Char) :=
  let (plain, insertions) := cutAtHyphen cs
  if plain.all fun c => c.toNat < firstCode then
    insertAll insertions.length firstCode 0 firstBias plain insertions
  else none

/-! ## Writing -/

/-- Writes a distance. -/
def writeDelta (bias place delta : Nat) : List Char :=
  let t := threshold bias place
  if delta < t then [digit delta]
  else digit (t + (delta - t) % (36 - t)) :: writeDelta bias (place + 36) ((delta - t) / (36 - t))
termination_by delta
decreasing_by
  have h := threshold_bounds bias place
  exact Nat.lt_of_le_of_lt (Nat.div_le_self _ _) (by omega)

/-- What has been written of a label. -/
structure Writer where
  /-- The distance from the insertion before. -/
  delta : Nat
  bias : Nat
  /-- How many characters of the label have been written. -/
  written : Nat
  out : List Char

/-- Passes a character while those of one code point are inserted; `plain` is the number of ASCII
characters. -/
def Writer.pass (plain code : Nat) (w : Writer) (c : Char) : Writer :=
  if c.toNat < code then { w with delta := w.delta + 1 }
  else if c.toNat == code then
    ⟨0, adapt w.delta (w.written + 1) (w.written == plain), w.written + 1,
      w.out ++ writeDelta w.bias 36 w.delta⟩
  else w

/-- Inserts characters by their code points, which ascend from `code` on. -/
def Writer.insertAll (label : List Char) (plain : Nat) : Nat → List Nat → Writer → Writer
  | _, [], w => w
  | code, next :: more, w =>
    let w := { w with delta := w.delta + (next - code) * (w.written + 1) }
    let w := label.foldl (Writer.pass plain next) w
    insertAll label plain (next + 1) more { w with delta := w.delta + 1 }

/-- The numbers of an ascending list, each once. -/
def withoutRepeats : List Nat → List Nat
  | a :: b :: more => if a == b then withoutRepeats (b :: more) else a :: withoutRepeats (b :: more)
  | ns => ns

/-- Writes a label. -/
def encode (label : List Char) : List Char :=
  let plain := label.filter fun c => c.toNat < firstCode
  let codes := (label.map Char.toNat).filter (firstCode ≤ ·)
  let ascending := withoutRepeats (codes.mergeSort fun a b => a ≤ b)
  let start := if plain.isEmpty then [] else plain ++ ['-']
  (Writer.insertAll label plain.length firstCode ascending
    ⟨0, firstBias, plain.length, start⟩).out

end Harvest.Url.Punycode
