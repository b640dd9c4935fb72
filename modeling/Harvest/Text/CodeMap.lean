import Harvest.Text.CharSet

/-!
# Maps between characters

`CodeMap` sends code points to code points by runs: an entry `41-5A>61` sends each code point of the
range to the one at the same distance from `61`, and `100-12E/2>101` does so for every second code
point of the range. Entries ascend and do not overlap, so that a binary search finds the run. The same
tables also give all code points of a range one and the same number (`CodeMap.number?`).
-/

namespace Harvest.Text

/-- Code points `low`, `low + stride`, … up to `high` go to `target`, `target + stride`, …. -/
structure CodeRun where
  low : Nat
  high : Nat
  stride : Nat
  target : Nat
  deriving Inhabited, Repr

/-- Ascending runs. -/
structure CodeMap where
  runs : Array CodeRun
  deriving Inhabited, Repr

namespace CodeMap

/-- The number that hexadecimal digits spell; other characters are passed over. -/
def hexNumber (cs : List Char) : Nat :=
  cs.foldl (fun n c => match hexValue? c with | some d => n * 16 + d | none => n) 0

/-- The pieces of a text between separators that satisfy `p`. -/
def pieces (p : Char → Bool) : List Char → List Char → List (List Char)
  | [], cur => [cur.reverse]
  | c :: cs, cur => if p c then cur.reverse :: pieces p cs [] else pieces p cs (c :: cur)

/-- Reads one entry. -/
def readRun (entry : List Char) : Option CodeRun :=
  match pieces (· = '>') entry [] with
  | [source, target] =>
    match pieces (· = '/') source [] with
    | range :: more =>
      match pieces (· = '-') range [] with
      | [a] => some ⟨hexNumber a, hexNumber a, 1, hexNumber target⟩
      | [a, b] => some ⟨hexNumber a, hexNumber b, more.head?.elim 1 hexNumber, hexNumber target⟩
      | _ => none
    | [] => none
  | _ => none

/-- The map that a table text describes. -/
def ofText (text : String) : CodeMap :=
  ⟨((pieces (fun c => c = ' ' || c = '\n') text.toList []).filterMap readRun).toArray⟩

/-- Binary search for the run around `n` among those with index in `[lo, hi)`. -/
def search (runs : Array CodeRun) (n lo hi : Nat) : Option CodeRun :=
  if lo < hi then
    let mid := (lo + hi) / 2
    match runs[mid]? with
    | none => none
    | some r =>
      if n < r.low then search runs n lo mid
      else if r.high < n then search runs n (mid + 1) hi
      else if (n - r.low) % r.stride = 0 then some r
      else none
  else none
termination_by hi - lo

/-- Where a code point goes, if the map moves it. -/
def find? (m : CodeMap) (n : Nat) : Option Nat :=
  (search m.runs n 0 m.runs.size).map fun r => r.target + (n - r.low)

/-- The number of the range that a code point lies in. -/
def number? (m : CodeMap) (n : Nat) : Option Nat :=
  (search m.runs n 0 m.runs.size).map CodeRun.target

/-- The image of a character; one that the map does not mention stays. -/
def apply (m : CodeMap) (c : Char) : Char :=
  (m.find? c.toNat).elim c Char.ofNat

end CodeMap

end Harvest.Text
