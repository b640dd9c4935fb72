/-!
# Sets of characters as ranges of code points

`CharSet` holds ascending, disjoint, closed ranges of code points. Tables of the character database
are written as text, one range as `41-5A` and a single code point as `B5`, and read by
`CharSet.ofText`. Membership is a binary search, so that a test costs the same for a small and for a
large table.
-/

namespace Harvest.Text

/-- The value of a hexadecimal digit of either case. -/
def hexValue? (c : Char) : Option Nat :=
  if '0' ≤ c && c ≤ '9' then some (c.toNat - 48)
  else if 'a' ≤ c && c ≤ 'f' then some (c.toNat - 87)
  else if 'A' ≤ c && c ≤ 'F' then some (c.toNat - 55)
  else none

/-- Ascending, disjoint, closed ranges of code points. -/
structure CharSet where
  ranges : Array (Nat × Nat)
  deriving Inhabited, Repr

namespace CharSet

/-- One range of a table under construction: the numbers read so far. -/
structure Partial where
  low : Option Nat
  current : Option Nat

/-- The range that a partial entry stands for. -/
def Partial.finish (p : Partial) (acc : Array (Nat × Nat)) : Array (Nat × Nat) :=
  match p.low, p.current with
  | some a, some b => acc.push (a, b)
  | none, some b => acc.push (b, b)
  | _, none => acc

/-- Reads ranges that blanks separate. -/
def readRanges : List Char → Partial → Array (Nat × Nat) → Array (Nat × Nat)
  | [], p, acc => p.finish acc
  | c :: cs, p, acc =>
    match hexValue? c with
    | some d => readRanges cs { p with current := some (p.current.getD 0 * 16 + d) } acc
    | none =>
      if c = '-' then readRanges cs ⟨p.current, none⟩ acc
      else readRanges cs ⟨none, none⟩ (p.finish acc)

/-- The set that a table text describes. -/
def ofText (text : String) : CharSet :=
  ⟨readRanges text.toList ⟨none, none⟩ #[]⟩

/-- Binary search for the range that holds `n` among those with index in `[lo, hi)`. -/
def search (ranges : Array (Nat × Nat)) (n lo hi : Nat) : Bool :=
  if lo < hi then
    let mid := (lo + hi) / 2
    match ranges[mid]? with
    | none => false
    | some (a, b) =>
      if n < a then search ranges n lo mid
      else if b < n then search ranges n (mid + 1) hi
      else true
  else false
termination_by hi - lo

/-- Whether a code point lies in the set. -/
def containsCode (s : CharSet) (n : Nat) : Bool :=
  search s.ranges n 0 s.ranges.size

/-- Whether a character lies in the set. -/
def contains (s : CharSet) (c : Char) : Bool :=
  s.containsCode c.toNat

end CharSet

end Harvest.Text
