import Harvest.Text.CodeMap

/-!
# Maps to sequences of characters

`SequenceMap` sends single code points to sequences of them: an entry `DF>73.73` sends one code point to
two. Entries ascend, so that a binary search finds the entry.
-/

namespace Harvest.Text

/-- Ascending code points with the sequences they go to. -/
structure SequenceMap where
  entries : Array (Nat × List Nat)
  deriving Inhabited, Repr

namespace SequenceMap

/-- Reads one entry. -/
def readEntry (entry : List Char) : Option (Nat × List Nat) :=
  match CodeMap.pieces (· = '>') entry [] with
  | [source, target] =>
    some (CodeMap.hexNumber source, (CodeMap.pieces (· = '.') target []).map CodeMap.hexNumber)
  | _ => none

/-- The map that a table text describes. -/
def ofText (text : String) : SequenceMap :=
  ⟨((CodeMap.pieces (fun c => c = ' ' || c = '\n') text.toList []).filterMap readEntry).toArray⟩

/-- Binary search for the entry of `n` among those with index in `[lo, hi)`. -/
def search (entries : Array (Nat × List Nat)) (n lo hi : Nat) : Option (List Nat) :=
  if lo < hi then
    let mid := (lo + hi) / 2
    match entries[mid]? with
    | none => none
    | some (source, target) =>
      if n < source then search entries n lo mid
      else if source < n then search entries n (mid + 1) hi
      else some target
  else none
termination_by hi - lo

/-- The sequence that a code point goes to. -/
def find? (m : SequenceMap) (n : Nat) : Option (List Nat) :=
  search m.entries n 0 m.entries.size

/-- The code point that goes to a sequence. -/
def source? (m : SequenceMap) (target : List Nat) : Option Nat :=
  (m.entries.find? fun e => e.2 == target).map Prod.fst

end SequenceMap

end Harvest.Text
