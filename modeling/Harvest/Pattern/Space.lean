import Harvest.Pattern.Basic

/-!
# The space that a pattern takes

A pattern is searched for with two automata over the bytes of UTF-8, one for each direction, and it is
refused if one of them takes more than `Expr.maxSpace` bytes. A state takes 32 bytes, each transition of a
state that has several takes 8, and each step without a byte 4.

The characters of a class stand in ranges of code points (`Class.ranges`), and a range of code points in
sequences of ranges of bytes (`Utf8.sequences`). Forwards, sequences share what they end with: a state is
known by the sequences that may follow it (`Utf8.states`). Backwards, they share what they begin with.

The few states around a pattern, and what alternatives share with each other, are left out of account.
-/

namespace Harvest.Pattern

namespace Utf8

/-- Ranges of bytes that follow each other. -/
abbrev Sequence := List (Nat × Nat)

/-- How many numbers `k + 1` bytes of six binary digits can tell. -/
def block : Nat → Nat
  | 0 => 64
  | k + 1 => 64 * block k

/-- The sequences of ranges of bytes that the numbers from `low` to `high` are written with, where a byte
that counts from `lead` on carries the highest digits, and `k` bytes of six binary digits follow. -/
def spread (lead : Nat) : Nat → Nat → Nat → List Sequence
  | 0, low, high => [[(lead + low, lead + high)]]
  | k + 1, low, high =>
    let b := block k
    let within (n low high : Nat) :=
      (spread 0x80 k low high).map fun rest => (lead + n, lead + n) :: rest
    if low / b = high / b then within (low / b) (low % b) (high % b)
    else
      -- Blocks that are not full come apart from the full ones between them.
      let first := if low % b = 0 then low / b else low / b + 1
      let beyond := if high % b = b - 1 then high / b + 1 else high / b
      (if low % b = 0 then [] else within (low / b) (low % b) (b - 1)) ++
        (if first < beyond then
          [(lead + first, lead + (beyond - 1)) :: List.replicate (k + 1) (0x80, 0xBF)] else []) ++
        (if high % b = b - 1 then [] else within (high / b) 0 (high % b))

/-- The code points that take `k + 1` bytes: the least, the greatest, the lead byte of the number 0, and
`k`. -/
def lengths : List (Nat × Nat × Nat × Nat) :=
  [(0, 0x7F, 0, 0), (0x80, 0x7FF, 0xC0, 1), (0x800, 0xFFFF, 0xE0, 2), (0x10000, 0x10FFFF, 0xF0, 3)]

/-- The sequences for the code points from `low` to `high`. -/
def sequences (low high : Nat) : List Sequence :=
  lengths.flatMap fun (least, greatest, lead, k) =>
    if max low least ≤ min high greatest then spread lead k (max low least) (min high greatest) else []

/-- What may follow on each range of bytes that ascending sequences begin with. -/
def branches : List Sequence → List ((Nat × Nat) × List Sequence)
  | [] => []
  | [] :: more => branches more
  | (byte :: rest) :: more =>
    match branches more with
    | (other, rests) :: others =>
      if byte = other then (byte, rest :: rests) :: others else (byte, [rest]) :: (other, rests) :: others
    | [] => [(byte, [rest])]

/-- The states that are reached within `depth` bytes from a level of states, each known by the sequences
that may follow it. -/
def states : Nat → List (List Sequence) → List (List Sequence)
  | 0, _ => []
  | depth + 1, level =>
    let behind := level.flatMap fun sequences => (branches sequences).map Prod.snd
    level ++ states depth (behind.filter (· != [[]])).eraseDups

/-- The number of different beginnings of ascending sequences of at most `depth` bytes. -/
def beginnings : Nat → List Sequence → Nat
  | 0, _ => 0
  | depth + 1, sequences =>
    (branches sequences).foldl (fun count branch => count + 1 + beginnings depth branch.2) 0

end Utf8

/-! ## Ranges of characters -/

/-- The characters that letter case may turn into others, in ascending lists. -/
def Folding.cased : Folding → List (List Char)
  | .exact => []
  | .ascii =>
    [(List.range 26).map fun i => Char.ofNat (0x41 + i), (List.range 26).map fun i => Char.ofNat (0x61 + i)]
  | .full => [Text.Folding.greater, Text.Folding.first].map fun table =>
    table.runs.toList.flatMap fun run =>
      (List.range ((run.high - run.low) / run.stride + 1)).map fun i => Char.ofNat (run.low + run.stride * i)

namespace Class

/-- Where characters begin, and where they are over. -/
def edges (cs : List Char) : List Nat :=
  cs.flatMap fun c => [c.toNat, c.toNat + 1]

/-- The edges of what letter case brings into a set. -/
def gained (f : Folding) (holds : Char → Bool) : List Nat :=
  f.cased.flatMap fun cs => edges (cs.filter (closed f holds))

mutual

/-- The edges of the sets that a class is written with. -/
def bounds (f : Folding) : Class → List Nat
  | .char c => edges (f.variants c)
  | .range low high => low.toNat :: (high.toNat + 1) :: gained f fun c => low ≤ c && c ≤ high
  | .named tables _ _ =>
    (tables.flatMap fun t => t.ranges.toList.flatMap fun (low, high) => [low, high + 1]) ++
      gained f (Text.Property.isInAny tables)
  | .union parts => allBounds f parts
  | .bracket _ inner => bounds f inner
  | .both left right => bounds f left ++ bounds f right
  | .without left right => bounds f left ++ bounds f right
  | .either left right => bounds f left ++ bounds f right

/-- The edges of several classes. -/
def allBounds (f : Folding) : List Class → List Nat
  | [] => []
  | part :: more => bounds f part ++ allBounds f more

end

/-- Adds a number to an ascending list. -/
def insertBound (n : Nat) : List Nat → List Nat
  | [] => [n]
  | m :: more => if n < m then n :: m :: more else if n = m then m :: more else m :: insertBound n more

/-- Puts a range before others; it becomes one with the first of them if they touch. -/
def putRange (low high : Nat) : List (Nat × Nat) → List (Nat × Nat)
  | [] => [(low, high)]
  | (first, last) :: more =>
    if high + 1 = first then (low, last) :: more else (low, high) :: (first, last) :: more

/-- The ranges of the characters that `holds` is true of. Between a number of the list and the next it is
true of all characters or of none. -/
def rangesBetween (holds : Char → Bool) : List Nat → List (Nat × Nat)
  | low :: next :: more =>
    let others := rangesBetween holds (next :: more)
    if low.isValidChar ∧ holds (Char.ofNat low) then putRange low (next - 1) others else others
  | _ => []

/-- The characters of a class as ascending ranges that do not touch. -/
def ranges (f : Folding) (s : Class) : List (Nat × Nat) :=
  rangesBetween (s.admits f) (([0, 0xD800, 0xE000, 0x110000] ++ s.bounds f).foldr insertBound [])

end Class

/-! ## Space -/

/-- The space of a state with several transitions. -/
def stateSpace (transitions : Nat) : Nat :=
  if transitions ≤ 1 then 32 else 32 + 8 * transitions

/-- The space of characters that stand in ranges. -/
def rangesSpace (backwards : Bool) (ranges : List (Nat × Nat)) : Nat :=
  let sequences := ranges.flatMap fun (low, high) => Utf8.sequences low high
  if ranges.length = 1 ∧ ranges.all (fun (low, high) => low = high) then
    32 * (sequences.headD []).length
  else if ranges.all (fun (_, high) => high < 0x80) then 32 + stateSpace ranges.length
  else if backwards then 64 + 4 * sequences.length + 32 * Utf8.beginnings 4 sequences
  else
    (Utf8.states 4 [sequences]).eraseDups.foldl (fun total s => total + stateSpace (Utf8.branches s).length) 32

namespace Expr

mutual

/-- The space of a pattern; what stands for the empty text alone takes none. -/
def space (backwards : Bool) : Expr → Nat
  | .empty => 0
  | .one set folding => rangesSpace backwards (set.ranges folding)
  | .look _ => 32
  | .group _ inner => (if backwards then 0 else 64) + max 32 (space backwards inner)
  | .sequence parts => totalSpace backwards parts
  | .choice alternatives => 64 + choiceSpace backwards alternatives
  | .repeated inner least most _ =>
    let round := max 32 (space backwards inner)
    match bounds inner least most with
    | (0, some 0) => 0
    | (1, some 1) => space backwards inner
    | (0, some 1) => 72 + round
    | (0, none) => (if mayBeEmpty inner then 112 else 40) + round
    | (least, none) => 40 + round * least
    | (least, some most) =>
      if least = most then round * least
      else 32 + max 32 (round * least) + (most - least) * (40 + round)

/-- The space of several patterns in a row. -/
def totalSpace (backwards : Bool) : List Expr → Nat
  | [] => 0
  | e :: more => space backwards e + totalSpace backwards more

/-- The space of alternatives, with the step to each. -/
def choiceSpace (backwards : Bool) : List Expr → Nat
  | [] => 0
  | e :: more => 4 + max 32 (space backwards e) + choiceSpace backwards more

end

/-- The greatest height of a pattern. -/
def maxHeight : Nat := 250

/-- The greatest space that a pattern may take. -/
def maxSpace : Nat := 10485760

/-- Whether a pattern is small enough. -/
def isSmall (e : Expr) : Bool :=
  e.height ≤ maxHeight && e.space false ≤ maxSpace && e.space true ≤ maxSpace

end Expr

end Harvest.Pattern
