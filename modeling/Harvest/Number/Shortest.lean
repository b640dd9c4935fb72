import Harvest.Number.Decimal

/-!
# The shortest decimal text of a floating-point number

`Binary` is a positive finite number as `mantissa * 2 ^ exponent`. `Binary.shortest` gives the fewest
significant decimal digits that read back as the number, and of those the nearest to it. `Layout`
says how digits become text: where positional notation ends and how an exponent is written.
-/

namespace Harvest.Number

/-- A positive finite floating-point number. The gap to the next smaller number is half as wide as
the gap to the next greater one when `narrowBelow`. -/
structure Binary where
  mantissa : Nat
  exponent : Int
  narrowBelow : Bool
  deriving Repr

/-- Decodes the bits of a finite number, without its sign. -/
def Binary.ofBits (bits : UInt64) : Binary :=
  let fraction : Nat := bits.toNat % Nat.pow 2 52
  let biased : Nat := bits.toNat / Nat.pow 2 52 % Nat.pow 2 11
  if biased = 0 then ⟨fraction, -1074, false⟩
  else ⟨Nat.pow 2 52 + fraction, (biased : Int) - 1075, fraction = 0 && biased ≠ 1⟩

/-- Decimal digits with the place of the first: `0.d₁d₂… * 10 ^ point`. -/
structure Digits where
  digits : List Nat
  point : Int
  deriving Repr, DecidableEq

/-- A positive number and the interval of reals that round to it, all over one denominator. -/
structure Interval where
  value : Nat
  low : Nat
  high : Nat
  denominator : Nat
  /-- Whether the ends round to the number too. -/
  closed : Bool

/-- The interval of reals that round to a number. -/
def Binary.interval (b : Binary) : Interval :=
  let up := Nat.pow 2 b.exponent.toNat
  let down := Nat.pow 2 (-b.exponent).toNat
  let value := 4 * b.mantissa * up
  { value
    low := value - (if b.narrowBelow then up else 2 * up)
    high := value + 2 * up
    denominator := 4 * down
    closed := b.mantissa % 2 == 0 }

namespace Interval

/-- The interval of the number times ten to the power `k`. -/
def scale (i : Interval) (k : Int) : Interval :=
  let up := Nat.pow 10 k.toNat
  { i with
    value := i.value * up
    low := i.low * up
    high := i.high * up
    denominator := i.denominator * Nat.pow 10 (-k).toNat }

/-- Whether a whole number lies in the interval. -/
def holds (i : Interval) (n : Nat) : Bool :=
  if i.closed then i.low ≤ n * i.denominator && n * i.denominator ≤ i.high
  else i.low < n * i.denominator && n * i.denominator < i.high

/-- The whole number nearest to the value among its two neighbours that lie in the interval; of two
equally near the even one. -/
def wholeNumber? (i : Interval) : Option Nat :=
  let below := i.value / i.denominator
  let above := below + 1
  let toBelow := i.value - below * i.denominator
  let toAbove := above * i.denominator - i.value
  let preferBelow := toBelow < toAbove || (toBelow == toAbove && below % 2 == 0)
  match i.holds below && below != 0, i.holds above with
  | true, true => some (if preferBelow then below else above)
  | true, false => some below
  | false, true => some above
  | false, false => none

/-- The number of digits of the value before its point; zero or negative below one tenth. -/
def magnitude (i : Interval) : Int :=
  let j := i.scale 400
  ((digits (j.value / j.denominator)).length : Int) - 400

/-- The digits of `n * 10 ^ exponent`, without trailing zeros. -/
def digitsOf (n : Nat) (exponent : Int) : Digits :=
  let ds := (digits n).map digitValue
  ⟨(ds.reverse.dropWhile (· == 0)).reverse, ds.length + exponent⟩

/-- Tries grids of ever more digits, the coarsest first. -/
def search (i : Interval) (point : Int) : Nat → Nat → Digits
  | 0, width => digitsOf ((i.scale (width - point)).value / (i.scale (width - point)).denominator)
      (point - width)
  | tries + 1, width =>
    match (i.scale (width - point)).wholeNumber? with
    | some n => digitsOf n (point - width)
    | none => search i point tries (width + 1)

end Interval

/-- The fewest digits that read back as the number; seventeen always do. -/
def Binary.shortest (b : Binary) : Digits :=
  let i := b.interval
  i.search i.magnitude 17 1

/-- How digits become text. -/
structure Layout where
  /-- The least place of the first digit that is written positionally. -/
  minPoint : Int
  /-- The greatest place of the first digit that is written positionally. -/
  maxPoint : Int

/-- The characters of digits. -/
def digitChars (ds : List Nat) : List Char :=
  ds.map digitChar

/-- Positional notation, with at least one digit on both sides of the point. -/
def Digits.positional (d : Digits) : List Char :=
  let ds := digitChars d.digits
  if d.point ≤ 0 then ['0', '.'] ++ List.replicate (-d.point).toNat '0' ++ ds
  else
    let whole := d.point.toNat
    if ds.length ≤ whole then ds ++ List.replicate (whole - ds.length) '0' ++ ['.', '0']
    else ds.take whole ++ ['.'] ++ ds.drop whole

/-- Scientific notation: one digit before the point, no point for a single digit, and an exponent
with its sign. -/
def Digits.scientific (d : Digits) : List Char :=
  let ds := digitChars d.digits
  let exponent := d.point - 1
  let mantissa := match ds with
    | [] => ['0']
    | [c] => [c]
    | c :: more => c :: '.' :: more
  let power := Number.digits exponent.natAbs
  mantissa ++ ['e', if exponent < 0 then '-' else '+'] ++ power

/-- The text of digits in a layout. -/
def Layout.write (l : Layout) (d : Digits) : List Char :=
  if l.minPoint ≤ d.point && d.point ≤ l.maxPoint then d.positional else d.scientific

end Harvest.Number
