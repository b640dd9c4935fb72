import Harvest.Number.Shortest

/-!
# Floating-point numbers as exact values

A finite floating-point number is a sign, a mantissa and a power of two. `truncate` drops what lies behind
the point, and `compareWith` compares such a number with an integer without rounding either. `roundNat`
rounds a natural number to the precision of a floating-point number. `readFloat?` reads the usual ways to
write a number.
-/

namespace Harvest.Number

/-- Whether the sign of a number is minus. -/
def isNegative (f : Float) : Bool :=
  f.toBits.toNat / Nat.pow 2 63 == 1

/-- Whether a number is finite, not zero, and has its full precision. -/
def isNormal (f : Float) : Bool :=
  let biased := f.toBits.toNat / Nat.pow 2 52 % Nat.pow 2 11
  0 < biased && biased < 2047

/-- An integer within bounds. -/
def clamp (low high i : Int) : Int :=
  max low (min high i)

/-- The integer part of a number within bounds; what is no number counts as zero. -/
def truncate (low high : Int) (f : Float) : Int :=
  if f.isNaN then 0
  else if f.isInf then (if isNegative f then low else high)
  else
    let b := Binary.ofBits f.toBits
    let size : Nat := b.mantissa * Nat.pow 2 b.exponent.toNat / Nat.pow 2 (-b.exponent).toNat
    clamp low high (if isNegative f then -(size : Int) else size)

/-- The floating-point number nearest to a natural number below 2 ^ 1024: 53 binary digits of it are kept,
and a number halfway between two goes to the one whose last digit is even. -/
def roundNat (n : Nat) : Nat :=
  let step := Nat.pow 2 (n.log2 - 52)
  let kept := n / step
  let twice := 2 * (n % step)
  if step < twice || (step == twice && kept % 2 == 1) then (kept + 1) * step else kept * step

/-- How a finite number compares with an integer. -/
def compareWith (f : Float) (i : Int) : Ordering :=
  let b := Binary.ofBits f.toBits
  let mantissa : Int := if isNegative f then -(b.mantissa : Int) else b.mantissa
  compare (mantissa * (Nat.pow 2 b.exponent.toNat : Nat)) (i * (Nat.pow 2 (-b.exponent).toNat : Nat))

/-- How two numbers compare; nothing compares with what is no number. -/
def compareFloats (f g : Float) : Option Ordering :=
  if f < g then some .lt
  else if g < f then some .gt
  else if f == g then some .eq
  else none

/-- No larger exponent makes a difference. -/
def maxExponent : Int := 100000

/-- The exponent behind a number; there must be digits if there is an `e`. -/
def readExponent? : List Char → Option Int
  | [] => some 0
  | c :: cs =>
    if c = 'e' || c = 'E' then
      let bound : Int := (Nat.pow 10 cs.length : Nat)
      (readInt? (-bound) bound cs).map (clamp (-maxExponent) maxExponent)
    else none

/-- Reads digits with a point among or around them, and an exponent. -/
def readDecimal? (cs : List Char) : Option Float :=
  let whole := cs.takeWhile isDigit
  let rest := cs.drop whole.length
  let (fraction, rest) := match rest with
    | '.' :: more => (more.takeWhile isDigit, more.dropWhile isDigit)
    | _ => ([], rest)
  if whole.isEmpty && fraction.isEmpty then none
  else match readExponent? rest with
    | none => none
    | some e =>
      let exponent : Int := e - fraction.length
      some (Float.ofScientific (digitsValue (whole ++ fraction)) (exponent < 0) exponent.natAbs)

/-- Reads a number without its sign. -/
def readMagnitude? (cs : List Char) : Option Float :=
  let name := String.ofList (cs.map Char.toLower)
  if name == "inf" || name == "infinity" then some (1.0 / 0.0)
  else if name == "nan" then some (0.0 / 0.0)
  else readDecimal? cs

/-- Reads a floating-point number. -/
def readFloat? (s : String) : Option Float :=
  match s.toList with
  | '-' :: cs => (readMagnitude? cs).map fun f => -f
  | '+' :: cs => readMagnitude? cs
  | cs => readMagnitude? cs

end Harvest.Number
