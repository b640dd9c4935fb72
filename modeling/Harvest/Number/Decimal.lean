import Harvest.Text.Clean

/-!
# Decimal numerals

`digits` writes a natural number and `ofInt` an integer. `readNat?` and `readInt?` read a whole text
as a number: an optional sign, then one or more ASCII digits, with any number of leading zeros, and
a value within the given bounds. Nothing else is accepted.
-/

namespace Harvest.Number

/-- Whether a character is an ASCII digit. -/
def isDigit (c : Char) : Bool :=
  '0' ≤ c && c ≤ '9'

/-- The value of an ASCII digit. -/
def digitValue (c : Char) : Nat :=
  c.toNat - 48

/-- The ASCII digit for a value below ten. -/
def digitChar (n : Nat) : Char :=
  Char.ofNat (48 + n)

/-- The decimal digits of a number in front of `acc`, most significant first. -/
def digitsOnto (n : Nat) (acc : List Char) : List Char :=
  if n < 10 then digitChar n :: acc
  else digitsOnto (n / 10) (digitChar (n % 10) :: acc)
termination_by n
decreasing_by omega

/-- The decimal digits of a number, without leading zeros. -/
def digits (n : Nat) : List Char :=
  digitsOnto n []

/-- The decimal text of a natural number. -/
def ofNat (n : Nat) : String :=
  String.ofList (digits n)

/-- The decimal characters of an integer. -/
def intChars (i : Int) : List Char :=
  if i < 0 then '-' :: digits i.natAbs else digits i.natAbs

/-- The decimal text of an integer. -/
def ofInt (i : Int) : String :=
  String.ofList (intChars i)

/-- The number that ASCII digits spell. -/
def digitsValue (cs : List Char) : Nat :=
  cs.foldl (fun n c => n * 10 + digitValue c) 0

/-- Reads one or more ASCII digits and nothing else. -/
def readDigits? (cs : List Char) : Option Nat :=
  if cs.isEmpty || !cs.all isDigit then none else some (digitsValue cs)

/-- Reads an optional plus sign and digits, up to `limit`. -/
def readNat? (limit : Nat) (cs : List Char) : Option Nat :=
  let unsigned := match cs with
    | '+' :: rest => rest
    | _ => cs
  match readDigits? unsigned with
  | some n => if n ≤ limit then some n else none
  | none => none

/-- Reads an optional sign and digits, within `[low, high]`. -/
def readInt? (low high : Int) (cs : List Char) : Option Int :=
  let value : Option Int := match cs with
    | '+' :: rest => (readDigits? rest).map Int.ofNat
    | '-' :: rest => (readDigits? rest).map fun n => -(Int.ofNat n)
    | _ => (readDigits? cs).map Int.ofNat
  match value with
  | some i => if low ≤ i && i ≤ high then some i else none
  | none => none

/-- The least 64-bit integer. -/
def minInt64 : Int := -9223372036854775808

/-- The greatest 64-bit integer. -/
def maxInt64 : Int := 9223372036854775807

/-- The greatest unsigned 64-bit number. -/
def maxNat64 : Nat := 18446744073709551615

/-- The 64-bit integer that is left when whatever does not fit into 64 bits is dropped. -/
def wrapInt64 (i : Int) : Int :=
  i.bmod 18446744073709551616

/-- Reads extracted text as a 64-bit integer; white space around it does not count. -/
def parseInteger (s : String) : Option Int :=
  readInt? minInt64 maxInt64 (Text.trimChars s.toList)

/-- Reads an index: a number without sign `-` and without white space. -/
def parseIndex (s : String) : Option Nat :=
  readNat? maxNat64 s.toList

end Harvest.Number
