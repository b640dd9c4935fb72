import Harvest.Text.CharSet
import Harvest.Text.Utf8

/-!
# Percent encoding

Each part of an address has a set of characters that are written as `%XX`, one for each byte of their
UTF-8 form. Characters beyond ASCII and control characters are always written so.
-/

namespace Harvest.Url.Percent

/-- An upper-case hexadecimal digit. -/
def hexDigit (n : Nat) : Char :=
  Char.ofNat (if n < 10 then 48 + n else 55 + n)

/-- The three characters for a byte. -/
def encodeByte (b : UInt8) : List Char :=
  ['%', hexDigit (b.toNat / 16), hexDigit (b.toNat % 16)]

/-- The characters for one character. -/
def encodeWhole (c : Char) : List Char :=
  (Text.Utf8.encodeChar c).flatMap encodeByte

/-- Control characters and characters beyond ASCII. -/
def isControl (c : Char) : Bool :=
  c.toNat < 0x20 || 0x7E < c.toNat

/-- The set for fragments. -/
def inFragment (c : Char) : Bool :=
  isControl c || [' ', '"', '<', '>', '\x60'].contains c

/-- The set for paths. -/
def inPath (c : Char) : Bool :=
  inFragment c || ['#', '?', '\x7b', '\x7d'].contains c

/-- The set for user names and passwords. -/
def inUserInfo (c : Char) : Bool :=
  inPath c || ['/', ':', ';', '=', '@', '[', '\\', ']', '^', '|'].contains c

/-- The set for queries. -/
def inQuery (c : Char) : Bool :=
  isControl c || [' ', '"', '#', '<', '>'].contains c

/-- The set for queries of schemes that require a host. -/
def inSpecialQuery (c : Char) : Bool :=
  inQuery c || c == '\x27'

/-- Writes a text, with the characters of a set encoded. -/
def encode (set : Char → Bool) (cs : List Char) : List Char :=
  cs.flatMap fun c => if set c then encodeWhole c else [c]

/-- The value of a byte that is a hexadecimal digit. -/
def hexOfByte? (b : UInt8) : Option Nat :=
  Text.hexValue? (Char.ofNat b.toNat)

/-- Turns each `%XX` into the byte it stands for; all else stays. -/
def decode : List UInt8 → List UInt8
  | [] => []
  | 0x25 :: a :: b :: rest =>
    match hexOfByte? a, hexOfByte? b with
    | some x, some y => (x * 16 + y).toUInt8 :: decode rest
    | _, _ => 0x25 :: decode (a :: b :: rest)
  | x :: rest => x :: decode rest

end Harvest.Url.Percent
