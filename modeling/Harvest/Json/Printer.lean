import Harvest.Json.Basic
import Harvest.Number.Shortest

/-!
# Printing JSON

`Json.print` writes a value without blanks. A text is written between quotes with quotes, backslashes
and control characters escaped; everything else stands as it is. Fields are written in the order in
which the object holds them.
-/

namespace Harvest.Json

/-- A number is positional from a hundred-thousandth up to sixteen digits before the point. -/
def numberLayout : Number.Layout := ⟨-4, 16⟩

/-- The characters of a floating-point number; a number that is not finite has no JSON text and is
written as null. -/
def floatChars (f : Float) : List Char :=
  if f.isNaN || f.isInf then "null".toList
  else
    let sign := if f.toBits.toNat / Nat.pow 2 63 = 1 then ['-'] else []
    let b := Number.Binary.ofBits f.toBits
    if b.mantissa = 0 then sign ++ ['0', '.', '0']
    else sign ++ numberLayout.write b.shortest

/-- The hexadecimal digit of a value below sixteen. -/
def hexDigit (n : Nat) : Char :=
  Char.ofNat (if n < 10 then 48 + n else 87 + n)

/-- How one character of a text is written. -/
def escapeChar (c : Char) : List Char :=
  if c = '"' then ['\\', '"']
  else if c = '\\' then ['\\', '\\']
  else if c = '\n' then ['\\', 'n']
  else if c = '\r' then ['\\', 'r']
  else if c = '\t' then ['\\', 't']
  else if c = '\x08' then ['\\', 'b']
  else if c = '\x0c' then ['\\', 'f']
  else if c.toNat < 0x20 then
    ['\\', 'u', '0', '0', hexDigit (c.toNat / 16), hexDigit (c.toNat % 16)]
  else [c]

/-- The characters of a text between quotes. -/
def stringChars (s : String) : List Char :=
  '"' :: (s.toList.flatMap escapeChar ++ ['"'])

mutual

/-- The characters of a value. -/
def chars : Json → List Char
  | .null => ['n', 'u', 'l', 'l']
  | .bool true => ['t', 'r', 'u', 'e']
  | .bool false => ['f', 'a', 'l', 's', 'e']
  | .int i => Number.intChars i
  | .float f => floatChars f
  | .string s => stringChars s
  | .array [] => ['[', ']']
  | .array (v :: vs) => '[' :: (chars v ++ itemsChars vs)
  | .object [] => ['{', '}']
  | .object ((k, v) :: fs) => '{' :: (stringChars k ++ ':' :: (chars v ++ fieldsChars fs))

/-- The characters of the items after the first, and the closing bracket. -/
def itemsChars : List Json → List Char
  | [] => [']']
  | v :: vs => ',' :: (chars v ++ itemsChars vs)

/-- The characters of the fields after the first, and the closing brace. -/
def fieldsChars : List (String × Json) → List Char
  | [] => ['}']
  | (k, v) :: fs => ',' :: (stringChars k ++ ':' :: (chars v ++ fieldsChars fs))

end

/-- The text of a value. -/
def print (j : Json) : String :=
  String.ofList (chars j)

end Harvest.Json
