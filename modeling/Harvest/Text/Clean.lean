/-!
# Cleaning extracted text

`stripInvalid` drops what no reader can use: replacement characters and control characters that are
not white space. `clean` also turns each run of white space into one space and trims both ends. A
control character that is white space separates words; it does not vanish.
-/

namespace Harvest.Text

/-- Unicode white space. -/
def isBlank (c : Char) : Bool :=
  let n := c.toNat
  (9 ≤ n && n ≤ 13) || n == 0x20 || n == 0x85 || n == 0xA0 || n == 0x1680
    || (0x2000 ≤ n && n ≤ 0x200A) || n == 0x2028 || n == 0x2029 || n == 0x202F || n == 0x205F
    || n == 0x3000

/-- The control characters: the two blocks below the space and after the tilde. -/
def isControl (c : Char) : Bool :=
  let n := c.toNat
  n < 0x20 || (0x7F ≤ n && n < 0xA0)

/-- The mark that stands for undecodable input. -/
def replacement : Char := '\uFFFD'

/-- Characters that cleaning removes without a trace. -/
def isInvalid (c : Char) : Bool :=
  c == replacement || (isControl c && !isBlank c)

/-- The characters that are kept, white space included. -/
def stripInvalidChars (cs : List Char) : List Char :=
  cs.filter fun c => !isInvalid c

/-- What the collapsed text so far ends with. -/
inductive Gap where
  /-- Nothing has been written. -/
  | start
  /-- The last character is part of a word. -/
  | word
  /-- White space has been met since the last word. -/
  | blank
  deriving DecidableEq, Repr

/-- White space leaves the start as it is and opens a gap after a word. -/
def Gap.afterBlank : Gap → Gap
  | .start => .start
  | .word => .blank
  | .blank => .blank

/-- Writes each run of white space between words as one space, and none at the ends. -/
def collapse : Gap → List Char → List Char
  | _, [] => []
  | g, c :: cs =>
    if isBlank c then collapse g.afterBlank cs
    else match g with
      | .blank => ' ' :: c :: collapse .word cs
      | .start => c :: collapse .word cs
      | .word => c :: collapse .word cs

/-- The characters of the cleaned text. -/
def cleanChars (cs : List Char) : List Char :=
  collapse .start (stripInvalidChars cs)

/-- Removes replacement characters and non-white-space control characters. -/
def stripInvalid (s : String) : String :=
  String.ofList (stripInvalidChars s.toList)

/-- Removes invalid characters, collapses white space and trims. -/
def clean (s : String) : String :=
  String.ofList (cleanChars s.toList)

/-- Drops the elements that satisfy `p` at both ends. -/
def trimWhere {α : Type} (p : α → Bool) (xs : List α) : List α :=
  ((xs.dropWhile p).reverse.dropWhile p).reverse

/-- The characters without white space at either end. -/
def trimChars (cs : List Char) : List Char :=
  trimWhere isBlank cs

/-- The text without white space at either end. -/
def trim (s : String) : String :=
  String.ofList (trimChars s.toList)

end Harvest.Text
