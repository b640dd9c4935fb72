import Harvest.Text.CharSet

/-!
# Tokens of selectors

`Token.ofText` cuts a selector into tokens. Brackets and functions hold the tokens within them; a
bracket that is not closed reaches to the end, and a closing bracket that matches none stays a token.
Comments vanish without separating what stands around them.
-/

namespace Harvest.Selector

/-- The brackets. -/
inductive Bracket where
  | round
  | square
  | curly
  deriving DecidableEq, Repr

/-- A token. -/
inductive Token where
  | name (value : String)
  /-- A hash sign and a name. -/
  | hash (value : String)
  /-- A hash sign and characters that are no name. -/
  | otherHash
  | string (value : String)
  /-- A string that a line end cuts off. -/
  | brokenString
  /-- A number; it has a value if it is whole. -/
  | number (signed : Bool) (value : Option Int)
  /-- A number with a unit. -/
  | dimension (value : Option Int) (unit : String)
  | percentage
  | space
  | comma
  | colon
  /-- An equals sign with the character in front of it. -/
  | comparison (sign : Char)
  | delimiter (sign : Char)
  | function (name : String) (body : List Token)
  | block (bracket : Bracket) (body : List Token)
  /-- A closing bracket that matches none. -/
  | unmatched (bracket : Bracket)
  deriving Repr

/-! ## Characters -/

/-- White space. -/
def isSpace (c : Char) : Bool :=
  c == ' ' || c == '\t' || c == '\n' || c == '\r' || c == '\x0c'

/-- Line ends. -/
def isLineEnd (c : Char) : Bool :=
  c == '\n' || c == '\r' || c == '\x0c'

/-- A decimal digit. -/
def isDigit (c : Char) : Bool :=
  '0' ≤ c && c ≤ '9'

/-- Characters with which a name may begin. -/
def startsName (c : Char) : Bool :=
  ('a' ≤ c && c ≤ 'z') || ('A' ≤ c && c ≤ 'Z') || c == '_' || c == '\x00' || 0x80 ≤ c.toNat

/-- Characters of a name. -/
def isNameChar (c : Char) : Bool :=
  startsName c || isDigit c || c == '-'

/-- Whether a text does not begin with a line end. -/
def noLineEnd (cs : List Char) : Bool :=
  match cs with
  | c :: _ => !isLineEnd c
  | [] => true

/-- Whether a text begins with a name. -/
def beginsName (cs : List Char) : Bool :=
  match cs with
  | '-' :: '\\' :: rest => noLineEnd rest
  | '-' :: c :: _ => startsName c || c == '-'
  | '\\' :: rest => noLineEnd rest
  | c :: _ => startsName c
  | [] => false

/-- Whether a text begins with a number without sign. -/
def beginsDigits (cs : List Char) : Bool :=
  match cs with
  | '.' :: c :: _ => isDigit c
  | c :: _ => isDigit c
  | [] => false

/-! ## Names and strings -/

/-- Takes up to `n` hexadecimal digits. -/
def takeHex : Nat → Nat → List Char → Nat × List Char
  | 0, value, cs => (value, cs)
  | _, value, [] => (value, [])
  | n + 1, value, c :: cs =>
    match Text.hexValue? c with
    | some d => takeHex n (value * 16 + d) cs
    | none => (value, c :: cs)

/-- Passes one white space character behind an escape. -/
def passSpace (cs : List Char) : List Char :=
  match cs with
  | '\r' :: '\n' :: rest => rest
  | c :: rest => if isSpace c then rest else cs
  | [] => []

/-- The character with a number; one that is no character is replaced. -/
def charOf (n : Nat) : Char :=
  if n = 0 || 0x10FFFF < n || (0xD800 ≤ n && n ≤ 0xDFFF) then '\uFFFD' else Char.ofNat n

/-- Reads an escape behind its backslash. -/
def takeEscape (cs : List Char) : Char × List Char :=
  match cs with
  | [] => ('\uFFFD', [])
  | c :: rest =>
    if (Text.hexValue? c).isSome then
      let (n, rest) := takeHex 6 0 cs
      (charOf n, passSpace rest)
    else if c = '\x00' then ('\uFFFD', rest)
    else (c, rest)

/-- Takes a name; each round takes at least one character. -/
def takeNameChars : Nat → List Char → List Char → List Char × List Char
  | 0, acc, cs => (acc.reverse, cs)
  | _ + 1, acc, [] => (acc.reverse, [])
  | rounds + 1, acc, c :: cs =>
    if c = '\\' then
      if noLineEnd cs then
        let (e, rest) := takeEscape cs
        takeNameChars rounds (e :: acc) rest
      else (acc.reverse, c :: cs)
    else if isNameChar c then
      takeNameChars rounds ((if c = '\x00' then '\uFFFD' else c) :: acc) cs
    else (acc.reverse, c :: cs)

/-- Takes a name. -/
def takeName (cs : List Char) : String × List Char :=
  let (name, rest) := takeNameChars (cs.length + 1) [] cs
  (String.ofList name, rest)

/-- Takes a string up to its quote. Each round takes at least one character. -/
def takeString (quote : Char) : Nat → List Char → List Char → Token × List Char
  | 0, acc, cs => (.string (String.ofList acc.reverse), cs)
  | _ + 1, acc, [] => (.string (String.ofList acc.reverse), [])
  | rounds + 1, acc, c :: cs =>
    if c = quote then (.string (String.ofList acc.reverse), cs)
    else if isLineEnd c then (.brokenString, c :: cs)
    else if c = '\\' then
      match cs with
      | [] => (.string (String.ofList acc.reverse), [])
      | '\r' :: '\n' :: rest => takeString quote rounds acc rest
      | d :: rest =>
        if isLineEnd d then takeString quote rounds acc rest
        else
          let (e, rest) := takeEscape (d :: rest)
          takeString quote rounds (e :: acc) rest
    else takeString quote rounds ((if c = '\x00' then '\uFFFD' else c) :: acc) cs

/-! ## Numbers -/

/-- Keeps a number within 32 bits. -/
def clamp (i : Int) : Int :=
  max (-2147483648) (min i 2147483647)

/-- The value of digits. -/
def digitsValue (cs : List Char) : Nat :=
  cs.foldl (fun n c => n * 10 + (c.toNat - 48)) 0

/-- Takes the digits of a fraction. -/
def takeFraction (cs : List Char) : Bool × List Char :=
  match cs with
  | '.' :: c :: rest => if isDigit c then (true, (c :: rest).dropWhile isDigit) else (false, cs)
  | _ => (false, cs)

/-- Takes an exponent. -/
def takeExponent (cs : List Char) : Bool × List Char :=
  match cs with
  | e :: rest =>
    if e == 'e' || e == 'E' then
      let digits := match rest with
        | '+' :: more => more
        | '-' :: more => more
        | _ => rest
      match digits with
      | d :: _ => if isDigit d then (true, digits.dropWhile isDigit) else (false, cs)
      | [] => (false, cs)
    else (false, cs)
  | [] => (false, cs)

/-- Takes a number with its sign. -/
def takeNumber (cs : List Char) : Token × List Char :=
  let (signed, negative, unsigned) := match cs with
    | '+' :: rest => (true, false, rest)
    | '-' :: rest => (true, true, rest)
    | _ => (false, false, cs)
  let whole := unsigned.takeWhile isDigit
  let (hasFraction, rest) := takeFraction (unsigned.dropWhile isDigit)
  let (hasExponent, rest) := takeExponent rest
  let n : Int := digitsValue whole
  let value :=
    if hasFraction || hasExponent then none else some (clamp (if negative then -n else n))
  match rest with
  | '%' :: rest => (.percentage, rest)
  | _ =>
    if beginsName rest then
      let (unit, rest) := takeName rest
      (.dimension value unit, rest)
    else (.number signed value, rest)

/-! ## Tokens -/

/-- A token, or a bracket that opens or closes. -/
inductive Flat where
  | token (value : Token)
  | opens (bracket : Bracket) (name : Option String)
  | closes (bracket : Bracket)

/-- The text behind a comment. -/
def dropComment : List Char → List Char
  | [] => []
  | '*' :: '/' :: rest => rest
  | _ :: rest => dropComment rest

/-- The next token, if it is no comment, and the text after it. -/
def nextFlat (c : Char) (cs : List Char) : Option Flat × List Char :=
  if isSpace c then (some (.token .space), cs.dropWhile isSpace)
  else if c = '/' && cs.head? == some '*' then (none, dropComment cs.tail)
  else if c = '"' || c = '\x27' then
    let (t, rest) := takeString c (cs.length + 1) [] cs
    (some (.token t), rest)
  else if c = '#' then
    if beginsName cs then
      let (name, rest) := takeName cs
      (some (.token (.hash name)), rest)
    else match cs with
      | d :: _ =>
        if isNameChar d then (some (.token .otherHash), (takeName cs).2)
        else (some (.token (.delimiter '#')), cs)
      | [] => (some (.token (.delimiter '#')), cs)
  else if beginsDigits (c :: cs) || ((c = '+' || c = '-') && beginsDigits cs) then
    let (t, rest) := takeNumber (c :: cs)
    (some (.token t), rest)
  else if beginsName (c :: cs) then
    let (name, rest) := takeName (c :: cs)
    match rest with
    | '(' :: rest => (some (.opens .round (some name)), rest)
    | _ => (some (.token (.name name)), rest)
  else if c = '(' then (some (.opens .round none), cs)
  else if c = '[' then (some (.opens .square none), cs)
  else if c = '\x7b' then (some (.opens .curly none), cs)
  else if c = ')' then (some (.closes .round), cs)
  else if c = ']' then (some (.closes .square), cs)
  else if c = '\x7d' then (some (.closes .curly), cs)
  else if c = ',' then (some (.token .comma), cs)
  else if c = ':' then (some (.token .colon), cs)
  else if ['$', '*', '^', '|', '~'].contains c && cs.head? == some '=' then
    (some (.token (.comparison c)), cs.tail)
  else (some (.token (.delimiter c)), cs)

/-- The tokens of a text, brackets not yet matched. Each round takes at least one character. -/
def flatTokens : Nat → List Char → List Flat
  | 0, _ => []
  | _ + 1, [] => []
  | rounds + 1, c :: cs =>
    match nextFlat c cs with
    | (some t, rest) => t :: flatTokens rounds rest
    | (none, rest) => flatTokens rounds rest

/-- A bracket that is open, with the tokens in front of it, the last one first. -/
structure Opened where
  bracket : Bracket
  name : Option String
  before : List Token

/-- Closes a bracket. -/
def Opened.close (o : Opened) (body : List Token) : List Token :=
  match o.name with
  | some name => .function name body.reverse :: o.before
  | none => .block o.bracket body.reverse :: o.before

/-- Matches brackets; `acc` holds the tokens within the innermost open one, the last one first. -/
def matchBrackets : List Opened → List Token → List Flat → List Token
  | [], acc, [] => acc.reverse
  | o :: outer, acc, [] => matchBrackets outer (o.close acc) []
  | opened, acc, .token t :: rest => matchBrackets opened (t :: acc) rest
  | opened, acc, .opens b name :: rest => matchBrackets (⟨b, name, acc⟩ :: opened) [] rest
  | [], acc, .closes b :: rest => matchBrackets [] (.unmatched b :: acc) rest
  | o :: outer, acc, .closes b :: rest =>
    if o.bracket = b then matchBrackets outer (o.close acc) rest
    else matchBrackets (o :: outer) (.unmatched b :: acc) rest
termination_by opened _ rest => opened.length + 2 * rest.length

/-- The tokens of a text. -/
def Token.ofText (s : String) : List Token :=
  matchBrackets [] [] (flatTokens (s.length + 1) s.toList)

end Harvest.Selector
