import Harvest.Json.Reader

/-!
# Passing over JSON values

`skipValue` passes over one value without building it. It accepts what the reader accepts, with three
differences: brackets may be nested to any depth, escapes by code point need not pair up, and a byte
that is part of no character does no harm in a text.
-/

namespace Harvest.Json

/-- Passes over a text after its opening quote. -/
def skipText : Reader Unit
  | [] => .error (faultAt .eofInString [])
  | some '"' :: rest => .ok ((), rest)
  | some '\\' :: [] => .error (faultAt .eofInString [])
  | some '\\' :: some 'u' :: a :: b :: c :: d :: rest =>
    match hex4? a b c d with
    | some _ => skipText rest
    | none => .error ⟨.invalidEscape, rest.length + 4, 4⟩
  | some '\\' :: some 'u' :: short =>
    if 4 ≤ bytesOf short then .error ⟨.invalidEscape, short.length, 4⟩
    else .error (faultAt .eofInString [])
  | some '\\' :: other :: rest =>
    match other.bind simpleEscape? with
    | some _ => skipText rest
    | none => .error ⟨.invalidEscape, rest.length + 1, 1⟩
  | none :: rest => skipText rest
  | some c :: rest =>
    if c.toNat < 0x20 then .error (faultAt .controlCharacter (some c :: rest)) else skipText rest

/-- Passes over an exponent after its mark. -/
def skipExponent (s : List Symbol) : Result Unit :=
  let s := match s with
    | some '+' :: rest => rest
    | some '-' :: rest => rest
    | _ => s
  match s with
  | [] => .error (faultAt .invalidNumber [])
  | c :: rest =>
    if (digit? c).isSome then .ok ((), dropDigits rest)
    else .error ⟨.invalidNumber, rest.length + 1, 1⟩

/-- Passes over what follows the digits of an integer. -/
def skipNumberEnd (s : List Symbol) : Result Unit :=
  match s with
  | some '.' :: rest =>
    if startsDigit rest then
      let after := dropDigits rest
      if startsExponent after then skipExponent after.tail else .ok ((), after)
    else .error (faultNext .invalidNumber rest)
  | _ => if startsExponent s then skipExponent s.tail else .ok ((), s)

/-- Passes over a number after its sign. -/
def skipNumber : Reader Unit
  | [] => .error (faultAt .invalidNumber [])
  | s :: rest =>
    match digit? s with
    | none => .error ⟨.invalidNumber, rest.length + 1, 1⟩
    | some 0 =>
      if startsDigit rest then .error (faultNext .invalidNumber rest) else skipNumberEnd rest
    | some _ => skipNumberEnd (dropDigits rest)

/-- A bracket that is open. -/
inductive Bracket where
  | square
  | curly
  deriving DecidableEq, Repr

/-- Passes over a key and its colon. -/
def skipKey (s : List Symbol) : Result Unit :=
  match skipSpace s with
  | [] => .error (faultNext .eofInObject [])
  | some '"' :: rest =>
    match skipText rest with
    | .error f => .error f
    | .ok ((), rest) => readColon rest
  | t => .error (faultNext .keyNotString t)

/-- Passes over a scalar or an opening bracket, which is given back. -/
def skipFront (s : List Symbol) : Result (Option Bracket) :=
  match skipSpace s with
  | [] => .error (faultNext .eofInValue [])
  | some '[' :: rest => .ok (some .square, rest)
  | some '{' :: rest => .ok (some .curly, rest)
  | some 'n' :: rest => readLiteral none ['u', 'l', 'l'] rest
  | some 't' :: rest => readLiteral none ['r', 'u', 'e'] rest
  | some 'f' :: rest => readLiteral none ['a', 'l', 's', 'e'] rest
  | some '-' :: rest => (skipNumber rest).map fun _ => none
  | some '"' :: rest => (skipText rest).map fun _ => none
  | first :: rest =>
    if (digit? first).isSome then (skipNumber (first :: rest)).map fun _ => none
    else .error (faultNext .expectedValue (first :: rest))

/-- Passes over closing brackets, innermost first, and the comma before the next value. Gives back the
brackets that remain open; when there are none, the whole value has been passed. -/
def skipClosing : List Bracket → Bool → List Symbol → Result (List Bracket)
  | [], _, s => .ok ([], s)
  | open_ :: outer, comma, s =>
    match skipSpace s, open_ with
    | [], .square => .error (faultNext .eofInList [])
    | [], .curly => .error (faultNext .eofInObject [])
    | some ',' :: rest, _ =>
      if comma then .ok (open_ :: outer, rest)
      else .ok (open_ :: outer, some ',' :: rest)
    | some ']' :: rest, .square => skipClosing outer true rest
    | some '}' :: rest, .curly => skipClosing outer true rest
    | t, .square =>
      if comma then .error (faultNext .expectedListEnd t) else .ok (open_ :: outer, t)
    | t, .curly =>
      if comma then .error (faultNext .expectedObjectEnd t) else .ok (open_ :: outer, t)

/-- Passes over values until no bracket is open; every value takes at least one symbol, so that as
many rounds as there are symbols are enough. -/
def skipValues : Nat → List Bracket → Reader Unit
  | 0, _, s => .error (faultNext .eofInValue s)
  | rounds + 1, opened, s =>
    match skipFront s with
    | .error f => .error f
    | .ok (front, rest) =>
      let (opened, comma) := match front with
        | some b => (b :: opened, false)
        | none => (opened, true)
      match skipClosing opened comma rest with
      | .error f => .error f
      | .ok ([], rest) => .ok ((), rest)
      | .ok (.square :: outer, rest) => skipValues rounds (.square :: outer) rest
      | .ok (.curly :: outer, rest) =>
        match skipKey rest with
        | .error f => .error f
        | .ok ((), rest) => skipValues rounds (.curly :: outer) rest

/-- Passes over one value. -/
def skipValue (s : List Symbol) : Result Unit :=
  skipValues (s.length + 1) [] s

end Harvest.Json
