import Harvest.Text.Quoted
import Harvest.Text.Utf8
import Harvest.Json.Printer

/-!
# Faults of a JSON text

A text is read as a list of symbols: characters, and `none` for a byte that is part of no character.
`Cause` says what is wrong and `Fault` also where: how many symbols were left, and how many bytes past
the first of them the fault is placed. `Fault.message` counts lines from one and columns in bytes.
-/

namespace Harvest.Json

/-- A character, or a byte that is part of none. -/
abbrev Symbol := Option Char

/-- What stands where something else was expected. -/
inductive Found where
  | null
  | bool (value : Bool)
  | integer (value : Int)
  | float (value : Float)
  | string (value : String)
  | sequence
  | map

/-- The name of what was found. -/
def Found.describe : Found → String
  | .null => "null"
  | .bool true => "boolean `true`"
  | .bool false => "boolean `false`"
  | .integer i => "integer `" ++ Number.ofInt i ++ "`"
  | .float f => "floating point `" ++ String.ofList (floatChars f) ++ "`"
  | .string s => "string " ++ Text.Quoted.quote s
  | .sequence => "sequence"
  | .map => "map"

/-- What is wrong with a text. -/
inductive Cause where
  | eofInList
  | eofInObject
  | eofInString
  | eofInValue
  | expectedColon
  | expectedListEnd
  | expectedObjectEnd
  | expectedIdent
  | expectedValue
  | invalidEscape
  | invalidNumber
  | numberOutOfRange
  | invalidCodePoint
  | controlCharacter
  | keyNotString
  | loneSurrogate
  | trailingComma
  | trailingCharacters
  | unfinishedSurrogate
  | tooDeep
  | wrongType (found : Found) (expected : String)
  | wrongValue (found : Found) (expected : String)
  | duplicateField (name : String)

/-- The wording of a cause. -/
def Cause.message : Cause → String
  | .eofInList => "EOF while parsing a list"
  | .eofInObject => "EOF while parsing an object"
  | .eofInString => "EOF while parsing a string"
  | .eofInValue => "EOF while parsing a value"
  | .expectedColon => "expected `:`"
  | .expectedListEnd => "expected `,` or `]`"
  | .expectedObjectEnd => "expected `,` or `\x7d`"
  | .expectedIdent => "expected ident"
  | .expectedValue => "expected value"
  | .invalidEscape => "invalid escape"
  | .invalidNumber => "invalid number"
  | .numberOutOfRange => "number out of range"
  | .invalidCodePoint => "invalid unicode code point"
  | .controlCharacter => "control character (\\u0000-\\u001F) found while parsing a string"
  | .keyNotString => "key must be a string"
  | .loneSurrogate => "lone leading surrogate in hex escape"
  | .trailingComma => "trailing comma"
  | .trailingCharacters => "trailing characters"
  | .unfinishedSurrogate => "unexpected end of hex escape"
  | .tooDeep => "recursion limit exceeded"
  | .wrongType found expected =>
    "invalid type: " ++ found.describe ++ ", expected " ++ expected
  | .wrongValue found expected =>
    "invalid value: " ++ found.describe ++ ", expected " ++ expected
  | .duplicateField name => "duplicate field `" ++ name ++ "`"

/-- A cause with its place: `left` symbols remained, and the place is `past` bytes further. -/
structure Fault where
  cause : Cause
  left : Nat
  past : Nat

/-- A place in a text. -/
structure Position where
  line : Nat
  column : Nat
  deriving Repr, DecidableEq

/-- The number of bytes of a symbol. -/
def symbolWidth : Symbol → Nat
  | none => 1
  | some c => Text.Utf8.width c

/-- Moves over whole symbols. -/
def Position.skip (p : Position) (s : Symbol) : Position :=
  if s = some '\n' then ⟨p.line + 1, 0⟩ else ⟨p.line, p.column + symbolWidth s⟩

/-- Moves over a number of bytes, which may end within a symbol or beyond the text. -/
def Position.skipBytes (p : Position) : Nat → List Symbol → Position
  | _, [] => p
  | bytes, s :: rest =>
    if bytes = 0 then p
    else if bytes < symbolWidth s then ⟨p.line, p.column + bytes⟩
    else (p.skip s).skipBytes (bytes - symbolWidth s) rest

/-- Where a fault lies in the text it was found in. -/
def Fault.position (f : Fault) (text : List Symbol) : Position :=
  let read := text.length - f.left
  ((text.take read).foldl Position.skip ⟨1, 0⟩).skipBytes f.past (text.drop read)

/-- The wording of a fault, with its place in the text. -/
def Fault.message (f : Fault) (text : List Symbol) : String :=
  let p := f.position text
  f.cause.message ++ " at line " ++ Number.ofNat p.line ++ " column " ++ Number.ofNat p.column

end Harvest.Json
