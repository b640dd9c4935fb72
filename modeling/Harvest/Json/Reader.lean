import Harvest.Json.Fault
import Harvest.Text.CharSet

/-!
# Reading JSON

`Json.read` turns a text into a value, or tells the first fault and its place. Brackets may be nested
to a given depth. Numbers without fraction and exponent are integers while they fit in 64 bits, and
floating-point numbers beyond; the last of repeated keys wins.

The parts of the reader (`readChars`, `readNumber`, `readElements`, …) take the symbols from the place
where they start and give back those they left; readers of a fixed shape are built from them too.
-/

namespace Harvest.Json

/-- A value and the symbols after it, or a fault. -/
abbrev Result (α : Type) := Except Fault (α × List Symbol)

/-- A reader of one kind of value. -/
abbrev Reader (α : Type) := List Symbol → Result α

/-- A fault at the place before `rest`. -/
def faultAt (cause : Cause) (rest : List Symbol) : Fault :=
  ⟨cause, rest.length, 0⟩

/-- A fault at the next byte, or at the end of the text. -/
def faultNext (cause : Cause) (rest : List Symbol) : Fault :=
  ⟨cause, rest.length, 1⟩

/-- White space between tokens. -/
def isSpace (s : Symbol) : Bool :=
  s = some ' ' || s = some '\n' || s = some '\t' || s = some '\r'

/-- The text from the next token on. -/
def skipSpace (s : List Symbol) : List Symbol :=
  s.dropWhile isSpace

/-- Reads the remaining letters of a literal. -/
def readLiteral {α : Type} (value : α) : List Char → Reader α
  | [], rest => .ok (value, rest)
  | _ :: _, [] => .error (faultAt .eofInValue [])
  | c :: cs, s :: rest =>
    if s = some c then readLiteral value cs rest else .error ⟨.expectedIdent, rest.length + 1, 1⟩

/-! ## Texts -/

/-- The value of four hexadecimal digits. -/
def hex4? (a b c d : Symbol) : Option Nat := do
  let a ← a >>= Text.hexValue?
  let b ← b >>= Text.hexValue?
  let c ← c >>= Text.hexValue?
  let d ← d >>= Text.hexValue?
  pure (a * 4096 + b * 256 + c * 16 + d)

/-- The number of bytes in some symbols. -/
def bytesOf (s : List Symbol) : Nat :=
  s.foldl (fun n x => n + symbolWidth x) 0

/-- Reads four hexadecimal digits; four bytes are taken whatever they are. -/
def readHex4 : Reader Nat
  | a :: b :: c :: d :: rest =>
    match hex4? a b c d with
    | some n => .ok (n, rest)
    | none => .error ⟨.invalidEscape, rest.length + 4, 4⟩
  | short =>
    if 4 ≤ bytesOf short then .error ⟨.invalidEscape, short.length, 4⟩
    else .error (faultAt .eofInString [])

/-- The character that a backslash and this one stand for. -/
def simpleEscape? (c : Char) : Option Char :=
  if c = '"' then some '"'
  else if c = '\\' then some '\\'
  else if c = '/' then some '/'
  else if c = 'b' then some '\x08'
  else if c = 'f' then some '\x0c'
  else if c = 'n' then some '\n'
  else if c = 'r' then some '\r'
  else if c = 't' then some '\t'
  else none

/-- Reads the rest of an escape by code point: one code, or two that make a pair. -/
def readCode (s : List Symbol) : Result Char :=
  match readHex4 s with
  | .error f => .error f
  | .ok (n, rest) =>
    if 0xDC00 ≤ n && n ≤ 0xDFFF then .error (faultAt .loneSurrogate rest)
    else if n < 0xD800 || 0xDBFF < n then .ok (Char.ofNat n, rest)
    else match rest with
      | [] => .error (faultAt .eofInString [])
      | some '\\' :: [] => .error (faultAt .eofInString [])
      | some '\\' :: some 'u' :: more =>
        match readHex4 more with
        | .error f => .error f
        | .ok (m, rest) =>
          if m < 0xDC00 || 0xDFFF < m then .error (faultAt .loneSurrogate rest)
          else .ok (Char.ofNat ((n - 0xD800) * 1024 + (m - 0xDC00) + 0x10000), rest)
      | some '\\' :: other => .error (faultNext .unfinishedSurrogate other)
      | other => .error (faultNext .unfinishedSurrogate other)

theorem readHex4_length {s rest : List Symbol} {n : Nat} (h : readHex4 s = .ok (n, rest)) :
    rest.length ≤ s.length := by
  unfold readHex4 at h
  split at h
  · split at h
    · simp only [Except.ok.injEq, Prod.mk.injEq] at h
      simp only [← h.2, List.length_cons]
      omega
    · simp at h
  · split at h <;> simp at h

theorem readCode_length {s rest : List Symbol} {c : Char} (h : readCode s = .ok (c, rest)) :
    rest.length ≤ s.length := by
  unfold readCode at h
  split at h
  · simp at h
  · rename_i n r hr
    have := readHex4_length hr
    split at h
    · simp at h
    · split at h
      · simp only [Except.ok.injEq, Prod.mk.injEq] at h
        rw [← h.2]
        exact this
      · split at h
        · simp at h
        · simp at h
        · split at h
          · simp at h
          · rename_i m r' hr'
            have := readHex4_length hr'
            split at h
            · simp at h
            · simp only [Except.ok.injEq, Prod.mk.injEq] at h
              simp only [← h.2, List.length_cons] at *
              omega
        · simp at h
        · simp at h

/-- Reads a text after its opening quote; `acc` holds the characters so far, the last one first, and
`broken` the fault of the first byte that is no character. That fault counts at the closing quote. -/
def readCharsOnto (acc : List Char) (broken : Option Fault) : List Symbol → Result (List Char)
  | [] => .error (faultAt .eofInString [])
  | none :: rest => readCharsOnto acc (broken.or (some (faultAt .invalidCodePoint rest))) rest
  | some '"' :: rest =>
    match broken with
    | some f => .error f
    | none => .ok (acc.reverse, rest)
  | some '\\' :: [] => .error (faultAt .eofInString [])
  | some '\\' :: some 'u' :: rest =>
    match h : readCode rest with
    | .error f => .error f
    | .ok (c, rest') =>
      have := readCode_length h
      readCharsOnto (c :: acc) broken rest'
  | some '\\' :: other :: rest =>
    match other.bind simpleEscape? with
    | some c => readCharsOnto (c :: acc) broken rest
    | none => .error ⟨.invalidEscape, rest.length + 1, 1⟩
  | some c :: rest =>
    if c.toNat < 0x20 then .error (faultAt .controlCharacter rest)
    else readCharsOnto (c :: acc) broken rest
termination_by s => s.length

/-- Reads a text after its opening quote. -/
def readText (s : List Symbol) : Result String :=
  match readCharsOnto [] none s with
  | .ok (cs, rest) => .ok (String.ofList cs, rest)
  | .error f => .error f

/-! ## Numbers -/

/-- The value of a decimal digit. -/
def digit? : Symbol → Option Nat
  | some c => if Number.isDigit c then some (Number.digitValue c) else none
  | none => none

/-- Takes digits while the number that they continue fits in 64 bits. -/
def takeDigits : Nat → List Symbol → Nat × List Symbol
  | n, [] => (n, [])
  | n, s :: rest =>
    match digit? s with
    | some d => if n * 10 + d ≤ Number.maxNat64 then takeDigits (n * 10 + d) rest else (n, s :: rest)
    | none => (n, s :: rest)

/-- Whether the text goes on with a digit. -/
def startsDigit : List Symbol → Bool
  | s :: _ => (digit? s).isSome
  | [] => false

/-- Whether the text goes on with the mark of an exponent. -/
def startsExponent : List Symbol → Bool
  | some 'e' :: _ => true
  | some 'E' :: _ => true
  | _ => false

/-- The text after its leading digits. -/
def dropDigits (s : List Symbol) : List Symbol :=
  s.dropWhile fun x => (digit? x).isSome

/-- A power of ten. -/
def power10 (n : Nat) : Float :=
  Float.ofScientific 1 false n

/-- `significand * 10 ^ exponent`, by steps of at most `10 ^ 308`; nothing if it is too great. -/
def scaleFloat : Nat → Float → Int → Option Float
  | 0, f, _ => some f
  | steps + 1, f, e =>
    if e.natAbs ≤ 308 then
      if 0 ≤ e then
        let g := f * power10 e.toNat
        if g.isInf then none else some g
      else some (f / power10 e.natAbs)
    else if f == 0.0 then some f
    else if 0 ≤ e then none
    else scaleFloat steps (f / 1e308) (e + 308)

/-- A floating-point number from its parts. -/
def floatOf (positive : Bool) (significand : Nat) (exponent : Int) (rest : List Symbol) :
    Result Float :=
  match scaleFloat (exponent.natAbs / 308 + 2) (Float.ofNat significand) exponent with
  | none => .error (faultAt .numberOutOfRange rest)
  | some f => .ok (if positive then f else -f, rest)

/-- The greatest exponent that is kept. -/
def maxExponent : Nat := 2147483647

/-- Takes the digits of an exponent; nothing when they spell too great a number, with the text after
the digit that made it so. -/
def takeExponent : Nat → List Symbol → Option Nat × List Symbol
  | n, [] => (some n, [])
  | n, s :: rest =>
    match digit? s with
    | some d => if n * 10 + d ≤ maxExponent then takeExponent (n * 10 + d) rest else (none, rest)
    | none => (some n, s :: rest)

/-- Keeps an exponent within 32 bits. -/
def clampExponent (e : Int) : Int :=
  max (-2147483648) (min e 2147483647)

/-- Reads an exponent after its mark. -/
def readExponent (positive : Bool) (significand : Nat) (start : Int) (s : List Symbol) :
    Result Float :=
  let (positiveExponent, s) := match s with
    | some '+' :: rest => (true, rest)
    | some '-' :: rest => (false, rest)
    | _ => (true, s)
  match s with
  | [] => .error (faultAt .eofInValue [])
  | c :: rest =>
    match digit? c with
    | none => .error ⟨.invalidNumber, rest.length + 1, 1⟩
    | some d =>
      match takeExponent d rest with
      | (some e, rest) =>
        floatOf positive significand
          (clampExponent (if positiveExponent then start + e else start - e)) rest
      | (none, rest) =>
        if significand ≠ 0 && positiveExponent then .error (faultAt .numberOutOfRange rest)
        else .ok (if positive then 0.0 else -0.0, dropDigits rest)

/-- Reads what may follow the digits of a number that is not an integer. -/
def readFloatEnd (positive : Bool) (significand : Nat) (exponent : Int) (s : List Symbol) :
    Result Float :=
  if startsExponent s then readExponent positive significand exponent s.tail
  else floatOf positive significand exponent s

/-- Reads a fraction after its point. -/
def readFraction (positive : Bool) (significand : Nat) (start : Int) (s : List Symbol) :
    Result Float :=
  let (n, rest) := takeDigits significand s
  let taken := s.length - rest.length
  if startsDigit rest then readFloatEnd positive n (start - taken) (dropDigits rest)
  else if taken = 0 then
    .error (if rest.isEmpty then faultNext .eofInValue rest else faultNext .invalidNumber rest)
  else readFloatEnd positive n (start - taken) rest

/-- A number, as it is read. -/
inductive Numeral where
  | int (value : Int)
  | float (value : Float)

/-- Wraps a floating-point result. -/
def Numeral.ofFloat (r : Result Float) : Result Numeral :=
  match r with
  | .ok (f, rest) => .ok (.float f, rest)
  | .error f => .error f

/-- The numeral for an integer without its sign; minus zero is a floating-point number, and so is a
negative number beyond 64 bits. -/
def Numeral.ofInteger (positive : Bool) (n : Nat) : Numeral :=
  if positive then .int n
  else if n = 0 || Nat.pow 2 63 < n then .float (-Float.ofNat n)
  else .int (-(n : Int))

/-- Reads what follows the digits of an integer. -/
def readNumberEnd (positive : Bool) (n : Nat) (s : List Symbol) : Result Numeral :=
  match s with
  | some '.' :: rest => Numeral.ofFloat (readFraction positive n 0 rest)
  | _ =>
    if startsExponent s then Numeral.ofFloat (readExponent positive n 0 s.tail)
    else .ok (Numeral.ofInteger positive n, s)

/-- Reads what follows the digits that fit in 64 bits when there are more of them. -/
def readLongNumber (positive : Bool) (n : Nat) (s : List Symbol) : Result Numeral :=
  let rest := dropDigits s
  let dropped : Nat := s.length - rest.length
  match rest with
  | some '.' :: rest => Numeral.ofFloat (readFraction positive n dropped rest)
  | _ => Numeral.ofFloat (readFloatEnd positive n dropped rest)

/-- Reads a number after its sign. -/
def readNumber (positive : Bool) : Reader Numeral
  | [] => .error (faultAt .eofInValue [])
  | s :: rest =>
    match digit? s with
    | none => .error ⟨.invalidNumber, rest.length + 1, 1⟩
    | some 0 =>
      if startsDigit rest then .error (faultNext .invalidNumber rest)
      else readNumberEnd positive 0 rest
    | some d =>
      let (n, rest) := takeDigits d rest
      if startsDigit rest then readLongNumber positive n rest
      else readNumberEnd positive n rest

/-- The value of a numeral. -/
def Numeral.toJson : Numeral → Json
  | .int i => .int i
  | .float f => .float f

/-! ## Sequences and maps -/

/-- Moves to the next element of a sequence, if there is one; `first` before the first. -/
def nextElement (first : Bool) (s : List Symbol) : Result Bool :=
  match skipSpace s with
  | [] => .error (faultNext .eofInList [])
  | some ']' :: rest => .ok (false, some ']' :: rest)
  | t =>
    if first then .ok (true, t)
    else match t with
      | some ',' :: rest =>
        match skipSpace rest with
        | [] => .error (faultNext .eofInValue [])
        | some ']' :: more => .error (faultNext .trailingComma (some ']' :: more))
        | u => .ok (true, u)
      | _ => .error (faultNext .expectedListEnd t)

/-- Leaves a sequence. -/
def endSequence (s : List Symbol) : Result Unit :=
  match skipSpace s with
  | [] => .error (faultNext .eofInList [])
  | some ']' :: rest => .ok ((), rest)
  | some ',' :: rest =>
    match skipSpace rest with
    | some ']' :: more => .error (faultNext .trailingComma (some ']' :: more))
    | t => .error (faultNext .trailingCharacters t)
  | t => .error (faultNext .trailingCharacters t)

/-- Moves to the next key of a map, behind its opening quote, if there is one. -/
def nextKey (first : Bool) (s : List Symbol) : Result Bool :=
  match skipSpace s with
  | [] => .error (faultNext .eofInObject [])
  | some '}' :: rest => .ok (false, some '}' :: rest)
  | t =>
    if first then
      match t with
      | some '"' :: rest => .ok (true, rest)
      | _ => .error (faultNext .keyNotString t)
    else match t with
      | some ',' :: rest =>
        match skipSpace rest with
        | [] => .error (faultNext .eofInValue [])
        | some '"' :: more => .ok (true, more)
        | some '}' :: more => .error (faultNext .trailingComma (some '}' :: more))
        | u => .error (faultNext .keyNotString u)
      | _ => .error (faultNext .expectedObjectEnd t)

/-- Passes the colon after a key. -/
def readColon (s : List Symbol) : Result Unit :=
  match skipSpace s with
  | [] => .error (faultNext .eofInObject [])
  | some ':' :: rest => .ok ((), rest)
  | t => .error (faultNext .expectedColon t)

/-- Leaves a map. -/
def endMap (s : List Symbol) : Result Unit :=
  match skipSpace s with
  | [] => .error (faultNext .eofInObject [])
  | some '}' :: rest => .ok ((), rest)
  | some ',' :: rest => .error (faultNext .trailingComma (some ',' :: rest))
  | t => .error (faultNext .trailingCharacters t)

/-- Reads the elements of a sequence up to its closing bracket; at most `bound` of them. -/
def readElements {α : Type} (element : Reader α) : Nat → Bool → Reader (List α)
  | 0, _, s => .error (faultNext .eofInList s)
  | bound + 1, first, s =>
    match nextElement first s with
    | .error f => .error f
    | .ok (false, rest) => .ok ([], rest)
    | .ok (true, rest) =>
      match element rest with
      | .error f => .error f
      | .ok (v, rest) =>
        match readElements element bound false rest with
        | .error f => .error f
        | .ok (vs, rest) => .ok (v :: vs, rest)

/-- Reads a sequence after its opening bracket. -/
def readSequence {α : Type} (element : Reader α) (s : List Symbol) : Result (List α) :=
  match readElements element (s.length + 1) true s with
  | .error f => .error f
  | .ok (vs, rest) =>
    match endSequence rest with
    | .error f => .error f
    | .ok ((), rest) => .ok (vs, rest)

/-- Reads the entries of a map up to its closing brace; at most `bound` of them. -/
def readEntries {α : Type} (element : Reader α) : Nat → Bool → Reader (List (String × α))
  | 0, _, s => .error (faultNext .eofInObject s)
  | bound + 1, first, s =>
    match nextKey first s with
    | .error f => .error f
    | .ok (false, rest) => .ok ([], rest)
    | .ok (true, rest) =>
      match readText rest with
      | .error f => .error f
      | .ok (key, rest) =>
        match readColon rest with
        | .error f => .error f
        | .ok ((), rest) =>
          match element rest with
          | .error f => .error f
          | .ok (v, rest) =>
            match readEntries element bound false rest with
            | .error f => .error f
            | .ok (vs, rest) => .ok ((key, v) :: vs, rest)

/-- Reads a map after its opening brace. -/
def readMap {α : Type} (element : Reader α) (s : List Symbol) : Result (List (String × α)) :=
  match readEntries element (s.length + 1) true s with
  | .error f => .error f
  | .ok (vs, rest) =>
    match endMap rest with
    | .error f => .error f
    | .ok ((), rest) => .ok (vs, rest)

/-! ## Values -/

/-- Changes the value of a result. -/
def Result.map {α β : Type} (f : α → β) : Result α → Result β
  | .ok (v, rest) => .ok (f v, rest)
  | .error e => .error e

/-- Reads a scalar whose first symbol, after white space, is given with what follows it; nothing if it
starts none. -/
def readScalar? (first : Symbol) (rest : List Symbol) : Option (Result Json) :=
  match first with
  | some 'n' => some (readLiteral Json.null ['u', 'l', 'l'] rest)
  | some 't' => some (readLiteral (Json.bool true) ['r', 'u', 'e'] rest)
  | some 'f' => some (readLiteral (Json.bool false) ['a', 'l', 's', 'e'] rest)
  | some '-' => some ((readNumber false rest).map Numeral.toJson)
  | some '"' => some ((readText rest).map Json.string)
  | _ => if (digit? first).isSome then some ((readNumber true (first :: rest)).map Numeral.toJson)
    else none

/-- Reads any value, with brackets nested at most `depth` deep. -/
def readValue : Nat → Reader Json
  | depth, s =>
    match skipSpace s with
    | [] => .error (faultNext .eofInValue [])
    | some '[' :: rest =>
      match depth with
      | 0 => .error (faultNext .tooDeep (some '[' :: rest))
      | depth + 1 => (readSequence (readValue depth) rest).map Json.array
    | some '{' :: rest =>
      match depth with
      | 0 => .error (faultNext .tooDeep (some '{' :: rest))
      | depth + 1 => (readMap (readValue depth) rest).map Json.ofFields
    | first :: rest => (readScalar? first rest).getD (.error (faultNext .expectedValue (first :: rest)))

/-- How deep brackets may be nested in a text. -/
def maxDepth : Nat := 127

/-- Reads a whole text with one reader; only white space may follow the value. -/
def readWhole {α : Type} (reader : Reader α) (text : List Symbol) : Except Fault α :=
  match reader text with
  | .error f => .error f
  | .ok (v, rest) =>
    match skipSpace rest with
    | [] => .ok v
    | t => .error (faultNext .trailingCharacters t)

/-- The wording of a fault, or the value. -/
def describeFault {α : Type} (text : List Symbol) (r : Except Fault α) : Except String α :=
  match r with
  | .ok v => .ok v
  | .error f => .error (f.message text)

/-- Reads a text as any value. -/
def readSymbols (text : List Symbol) : Except String Json :=
  describeFault text (readWhole (readValue maxDepth) text)

/-- The symbols of a text. -/
def symbolsOf (s : String) : List Symbol :=
  s.toList.map some

/-- Reads a text as any value, or tells what is wrong with it. -/
def read (s : String) : Except String Json :=
  readSymbols (symbolsOf s)

/-- Reads bytes as any value, or tells what is wrong with them. -/
def readBytes (bytes : List UInt8) : Except String Json :=
  readSymbols (Text.Utf8.symbols bytes)

end Harvest.Json
