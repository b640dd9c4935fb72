import Harvest.Text.CharSet
import Harvest.Text.Split
import Harvest.Url.Basic

/-!
# Numeric hosts

`parseIpv4` reads up to four numbers between full stops, in decimal, octal (`010`) or hexadecimal
(`0xA`) notation; the last of them fills the bytes that remain. `parseIpv6` reads eight hexadecimal
pieces between colons; `::` stands for as many zero pieces as are missing, and the last two pieces may
be written as four decimal bytes.
-/

namespace Harvest.Url

/-- The number that digits of a base spell; nothing if one is no digit of the base. -/
def numberInBase? (base : Nat) (cs : List Char) : Option Nat :=
  cs.foldl (fun acc c => do
    let n ← acc
    let d ← Text.hexValue? c
    if d < base then some (n * base + d) else none) (some 0)

/-- One number of an IPv4 address. -/
def ipv4Number? (cs : List Char) : Option Nat :=
  match cs with
  | [] => none
  | '0' :: 'x' :: rest => numberInBase? 16 rest
  | '0' :: 'X' :: rest => numberInBase? 16 rest
  | '0' :: c :: rest => numberInBase? 8 (c :: rest)
  | _ => numberInBase? 10 cs

/-- The parts of a name between full stops, without an empty one at the end. -/
def nameParts (cs : List Char) : List (List Char) :=
  let parts := Text.splitWhere (· == '.') cs
  match parts.reverse with
  | [] :: before => if before.isEmpty then parts else before.reverse
  | _ => parts

/-- Whether the last part of a name is a number, which makes the whole name an IPv4 address. -/
def endsInNumber (cs : List Char) : Bool :=
  match (nameParts cs).getLast? with
  | none => false
  | some last =>
    (!last.isEmpty && last.all Number.isDigit) || (ipv4Number? last).isSome

/-- Puts bytes in front of the number that fills the remaining ones. -/
def combineIpv4 (bytes : List Nat) (last : Nat) : Option Nat :=
  if bytes.any (255 < ·) then none
  else if Nat.pow 256 (4 - bytes.length) ≤ last then none
  else some ((bytes.zipIdx.map fun b => b.1 * Nat.pow 256 (3 - b.2)).foldr Nat.add last)

/-- Reads an IPv4 address. -/
def parseIpv4? (cs : List Char) : Option Nat := do
  let parts := nameParts cs
  if 4 < parts.length then none
  else
    let numbers ← parts.mapM ipv4Number?
    let last ← numbers.getLast?
    combineIpv4 numbers.dropLast last

/-- Takes up to `n` hexadecimal digits. -/
def takeHex : Nat → Nat → List Char → Nat × List Char
  | 0, value, cs => (value, cs)
  | _, value, [] => (value, [])
  | n + 1, value, c :: cs =>
    match Text.hexValue? c with
    | some d => takeHex n (value * 16 + d) cs
    | none => (value, c :: cs)

/-- One decimal byte, without leading zeros. -/
def decimalByte? (cs : List Char) : Option Nat :=
  match cs with
  | [] => none
  | '0' :: _ :: _ => none
  | _ =>
    if cs.all Number.isDigit && cs.length ≤ 3 then
      let n := Number.digitsValue cs
      if n ≤ 255 then some n else none
    else none

/-- The two pieces that four decimal bytes stand for. -/
def embeddedIpv4? (cs : List Char) : Option (List Nat) :=
  match (Text.splitWhere (· == '.') cs).mapM decimalByte? with
  | some [a, b, c, d] => some [a * 256 + b, c * 256 + d]
  | _ => none

/-- The pieces read so far, the last one first, and how many were read when `::` was met. -/
structure Pieces where
  read : List Nat
  gap : Option Nat

/-- Reads pieces; each round takes at least one character. -/
def readPieces : Nat → Pieces → List Char → Option Pieces
  | 0, _, _ => none
  | _ + 1, p, [] => some p
  | rounds + 1, p, c :: cs =>
    if p.read.length = 8 then none
    else if c = ':' then
      if p.gap.isSome then none
      else readPieces rounds ⟨0 :: p.read, some (p.read.length + 1)⟩ cs
    else
      let (value, rest) := takeHex 4 0 (c :: cs)
      match rest with
      | [] => some { p with read := value :: p.read }
      | '.' :: _ =>
        if rest.length = (c :: cs).length || 6 < p.read.length then none
        else (embeddedIpv4? (c :: cs)).map fun pair => { p with read := pair.reverse ++ p.read }
      | ':' :: more =>
        if more.isEmpty then none else readPieces rounds { p with read := value :: p.read } more
      | _ => none

/-- Fills the gap with zeros. -/
def Pieces.fill? (p : Pieces) : Option (List Nat) :=
  let pieces := p.read.reverse
  match p.gap with
  | none => if pieces.length = 8 then some pieces else none
  | some k =>
    some (pieces.take k ++ List.replicate (8 - pieces.length) 0 ++ pieces.drop k)

/-- Reads an IPv6 address. -/
def parseIpv6? (cs : List Char) : Option (List Nat) := do
  let start ← match cs with
    | ':' :: ':' :: rest => some (Pieces.mk [0] (some 1), rest)
    | ':' :: _ => none
    | [] => none
    | [_] => none
    | _ => some (Pieces.mk [] none, cs)
  let pieces ← readPieces (start.2.length + 1) start.1 start.2
  pieces.fill?

end Harvest.Url
