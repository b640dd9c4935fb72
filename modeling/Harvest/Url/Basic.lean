import Harvest.Number.Decimal

/-!
# Web addresses

A `Url` has a scheme, and either an opaque path or a path of segments, with a host before it for most
schemes. All parts are held as they are written, percent-encoded. `Url.toText` writes the address.
-/

namespace Harvest

namespace Url

/-- What keeps a text from being an address. -/
inductive Fault where
  | emptyHost
  | invalidDomainName
  | invalidPort
  | invalidIpv4
  | invalidIpv6
  | invalidDomainCharacter
  | relativeWithoutBase
  | relativeToOpaqueBase
  deriving DecidableEq, Repr

/-- The wording of a fault. -/
def Fault.message : Fault → String
  | .emptyHost => "empty host"
  | .invalidDomainName => "invalid international domain name"
  | .invalidPort => "invalid port number"
  | .invalidIpv4 => "invalid IPv4 address"
  | .invalidIpv6 => "invalid IPv6 address"
  | .invalidDomainCharacter => "invalid domain character"
  | .relativeWithoutBase => "relative URL without a base"
  | .relativeToOpaqueBase => "relative URL with a cannot-be-a-base base"

/-- A host. -/
inductive Host where
  /-- A name; the empty one stands for this machine. -/
  | domain (name : String)
  /-- An address of 32 bits. -/
  | ipv4 (address : Nat)
  /-- An address of eight pieces of 16 bits. -/
  | ipv6 (pieces : List Nat)
  deriving DecidableEq, Repr

/-- A path. -/
inductive Path where
  /-- A text without structure, after a scheme that has no hierarchy. -/
  | opaquePath (text : String)
  /-- Segments, each after a slash. -/
  | segments (names : List String)
  deriving DecidableEq, Repr

/-- How a scheme treats hosts and slashes. -/
inductive SchemeKind where
  | file
  | special
  | other
  deriving DecidableEq, Repr

/-- The kind of a scheme. -/
def SchemeKind.of (scheme : String) : SchemeKind :=
  if scheme = "file" then .file
  else if ["http", "https", "ws", "wss", "ftp"].contains scheme then .special
  else .other

/-- Whether backslashes count as slashes and a host is required. -/
def SchemeKind.isSpecial : SchemeKind → Bool
  | .other => false
  | _ => true

/-- The port that a scheme uses when none is given. -/
def defaultPort? (scheme : String) : Option Nat :=
  match scheme with
  | "http" => some 80
  | "ws" => some 80
  | "https" => some 443
  | "wss" => some 443
  | "ftp" => some 21
  | _ => none

end Url

/-- A web address. -/
structure Url where
  scheme : String
  username : String
  password : String
  host : Option Url.Host
  port : Option Nat
  path : Url.Path
  query : Option String
  fragment : Option String
  deriving DecidableEq, Repr

namespace Url

/-- The hexadecimal digits of a number below `16 ^ 4`, without leading zeros. -/
def hexDigits (n : Nat) : List Char :=
  let digit (d : Nat) : Char := Char.ofNat (if d < 10 then 48 + d else 87 + d)
  let all := [n / 4096 % 16, n / 256 % 16, n / 16 % 16]
  (all.dropWhile (· == 0)).map digit ++ [digit (n % 16)]

/-- How many of the leading pieces are zero. -/
def zeroRun (pieces : List Nat) : Nat :=
  (pieces.takeWhile (· == 0)).length

/-- The start and the length of the first longest run of zero pieces. -/
def longestZeroRun : Nat → List Nat → Nat × Nat
  | _, [] => (0, 0)
  | start, p :: pieces =>
    let here := zeroRun (p :: pieces)
    let later := longestZeroRun (start + 1) pieces
    if later.2 ≤ here then (start, here) else later

/-- Pieces between colons. -/
def joinPieces (pieces : List Nat) : List Char :=
  [':'].intercalate (pieces.map hexDigits)

/-- An address of eight pieces; the first longest run of two or more zeros is left out. -/
def ipv6Chars (pieces : List Nat) : List Char :=
  let (start, count) := longestZeroRun 0 pieces
  if count < 2 then joinPieces pieces
  else joinPieces (pieces.take start) ++ [':', ':'] ++ joinPieces (pieces.drop (start + count))

/-- An address of four bytes between full stops. -/
def ipv4Chars (address : Nat) : List Char :=
  ['.'].intercalate
    ([address / 16777216 % 256, address / 65536 % 256, address / 256 % 256, address % 256].map
      Number.digits)

/-- The text of a host. -/
def Host.toText : Host → String
  | .domain name => name
  | .ipv4 address => String.ofList (ipv4Chars address)
  | .ipv6 pieces => String.ofList ('[' :: (ipv6Chars pieces ++ [']']))

/-- The text of a path. -/
def Path.toText : Path → String
  | .opaquePath text => text
  | .segments names => names.foldl (fun acc n => acc ++ "/" ++ n) ""

/-- The user name and the password before a host. -/
def userInfo (u : Url) : String :=
  if u.username.isEmpty && u.password.isEmpty then ""
  else if u.password.isEmpty then u.username ++ "@"
  else u.username ++ ":" ++ u.password ++ "@"

/-- What stands between the scheme and the path. A path that begins with an empty segment is marked
when no host is before it. -/
def authority (u : Url) : String :=
  match u.host with
  | some host =>
    "//" ++ u.userInfo ++ host.toText
      ++ (match u.port with | some p => ":" ++ Number.ofNat p | none => "")
  | none =>
    match u.path with
    | .segments ("" :: _ :: _) => "/."
    | _ => ""

/-- The text of an address. -/
def toText (u : Url) : String :=
  u.scheme ++ ":" ++ u.authority ++ u.path.toText
    ++ (match u.query with | some q => "?" ++ q | none => "")
    ++ (match u.fragment with | some f => "#" ++ f | none => "")

/-- Whether references without scheme cannot be resolved against the address. -/
def isOpaque (u : Url) : Bool :=
  match u.path with
  | .opaquePath _ => true
  | .segments _ => false

/-- The kind of the scheme. -/
def kind (u : Url) : SchemeKind :=
  SchemeKind.of u.scheme

end Url

end Harvest
