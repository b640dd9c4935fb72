import Harvest.Text.Casing
import Harvest.Text.Split
import Harvest.Text.Utf8

/-!
# Proxy addresses

A proxy is named by a scheme, an authority (`user:password@host:port`), and perhaps a path that has no
meaning. `Proxy.isUsable` decides whether an address names one; an address without a scheme stands for a
SOCKS5 proxy.
-/

namespace Harvest.Proxy

/-- The schemes of known protocols. -/
def schemes : List String := ["http", "https", "socks", "socks4", "socks4a", "socks5"]

/-- The longest scheme. -/
def maxSchemeLength : Nat := 64

/-- The number of bytes of the longest address. -/
def maxAddressLength : Nat := 65534

/-- Whether a character may stand in a scheme. -/
def isSchemeChar (c : Char) : Bool :=
  c.isAlphanum || ['+', '-', '.', '~'].contains c

/-- Whether a character may stand anywhere in an authority. -/
def isAuthorityChar (c : Char) : Bool :=
  c.isAlphanum || "-._~!$&'()*+,;=".toList.contains c

/-- Whether a character ends an authority. -/
def endsAuthority (c : Char) : Bool :=
  c == '/' || c == '?' || c == '#'

/-- What has been seen of an authority. -/
structure Authority where
  /-- The colons behind the last `@` or `]`. -/
  colons : Nat
  opened : Bool
  closed : Bool
  /-- Whether there is a percent sign behind the last `@` or `]`. -/
  percent : Bool
  deriving DecidableEq, Repr

/-- Nothing has been seen of an authority. -/
def Authority.start : Authority := ⟨0, false, false, false⟩

/-- More colons than this are in no address. -/
def maxColons : Nat := 8

/-- Takes one more character of an authority. -/
def Authority.take (a : Authority) (c : Char) : Option Authority :=
  match c with
  | ':' => if maxColons ≤ a.colons then none else some { a with colons := a.colons + 1 }
  | '[' => if a.percent || a.opened then none else some { a with opened := true }
  | ']' =>
    if !a.opened || a.closed then none
    else some { a with closed := true, colons := 0, percent := false }
  | '@' => some { a with colons := 0, percent := false }
  | '%' => some { a with percent := true }
  | c => if isAuthorityChar c then some a else none

/-- Whether an authority may end here: its brackets are in pairs, at most one port follows the host,
and only the user has percent signs. -/
def Authority.mayEnd (a : Authority) : Bool :=
  a.opened == a.closed && a.colons ≤ 1 && !a.percent

/-- Whether characters make up an authority. -/
def isAuthority (cs : List Char) : Bool :=
  match cs.foldlM Authority.take .start with
  | some a => !cs.isEmpty && a.mayEnd && cs.getLast? != some '@'
  | none => false

/-- Whether a character may stand in a path or a query. -/
def isTailChar (c : Char) : Bool :=
  c == '!' || ('$' ≤ c && c ≤ ';') || c == '=' || ('?' ≤ c && c ≤ '~') || '\x7f' ≤ c

/-- Whether a character may stand in a path. -/
def isPathChar (c : Char) : Bool :=
  (isTailChar c && c != '\x60') || c == '"'

/-- Whether characters may follow an authority: a path, a query, and anything behind a `#`. -/
def isTail (cs : List Char) : Bool :=
  let (path, query) := Text.cutAt (· == '?') (Text.cutAt (· == '#') cs).1
  path.all isPathChar && (query.getD []).all isTailChar

/-- The characters of the two strokes behind the colon of a scheme. -/
def strokes : List Char := ['/', '/']

/-- Whether characters are the address of a proxy, with its scheme. -/
def isAddress (cs : List Char) : Bool :=
  match Text.cutAt (· == ':') cs with
  | (scheme, some rest) =>
    match Text.stripStart? strokes rest with
    | none => false
    | some rest =>
      let authority := rest.takeWhile fun c => !endsAuthority c
      scheme.all isSchemeChar && scheme.length ≤ maxSchemeLength &&
        schemes.contains (Text.Casing.asciiLowerString (String.ofList scheme)) &&
        isAuthority authority && isTail (rest.drop authority.length)
  | (_, none) => false

/-- The characters of an address with a scheme: that of SOCKS5 if it has none. -/
def withScheme (address : String) : List Char :=
  if Text.containsPart "://".toList address.toList then address.toList
  else "socks5://".toList ++ address.toList

/-- Whether an address names a proxy. -/
def isUsable (address : String) : Bool :=
  let cs := withScheme address
  (Text.Utf8.encode cs).length ≤ maxAddressLength && isAddress cs

end Harvest.Proxy
