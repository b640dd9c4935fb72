import Harvest.Text.Split
import Harvest.Url.Basic
import Harvest.Url.Percent

/-!
# Query parameters

A query is read as pairs: `&` separates them and the first `=` of each separates the key from the
value; `+` stands for a space and `%XX` for a byte. `encodePairs` writes pairs so that `parsePairs`
reads them back. `Url.setParams` replaces parameters in place.
-/

namespace Harvest.Url

/-- Key and value of a query parameter. -/
abbrev Pair := String × String

/-- Characters that a query component holds as they are. -/
def isPlain (c : Char) : Bool :=
  ('a' ≤ c && c ≤ 'z') || ('A' ≤ c && c ≤ 'Z') || ('0' ≤ c && c ≤ '9')
    || c == '*' || c == '-' || c == '.' || c == '_'

/-- One character of a component. -/
def encodeComponentChar (c : Char) : List Char :=
  if isPlain c then [c] else if c = ' ' then ['+'] else Percent.encodeWhole c

/-- The characters of a component. -/
def encodeComponent (s : String) : List Char :=
  s.toList.flatMap encodeComponentChar

/-- The characters of a pair. -/
def encodePair (p : Pair) : List Char :=
  encodeComponent p.1 ++ '=' :: encodeComponent p.2

/-- The query that holds the given pairs. -/
def encodePairs (pairs : List Pair) : String :=
  String.ofList (['&'].intercalate (pairs.map encodePair))

/-- The text that a component stands for. -/
def decodeComponent (bytes : List UInt8) : String :=
  Text.Utf8.toStringLossy
    (Percent.decode (bytes.map fun b => if b == 0x2B then 0x20 else b))

/-- The pair that a piece of a query stands for; an empty piece is none. -/
def parsePair? (bytes : List UInt8) : Option Pair :=
  if bytes.isEmpty then none
  else
    let (key, value) := Text.cutAt (· == 0x3D) bytes
    some (decodeComponent key, decodeComponent (value.getD []))

/-- The pairs of a query. -/
def parsePairs (query : String) : List Pair :=
  (Text.splitWhere (· == 0x26) (Text.Utf8.ofString query)).filterMap parsePair?

/-- The query parameters of an address. -/
def params (u : Url) : List Pair :=
  (u.query.map parsePairs).getD []

/-- The value of the first parameter with the given key. -/
def param? (u : Url) (key : String) : Option String :=
  (u.params.find? fun p => p.1 == key).map Prod.snd

/-- Gives the first pair with the key the value, and drops the later ones. -/
def replaceFirst (key value : String) : List Pair → List Pair
  | [] => []
  | (k, v) :: rest =>
    if k = key then (k, value) :: rest.filter (fun p => p.1 != key)
    else (k, v) :: replaceFirst key value rest

/-- Sets one parameter: in the place of the first with its key, or at the end. -/
def setPair (pairs : List Pair) (p : Pair) : List Pair :=
  if pairs.any fun q => q.1 == p.1 then replaceFirst p.1 p.2 pairs else pairs ++ [p]

/-- Sets several parameters, one after the other. -/
def setPairs (pairs new : List Pair) : List Pair :=
  new.foldl setPair pairs

/-- The address with the given parameters set; all else stays. -/
def setParams (u : Url) (new : List Pair) : Url :=
  { u with query := some (encodePairs (setPairs u.params new)) }

end Harvest.Url
