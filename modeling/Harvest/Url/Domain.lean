import Harvest.Text.Casing
import Harvest.Text.Composition
import Harvest.Text.Split
import Harvest.Text.Utf8
import Harvest.Url.Direction
import Harvest.Url.Mapping
import Harvest.Url.Punycode

/-!
# Host names

`Domain.toAscii?` gives the ASCII form of a host name. Letters go to lower case. Other characters are
mapped and composed, and each label that still has characters beyond ASCII is written in Punycode behind
`xn--`. A label that comes in that form has to be one that would be written so.
-/

namespace Harvest.Url.Domain

/-- ASCII characters that no host name holds. -/
def isForbidden (c : Char) : Bool :=
  c.toNat ≤ 0x20 || c.toNat == 0x7F
    || ['%', '#', '/', ':', '<', '>', '?', '@', '[', '\\', ']', '^', '\x60', '|'].contains c

/-- Whether a character is one of ASCII. -/
def isAscii (c : Char) : Bool :=
  c.toNat < 0x80

/-- What precedes a label in Punycode. -/
def marker : List Char := ['x', 'n', '-', '-']

/-- The labels between full stops. -/
def labels (cs : List Char) : List (List Char) :=
  Text.splitWhere (· == '.') cs

/-- Whether a name needs no more than lower case. -/
def isPlain (cs : List Char) : Bool :=
  cs.all isAscii && !(labels cs).any fun l => (Text.stripStart? marker l).isSome

/-- Whether a label may be part of a name: it is composed, does not begin with a mark, and its
characters may stand in a name and beside each other. -/
def isLabel (label : List Char) : Bool :=
  label.all Mapping.isStable && Text.Composition.compose label == label
    && !((label.head?.map Text.Category.isMark).getD false)
    && Direction.joinersFit Text.Composition.classOf [] label

/-- The characters that a label stands for. -/
def readLabel? (label : List Char) : Option (List Char) :=
  match Text.stripStart? marker label with
  | none => if isLabel label then some label else none
  | some rest =>
    match Punycode.decode rest with
    | none => none
    | some decoded => if isLabel decoded && !decoded.all isAscii then some decoded else none

/-- The ASCII form of a label. -/
def writeLabel (label : List Char) : List Char :=
  if label.all isAscii then label else marker ++ Punycode.encode label

/-- The ASCII form of a name whose characters have been mapped. -/
def convert? (cs : List Char) : Option (List Char) :=
  match (labels cs).mapM readLabel? with
  | none => none
  | some read =>
    if read.any Direction.hasRight && !read.all Direction.isConsistent then none
    else some (['.'].intercalate (read.map writeLabel))

/-- The ASCII form of a host name, if it has one. -/
def toAscii? (bytes : List UInt8) : Option (List Char) := do
  let cs ← (Text.Utf8.symbols bytes).mapM id
  let lower := cs.map Text.Casing.asciiLower
  let name ←
    if isPlain lower then some lower
    else ((Mapping.mapText cs).map Text.Composition.compose).bind convert?
  if name.any isForbidden then none else some name

end Harvest.Url.Domain
