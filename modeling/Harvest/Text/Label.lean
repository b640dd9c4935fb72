import Harvest.Text.Casing
import Harvest.Text.Clean

/-!
# Keys from labels

`normalizeKey` turns a label as it stands in a page (`Screen Size:`) into a key (`screen_size`):
commas and full stops go, colons and spaces become underscores, underscores at the ends go, and
letters become lower case.
-/

namespace Harvest.Text

/-- Punctuation that a key does not keep. -/
def isKeyNoise (c : Char) : Bool :=
  c == ',' || c == '.'

/-- Separators of a label become the separator of a key. -/
def foldSeparator (c : Char) : Char :=
  if c == ':' || c == ' ' then '_' else c

/-- The characters of the key for a label. -/
def normalizeKeyChars (cs : List Char) : List Char :=
  Casing.lowerChars
    (trimWhere (· == '_') ((cs.filter fun c => !isKeyNoise c).map foldSeparator))

/-- The key for a label. -/
def normalizeKey (label : String) : String :=
  String.ofList (normalizeKeyChars label.toList)

end Harvest.Text
