import Harvest.Extract.Selection
import Harvest.Pattern.Search
import Harvest.Text.Clean

/-!
# Selector paths

A selector path is `[selector, attribute, pattern]`. `Path.resolve` reads the text or the attribute of
selected elements, cleans it, and takes the first group of the pattern if there is one. Only an attribute
that is missing leads to no text.
-/

namespace Harvest

/-- A selector path. -/
abbrev Path := List String

namespace Path

/-- The selector. -/
def selector (p : Path) : String :=
  p.head?.getD ""

/-- The attribute, if one is named. -/
def attribute? (p : Path) : Option String :=
  p[1]?.filter fun name => !name.isEmpty

/-- The pattern, if there is one. -/
def pattern? (p : Path) : Option String :=
  p[2]?.filter fun pattern => !pattern.isEmpty

/-- Cleans a text and takes the first group of the pattern. -/
def refine (p : Path) (raw : String) : String :=
  match p.pattern? with
  | some pattern => Text.clean (Pattern.capture pattern (Text.clean raw))
  | none => Text.clean raw

/-- The raw text that a path leads to: an attribute of the first element, or else the given text. -/
def raw? (p : Path) (text : String) (sel : Selection) : Option String :=
  match p.attribute? with
  | some name => sel.attribute? name
  | none => some text

/-- The text that a path leads to. -/
def resolve (p : Path) (sel : Selection) : Option String :=
  (p.raw? sel.text sel).map p.refine

/-- The text that a path leads to, where only text just within the first element counts. -/
def resolveOwn (p : Path) (sel : Selection) : Option String :=
  (p.raw? sel.ownText sel).map p.refine

end Path

end Harvest
