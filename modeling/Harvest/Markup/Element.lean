import Harvest.Markup.Token

/-!
# Elements and their classes

An `Element` has a vocabulary, a name and attributes. The classes of elements are those by which the
construction of a page decides what an unclosed, misplaced or unmatched tag means.
-/

namespace Harvest.Markup

/-- The vocabulary of an element. -/
inductive Vocabulary where
  | html
  | svg
  | mathml
  deriving DecidableEq, Repr

/-- An attribute of an element. -/
structure ElementAttribute where
  name : String
  value : String
  /-- Whether the name belongs to a vocabulary of its own, as that of a link within a drawing does. -/
  qualified : Bool
  deriving DecidableEq, Repr

/-- An element, without its place in the page. -/
structure Element where
  vocabulary : Vocabulary
  name : String
  attributes : List ElementAttribute
  deriving DecidableEq, Repr

namespace Element

/-- Whether the element is an ordinary element of the given name. -/
def isNamed (e : Element) (name : String) : Bool :=
  e.vocabulary == .html && e.name == name

/-- Whether the element is an ordinary element with one of the given names. -/
def isOneOf (e : Element) (names : List String) : Bool :=
  e.vocabulary == .html && names.contains e.name

/-- The value of an attribute. -/
def attribute? (e : Element) (name : String) : Option String :=
  (e.attributes.find? fun a => !a.qualified && a.name == name).map (·.value)

/-- An ordinary element for a tag. -/
def ofTag (name : String) (attributes : List Attribute) : Element :=
  ⟨.html, name, attributes.map fun a => ⟨a.1, a.2, false⟩⟩

/-- Elements of formulas whose content is ordinary text. -/
def isMathText (e : Element) : Bool :=
  e.vocabulary == .mathml && ["mi", "mo", "mn", "ms", "mtext"].contains e.name

/-- Elements of drawings whose content is ordinary markup. -/
def isHtmlIsland (e : Element) : Bool :=
  e.vocabulary == .svg && ["foreignObject", "desc", "title"].contains e.name

/-- Annotations of formulas that hold ordinary markup. -/
def isMarkupAnnotation (e : Element) : Bool :=
  e.vocabulary == .mathml && e.name == "annotation-xml"
    && (match e.attribute? "encoding" with
      | some v =>
        ["text/html", "application/xhtml+xml"].contains (Text.Casing.asciiLowerString v)
      | none => false)

/-- Elements that stop the search for an element that a stray end tag could close. -/
def isSpecial (e : Element) : Bool :=
  e.isOneOf
    ["address", "applet", "area", "article", "aside", "base", "basefont", "bgsound", "blockquote",
     "body", "br", "button", "caption", "center", "col", "colgroup", "dd", "details", "dir", "div",
     "dl", "dt", "embed", "fieldset", "figcaption", "figure", "footer", "form", "frame", "frameset",
     "h1", "h2", "h3", "h4", "h5", "h6", "head", "header", "hgroup", "hr", "html", "iframe", "img",
     "input", "isindex", "li", "link", "listing", "main", "marquee", "menu", "meta", "nav",
     "noembed", "noframes", "noscript", "object", "ol", "p", "param", "plaintext", "pre", "script",
     "section", "select", "source", "style", "summary", "table", "tbody", "td", "template",
     "textarea", "tfoot", "th", "thead", "title", "tr", "track", "ul", "wbr", "xmp"]

/-- Elements beyond which an open element cannot be seen. -/
def isScopeBoundary (e : Element) : Bool :=
  e.isOneOf
      ["applet", "caption", "html", "table", "td", "th", "marquee", "object", "template"]
    || e.isMathText || e.isHtmlIsland

/-- The boundaries when a list item is looked for. -/
def isListBoundary (e : Element) : Bool :=
  e.isScopeBoundary || e.isOneOf ["ol", "ul"]

/-- The boundaries when a paragraph is looked for. -/
def isButtonBoundary (e : Element) : Bool :=
  e.isScopeBoundary || e.isNamed "button"

/-- The boundaries when a part of a table is looked for. -/
def isTableBoundary (e : Element) : Bool :=
  e.isOneOf ["html", "table", "template"]

/-- The boundaries when a choice is looked for. -/
def isSelectBoundary (e : Element) : Bool :=
  !e.isOneOf ["optgroup", "option"]

/-- Elements that close by themselves when their surroundings close. -/
def closesByItself (e : Element) : Bool :=
  e.isOneOf ["dd", "dt", "li", "optgroup", "option", "p", "rb", "rp", "rt", "rtc"]

/-- Elements that close by themselves when a template closes. -/
def closesWithTemplate (e : Element) : Bool :=
  e.closesByItself
    || e.isOneOf ["caption", "colgroup", "tbody", "td", "tfoot", "th", "thead", "tr"]

/-- Headings. -/
def isHeading (e : Element) : Bool :=
  e.isOneOf ["h1", "h2", "h3", "h4", "h5", "h6"]

/-- Elements of a table that hold no text of their own; text within them goes before the table. -/
def isTableFrame (e : Element) : Bool :=
  e.isOneOf ["table", "tbody", "tfoot", "thead", "tr"]

end Element

/-! ## Names of drawings and formulas

Tag and attribute names come in lower case; these have capital letters where they are used. -/

/-- The names of drawing elements that have capital letters. -/
def svgNames : List String :=
  ["altGlyph", "altGlyphDef", "altGlyphItem", "animateColor", "animateMotion", "animateTransform",
   "clipPath", "feBlend", "feColorMatrix", "feComponentTransfer", "feComposite",
   "feConvolveMatrix", "feDiffuseLighting", "feDisplacementMap", "feDistantLight", "feDropShadow",
   "feFlood", "feFuncA", "feFuncB", "feFuncG", "feFuncR", "feGaussianBlur", "feImage", "feMerge",
   "feMergeNode", "feMorphology", "feOffset", "fePointLight", "feSpecularLighting", "feSpotLight",
   "feTile", "feTurbulence", "foreignObject", "glyphRef", "linearGradient", "radialGradient",
   "textPath"]

/-- The names of drawing attributes that have capital letters. -/
def svgAttributes : List String :=
  ["attributeName", "attributeType", "baseFrequency", "baseProfile", "calcMode", "clipPathUnits",
   "diffuseConstant", "edgeMode", "filterUnits", "glyphRef", "gradientTransform", "gradientUnits",
   "kernelMatrix", "kernelUnitLength", "keyPoints", "keySplines", "keyTimes", "lengthAdjust",
   "limitingConeAngle", "markerHeight", "markerUnits", "markerWidth", "maskContentUnits",
   "maskUnits", "numOctaves", "pathLength", "patternContentUnits", "patternTransform",
   "patternUnits", "pointsAtX", "pointsAtY", "pointsAtZ", "preserveAlpha", "preserveAspectRatio",
   "primitiveUnits", "refX", "refY", "repeatCount", "repeatDur", "requiredExtensions",
   "requiredFeatures", "specularConstant", "specularExponent", "spreadMethod", "startOffset",
   "stdDeviation", "stitchTiles", "surfaceScale", "systemLanguage", "tableValues", "targetX",
   "targetY", "textLength", "viewBox", "viewTarget", "xChannelSelector", "yChannelSelector",
   "zoomAndPan"]

/-- The spelling of a name in a list of names, whatever its case. -/
def respell (names : List String) (name : String) : String :=
  (names.find? fun n => Text.Casing.asciiLowerString n == name).getD name

/-- Attributes that have a vocabulary of their own, with the name they have there. -/
def qualifiedNames : List (String × String) :=
  [("xlink:actuate", "actuate"), ("xlink:arcrole", "arcrole"), ("xlink:href", "href"),
   ("xlink:role", "role"), ("xlink:show", "show"), ("xlink:title", "title"),
   ("xlink:type", "type"), ("xml:lang", "lang"), ("xml:space", "space"), ("xmlns", "xmlns"),
   ("xmlns:xlink", "xlink")]

/-- An attribute of a drawing or a formula. -/
def foreignAttribute (vocabulary : Vocabulary) (a : Attribute) : ElementAttribute :=
  let name := match vocabulary with
    | .svg => respell svgAttributes a.1
    | .mathml => respell ["definitionURL"] a.1
    | .html => a.1
  match qualifiedNames.find? fun q => q.1 == name with
  | some q => ⟨q.2, a.2, true⟩
  | none => ⟨name, a.2, false⟩

/-- An element of a drawing or a formula for a tag. -/
def Element.foreign (vocabulary : Vocabulary) (tag : Tag) : Element :=
  let name := if vocabulary == .svg then respell svgNames tag.name else tag.name
  ⟨vocabulary, name, tag.attributes.map (foreignAttribute vocabulary)⟩

/-- Tags that cannot stand in a drawing or a formula and so end it. -/
def Tag.leavesForeign (tag : Tag) : Bool :=
  ["b", "big", "blockquote", "body", "br", "center", "code", "dd", "div", "dl", "dt", "em", "embed",
   "h1", "h2", "h3", "h4", "h5", "h6", "head", "hr", "i", "img", "li", "listing", "menu", "meta",
   "nobr", "ol", "p", "pre", "ruby", "s", "small", "span", "strong", "strike", "sub", "sup", "table",
   "tt", "u", "ul", "var"].contains tag.name
    || (tag.name == "font"
      && tag.attributes.any fun a => ["color", "face", "size"].contains a.1)

/-! ## Compatibility -/

/-- How closely a page keeps to the rules; an old page lets a table stand in a paragraph. -/
inductive Compatibility where
  | standard
  | limited
  | old
  deriving DecidableEq, Repr

/-- Public identifiers, or beginnings of them, of old pages. -/
def oldPublicIds : List String :=
  ["-//advasoft ltd//dtd html 3.0 aswedit + extensions//", "-//as//dtd html 3.0 aswedit + extensions//",
   "-//ietf//dtd html 2.0 level 1//", "-//ietf//dtd html 2.0 level 2//",
   "-//ietf//dtd html 2.0 strict level 1//", "-//ietf//dtd html 2.0 strict level 2//",
   "-//ietf//dtd html 2.0 strict//", "-//ietf//dtd html 2.0//", "-//ietf//dtd html 2.1e//",
   "-//ietf//dtd html 3.0//", "-//ietf//dtd html 3.2 final//", "-//ietf//dtd html 3.2//",
   "-//ietf//dtd html 3//", "-//ietf//dtd html level 0//", "-//ietf//dtd html level 1//",
   "-//ietf//dtd html level 2//", "-//ietf//dtd html level 3//",
   "-//ietf//dtd html strict level 0//", "-//ietf//dtd html strict level 1//",
   "-//ietf//dtd html strict level 2//", "-//ietf//dtd html strict level 3//",
   "-//ietf//dtd html strict//", "-//ietf//dtd html//", "-//metrius//dtd metrius presentational//",
   "-//microsoft//dtd internet explorer 2.0 html strict//",
   "-//microsoft//dtd internet explorer 2.0 html//",
   "-//microsoft//dtd internet explorer 2.0 tables//",
   "-//microsoft//dtd internet explorer 3.0 html strict//",
   "-//microsoft//dtd internet explorer 3.0 html//",
   "-//microsoft//dtd internet explorer 3.0 tables//", "-//netscape comm. corp.//dtd html//",
   "-//netscape comm. corp.//dtd strict html//", "-//o'reilly and associates//dtd html 2.0//",
   "-//o'reilly and associates//dtd html extended 1.0//",
   "-//o'reilly and associates//dtd html extended relaxed 1.0//", "-//spyglass//dtd html 2.0 extended//",
   "-//sq//dtd html 2.0 hotmetal + extensions//", "-//sun microsystems corp.//dtd hotjava html//",
   "-//sun microsystems corp.//dtd hotjava strict html//", "-//w3c//dtd html 3 1995-03-24//",
   "-//w3c//dtd html 3.2 draft//", "-//w3c//dtd html 3.2 final//", "-//w3c//dtd html 3.2//",
   "-//w3c//dtd html 3.2s draft//", "-//w3c//dtd html 4.0 frameset//",
   "-//w3c//dtd html 4.0 transitional//", "-//w3c//dtd html experimental 19960712//",
   "-//w3c//dtd html experimental 970421//", "-//w3c//dtd w3 html//", "-//w3o//dtd w3 html 3.0//",
   "-//webtechs//dtd mozilla html 2.0//", "-//webtechs//dtd mozilla html//"]

/-- Whether a text begins with another. -/
def startsWith (pre s : String) : Bool :=
  (Text.stripStart? pre.toList s.toList).isSome

/-- The compatibility that a declaration asks for. -/
def Doctype.compatibility (d : Doctype) : Compatibility :=
  let publicId := (d.publicId.map Text.Casing.asciiLowerString).getD ""
  let systemId := (d.systemId.map Text.Casing.asciiLowerString)
  let html4 := startsWith "-//w3c//dtd html 4.01 frameset//" publicId
    || startsWith "-//w3c//dtd html 4.01 transitional//" publicId
  if d.forceQuirks || d.name != some "html"
      || ["-//w3o//dtd w3 html strict 3.0//en//", "-/w3c/dtd html 4.0 transitional/en",
          "html"].contains publicId
      || systemId == some "http://www.ibm.com/data/dtd/v11/ibmxhtml1-transitional.dtd"
      || oldPublicIds.any (startsWith · publicId)
      || (html4 && systemId.isNone) then .old
  else if startsWith "-//w3c//dtd xhtml 1.0 frameset//" publicId
      || startsWith "-//w3c//dtd xhtml 1.0 transitional//" publicId || html4 then .limited
  else .standard

end Harvest.Markup
