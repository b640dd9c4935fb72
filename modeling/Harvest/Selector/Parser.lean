import Harvest.Selector.Basic
import Harvest.Selector.Token
import Harvest.Text.Casing
import Harvest.Text.Split

/-!
# Reading selectors

`Selector.parse?` reads a selector, if the text is one. States of an element (`:hover`) and parts of it
(`::before`) are not known and make a selector invalid. The alternatives within `:is` and `:where` that
are invalid are left out; anywhere else one invalid alternative makes the whole invalid.
-/

namespace Harvest.Selector

/-- A part that has been read, with the tokens after it; nothing if the selector is invalid. -/
abbrev Reading (α : Type) := Option (α × List Token)

/-- A name in lower case. -/
def lower (s : String) : String :=
  Text.Casing.asciiLowerString s

/-- Passes white space. -/
def skipSpace (ts : List Token) : List Token :=
  ts.dropWhile fun t => match t with | .space => true | _ => false

/-- The tokens between commas. -/
def splitCommas (ts : List Token) : List (List Token) :=
  Text.splitWhere (fun t => match t with | .comma => true | _ => false) ts

/-! ## Positions -/

/-- The value of `n-` and digits. -/
def dashDigits? (s : String) : Option Int :=
  match s.toList with
  | n :: '-' :: ds =>
    if (n == 'n' || n == 'N') && !ds.isEmpty && ds.all isDigit then
      some (clamp (-(digitsValue ds : Int)))
    else none
  | _ => none

/-- The offset behind a sign that stands alone. -/
def unsignedOffset? (step sign : Int) (ts : List Token) : Reading (Int × Int) :=
  match skipSpace ts with
  | .number false (some b) :: rest => some ((step, sign * b), rest)
  | _ => none

/-- The offset behind the step. -/
def offset? (step : Int) (ts : List Token) : Reading (Int × Int) :=
  match skipSpace ts with
  | .delimiter '+' :: rest => unsignedOffset? step 1 rest
  | .delimiter '-' :: rest => unsignedOffset? step (-1) rest
  | .number true (some b) :: rest => some ((step, b), rest)
  | _ => some ((step, 0), ts)

/-- A step that is written as a name, `n` or `n-` with more. -/
def stepName? (step : Int) (name : String) (ts : List Token) : Reading (Int × Int) :=
  match lower name with
  | "n" => offset? step ts
  | "n-" => unsignedOffset? step (-1) ts
  | _ => (dashDigits? name).map fun b => ((step, b), ts)

/-- The step and the offset of a position. -/
def steps? (ts : List Token) : Reading (Int × Int) :=
  match skipSpace ts with
  | .number _ (some b) :: rest => some ((0, b), rest)
  | .dimension (some a) unit :: rest => stepName? a unit rest
  | .name value :: rest =>
    match lower value with
    | "even" => some ((2, 0), rest)
    | "odd" => some ((2, 1), rest)
    | _ =>
      match value.toList with
      | '-' :: more => stepName? (-1) (String.ofList more) rest
      | _ => stepName? 1 value rest
  | .delimiter '+' :: .name value :: rest => stepName? 1 value rest
  | _ => none

/-- Reads what stands in the brackets of a position. -/
def position? (fromEnd ofType : Bool) (body : List Token) : Option Simple := do
  let ((step, offset), rest) ← steps? body
  if (skipSpace rest).isEmpty then some (.position ⟨step, offset, fromEnd, ofType⟩) else none

/-- A position that is first. -/
def firstPosition (fromEnd ofType : Bool) : Simple :=
  .position ⟨0, 1, fromEnd, ofType⟩

/-! ## Attributes -/

/-- Attributes whose values do not depend on letter case in ordinary elements. -/
def caselessAttributes : List String :=
  ["accept", "accept-charset", "align", "alink", "axis", "bgcolor", "charset", "checked", "clear",
   "codetype", "color", "compact", "declare", "defer", "dir", "direction", "disabled", "enctype",
   "face", "frame", "hreflang", "http-equiv", "lang", "language", "link", "media", "method",
   "multiple", "nohref", "noresize", "noshade", "nowrap", "readonly", "rel", "rev", "rules", "scope",
   "scrolling", "selected", "shape", "target", "text", "type", "valign", "valuetype", "vlink"]

/-- The comparison that a token stands for. -/
def comparison? : Token → Option Comparison
  | .delimiter '=' => some .equal
  | .comparison '~' => some .word
  | .comparison '|' => some .language
  | .comparison '^' => some .start
  | .comparison '$' => some .ending
  | .comparison '*' => some .part
  | _ => none

/-- The case rule that stands behind a value, or the one that goes with the attribute. -/
def caseRule? (anyVocabulary : Bool) (name : String) (ts : List Token) : Option CaseRule :=
  match skipSpace ts with
  | [] =>
    some (if !anyVocabulary && caselessAttributes.contains (lower name) then .byElement
      else .sensitive)
  | .name flag :: rest =>
    if !(skipSpace rest).isEmpty then none
    else match lower flag with
      | "i" => some .insensitive
      | "s" => some .sensitive
      | _ => none
  | _ => none

/-- The name of an attribute: with a star and a bar, of any vocabulary. -/
def attributeName? (ts : List Token) : Reading (Bool × String) :=
  match ts with
  | .name _ :: .delimiter '|' :: _ => none
  | .name value :: rest => some ((false, value), rest)
  | .delimiter '*' :: .delimiter '|' :: .name value :: rest => some ((true, value), rest)
  | .delimiter '|' :: .name value :: rest => some ((false, value), rest)
  | _ => none

/-- Reads what stands in square brackets. -/
def attribute? (body : List Token) : Option Simple := do
  let ((anyVocabulary, name), rest) ← attributeName? (skipSpace body)
  match skipSpace rest with
  | [] => some (.attribute ⟨name, anyVocabulary, none⟩)
  | t :: rest =>
    let comparison ← comparison? t
    let (value, rest) ← match skipSpace rest with
      | .name v :: rest => some (v, rest)
      | .string v :: rest => some (v, rest)
      | _ => none
    let rule ← caseRule? anyVocabulary name rest
    some (.attribute ⟨name, anyVocabulary, some (comparison, value, rule)⟩)

/-! ## Compounds and chains -/

/-- The element name at the start of a compound; nothing there is no fault. -/
def elementName (ts : List Token) : Option (List Simple × List Token) :=
  match ts with
  | .name _ :: .delimiter '|' :: _ => none
  | .name value :: rest => some ([.elementName value], rest)
  | .delimiter '*' :: .delimiter '|' :: rest => qualified [] rest
  | .delimiter '*' :: rest => some ([.anyElement], rest)
  | .delimiter '|' :: rest => qualified [.nothing] rest
  | _ => some ([], ts)
where
  /-- The name behind a bar. -/
  qualified (before : List Simple) (ts : List Token) : Option (List Simple × List Token) :=
    match ts with
    | .name value :: rest => some (before ++ [.elementName value], rest)
    | .delimiter '*' :: rest => some (before ++ [.anyElement], rest)
    | _ => none

/-- A combinator, if the compound before it is not the last one. -/
def combinator? (ts : List Token) : Option (Combinator × List Token) :=
  match skipSpace ts with
  | [] => none
  | .delimiter '>' :: rest => some (.child, rest)
  | .delimiter '+' :: rest => some (.nextSibling, rest)
  | .delimiter '~' :: rest => some (.laterSibling, rest)
  | rest => if rest.length < ts.length then some (.descendant, rest) else none

/-- A pseudo-class without brackets. -/
def plainClass? (name : String) : Option (List Simple) :=
  match lower name with
  | "first-child" => some [firstPosition false false]
  | "last-child" => some [firstPosition true false]
  | "only-child" => some [firstPosition false false, firstPosition true false]
  | "first-of-type" => some [firstPosition false true]
  | "last-of-type" => some [firstPosition true true]
  | "only-of-type" => some [firstPosition false true, firstPosition true true]
  | "root" => some [.root]
  | "empty" => some [.empty]
  | "scope" => some [.scope]
  | _ => none

mutual

/-- Whether tokens hold no fault of their own: no broken string and no unmatched bracket. -/
def allSound : List Token → Bool
  | [] => true
  | t :: ts => isSound t && allSound ts

/-- Whether a token holds no fault of its own. -/
def isSound : Token → Bool
  | .brokenString => false
  | .unmatched _ => false
  | .function _ body => allSound body
  | .block _ body => allSound body
  | _ => true

end

/-- How alternatives are read. -/
structure Reader where
  /-- Reads alternatives, all of which must be valid; the flag says that they start at an element. -/
  strict : (relative inHas : Bool) → List Token → Option (List Complex)
  /-- Reads alternatives and leaves out invalid ones. -/
  forgiving : (inHas : Bool) → List Token → Option (List Complex)

/-- A pseudo-class with brackets. Within `:has` there is no other `:has`. -/
def functionClass? (reader : Reader) (inHas : Bool) (name : String) (body : List Token) :
    Option Simple :=
  match lower name with
  | "nth-child" => position? false false body
  | "nth-last-child" => position? true false body
  | "nth-of-type" => position? false true body
  | "nth-last-of-type" => position? true true body
  | "is" => (reader.forgiving inHas body).map Simple.isAny
  | "where" => (reader.forgiving inHas body).map Simple.isAny
  | "not" => (reader.strict false inHas body).map Simple.isNone
  | "has" => if inHas then none else (reader.strict true true body).map Simple.has
  | _ => none

/-- The conditions behind the element name, up to the first token that belongs to none. -/
def conditions? (reader : Reader) (inHas : Bool) : List Simple → List Token →
    Option (List Simple × List Token)
  | acc, [] => some (acc, [])
  | acc, .hash value :: rest => conditions? reader inHas (acc ++ [.id value]) rest
  | acc, .delimiter '.' :: .name value :: rest =>
    conditions? reader inHas (acc ++ [.hasClass value]) rest
  | _, .delimiter '.' :: _ => none
  | acc, .block .square body :: rest =>
    match attribute? body with
    | some s => conditions? reader inHas (acc ++ [s]) rest
    | none => none
  | acc, .colon :: .name value :: rest =>
    match plainClass? value with
    | some s => conditions? reader inHas (acc ++ s) rest
    | none => none
  | acc, .colon :: .function name body :: rest =>
    match functionClass? reader inHas name body with
    | some s => conditions? reader inHas (acc ++ [s]) rest
    | none => none
  | _, .colon :: _ => none
  | acc, rest => some (acc, rest)

/-- A compound of at least one condition. -/
def compound? (reader : Reader) (inHas : Bool) (ts : List Token) :
    Option (List Simple × List Token) := do
  let (name, rest) ← elementName (skipSpace ts)
  let (parts, rest) ← conditions? reader inHas name rest
  if parts.isEmpty then none else some (parts, rest)

/-- The compounds behind the first; each round takes at least one token. -/
def chain? (reader : Reader) (inHas : Bool) : Nat → Complex → List Token → Option Complex
  | 0, _, _ => none
  | rounds + 1, left, ts =>
    match combinator? ts with
    | none => if (skipSpace ts).isEmpty then some left else none
    | some (combinator, rest) =>
      match compound? reader inHas rest with
      | none => none
      | some (parts, rest) => chain? reader inHas rounds (.chain left combinator parts) rest

/-- One alternative. -/
def complex? (reader : Reader) (relative inHas : Bool) (ts : List Token) : Option Complex :=
  let ts := skipSpace ts
  if relative then
    let (combinator, rest) := (combinator? ts).getD (.descendant, ts)
    match compound? reader inHas rest with
    | none => none
    | some (parts, rest) =>
      chain? reader inHas (rest.length + 1) (.chain .anchor combinator parts) rest
  else
    match compound? reader inHas ts with
    | none => none
    | some (parts, rest) => chain? reader inHas (rest.length + 1) (.compound parts) rest

/-- Reads alternatives, all of which must be valid. -/
def strictList? (reader : Reader) (relative inHas : Bool) (ts : List Token) :
    Option (List Complex) :=
  (splitCommas ts).mapM (complex? reader relative inHas)

/-- Reads alternatives and leaves out invalid ones, unless they hold a fault of their own. -/
def forgivingList? (reader : Reader) (inHas : Bool) (ts : List Token) : Option (List Complex) :=
  ((splitCommas ts).mapM fun part =>
    match complex? reader false inHas part with
    | some c => some [c]
    | none => if allSound part then some [] else none).map List.flatten

/-- The reader for alternatives within at most `depth` brackets. -/
def readerFor : Nat → Reader
  | 0 => ⟨fun _ _ _ => none, fun _ _ => none⟩
  | depth + 1 => ⟨strictList? (readerFor depth), forgivingList? (readerFor depth)⟩

/-- Reads a selector. -/
def parse? (css : String) : Option Selector :=
  ((readerFor (css.length + 1)).strict false false (Token.ofText css)).map Selector.mk

end Harvest.Selector
