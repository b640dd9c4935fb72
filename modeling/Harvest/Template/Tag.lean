import Harvest.Json.Reader
import Harvest.Number.Decimal
import Harvest.Template.Basic
import Harvest.Text.CharSet
import Harvest.Text.Split

/-!
# Tags

`Tag.read?` reads one tag in double braces, or in three or four. Blanks may stand between the parts of a
tag. The parts are read without looking back: what an alternative has taken is not given up later.

Every function takes the characters that are left and gives back those behind the part that it has read.
-/

namespace Harvest.Template

/-! ## Characters and references -/

/-- White space within a tag. -/
def isSpace (c : Char) : Bool :=
  c == ' ' || c == '\t' || c == '\n' || c == '\r'

/-- Passes white space. -/
def skipSpace (cs : List Char) : List Char :=
  cs.dropWhile isSpace

/-- The characters of names. -/
def isNameChar (c : Char) : Bool :=
  c.isAlphanum || c == '_' || c == '-' || c == '$' || 0x80 ≤ c.toNat

/-- Passes a given text. -/
def pass? (part : String) (cs : List Char) : Option (List Char) :=
  Text.stripStart? part.toList cs

/-- Passes white space and a given text. -/
def mark? (part : String) (cs : List Char) : Option (List Char) :=
  pass? part (skipSpace cs)

/-- A name. -/
def name? (cs : List Char) : Option (String × List Char) :=
  let name := cs.takeWhile isNameChar
  if name.isEmpty then none else some (String.ofList name, cs.drop name.length)

/-- A full stop or a slash between the steps of a reference. -/
def passSeparator? : List Char → Option (List Char)
  | '.' :: rest => some rest
  | '/' :: rest => some rest
  | _ => none

/-- A step by name; a name in square brackets may hold any characters. The name `this` is no step. -/
def item? (cs : List Char) : Option (List Segment × List Char) :=
  let segment (name : String) : List Segment := if name == "this" then [] else [.name name]
  match cs with
  | '[' :: rest =>
    let name := rest.takeWhile (· != ']')
    match rest.drop name.length with
    | _ :: rest => some (segment (String.ofList name), rest)
    | [] => none
  | _ => (name? cs).map fun (name, rest) => (segment name, rest)

/-- The steps behind the first one. -/
def items : Nat → List Char → List Segment × List Char
  | 0, cs => ([], cs)
  | rounds + 1, cs =>
    match (passSeparator? cs).bind item? with
    | some (segment, rest) =>
      let (more, rest) := items rounds rest
      (segment ++ more, rest)
    | none => ([], cs)

/-- Steps outwards. -/
def ups : Nat → List Char → List Segment × List Char
  | 0, cs => ([], cs)
  | rounds + 1, cs =>
    match (pass? ".." cs).bind passSeparator? with
    | some rest =>
      let (more, rest) := ups rounds rest
      (.up :: more, rest)
    | none => ([], cs)

/-- Passes a start that stands for the innermost block itself. -/
def passHere (cs : List Char) : List Char :=
  match (pass? "this" cs).bind passSeparator? with
  | some rest => rest
  | none => (pass? "./" cs).getD cs

/-- The steps of a reference. -/
def segments? (cs : List Char) : Option (List Segment × List Char) :=
  let cs := passHere cs
  let (root, cs) := match (pass? "@root" cs).bind passSeparator? with
    | some rest => ([Segment.root], rest)
    | none => ([], cs)
  let (marked, cs) := match cs with
    | '@' :: rest => ([Segment.blockVariable], rest)
    | _ => ([], cs)
  let (outwards, cs) := ups cs.length cs
  match item? cs with
  | none => none
  | some (first, cs) =>
    let (more, rest) := items cs.length cs
    some (root ++ marked ++ outwards ++ first ++ more, rest)

/-- What lies between two places of a text, the second of which is given by what is left there. -/
def between (cs rest : List Char) : List Char :=
  cs.take (cs.length - rest.length)

/-- A reference. -/
def reference? (cs : List Char) : Option (Reference × List Char) :=
  (segments? cs).map fun (segments, rest) => (⟨String.ofList (between cs rest), segments⟩, rest)

/-! ## Literals -/

/-- Passes a number. -/
def passNumber? (cs : List Char) : Option (List Char) :=
  let cs := (pass? "-" cs).getD cs
  let whole := cs.takeWhile Number.isDigit
  let rest := cs.drop whole.length
  let rest := match rest with
    | '.' :: more => more.dropWhile Number.isDigit
    | _ => rest
  let rest := match rest with
    | 'E' :: more =>
      let digits := (pass? "-" more).getD more
      if (digits.takeWhile Number.isDigit).isEmpty then rest else digits.dropWhile Number.isDigit
    | _ => rest
  if whole.isEmpty || (rest.head?.any isNameChar) then none else some rest

/-- Passes a word that stands for a value. -/
def passWord? (word : String) (cs : List Char) : Option (List Char) :=
  match pass? word cs with
  | some rest => if rest.head?.any isNameChar then none else some rest
  | none => none

/-- Passes the characters of a text up to the closing quote. -/
def passText? (quote : Char) : List Char → Option (List Char)
  | [] => none
  | '\\' :: 'u' :: a :: b :: c :: d :: rest =>
    if [a, b, c, d].all fun x => (Text.hexValue? x).isSome then passText? quote rest else none
  | '\\' :: c :: rest =>
    if c == quote || ['\\', '/', 'b', 'f', 'n', 'r', 't'].contains c then passText? quote rest
    else none
  | c :: rest => if c == quote then some rest else if c == '\\' then none else passText? quote rest

/-- Passes a text in quotes. -/
def passQuoted? (cs : List Char) : Option (List Char) :=
  match cs with
  | '"' :: rest => passText? '"' rest
  | '\'' :: rest => passText? '\'' rest
  | _ => none

/-- Passes what follows a comma, again and again. -/
def passMore (part : List Char → Option (List Char)) : Nat → List Char → List Char
  | 0, cs => cs
  | rounds + 1, cs =>
    match (mark? "," cs).bind fun rest => part (skipSpace rest) with
    | some rest => passMore part rounds rest
    | none => cs

/-- Passes a key, a colon and a value. -/
def passField? (value : List Char → Option (List Char)) (cs : List Char) : Option (List Char) :=
  ((passQuoted? cs).bind (mark? ":")).bind fun rest => value (skipSpace rest)

/-- Passes a literal; brackets may be nested up to a depth. -/
def passLiteral? : Nat → List Char → Option (List Char)
  | 0, _ => none
  | depth + 1, cs =>
    match cs with
    | '"' :: _ => passQuoted? cs
    | '\'' :: _ => passQuoted? cs
    | '[' :: rest =>
      let first := (passLiteral? depth (skipSpace rest)).getD rest
      mark? "]" (passMore (passLiteral? depth) cs.length first)
    | '\x7b' :: rest =>
      let first := (passField? (passLiteral? depth) (skipSpace rest)).getD rest
      mark? "\x7d" (passMore (passField? (passLiteral? depth)) cs.length first)
    | _ =>
      (passNumber? cs).or <| (passWord? "null" cs).or <| (passWord? "true" cs).or
        (passWord? "false" cs)

/-- A text in single quotes as one in double quotes. -/
def doubleQuoted : List Char → List Char
  | [] => []
  | '\\' :: '\'' :: rest => '\'' :: doubleQuoted rest
  | '"' :: rest => '\\' :: '"' :: doubleQuoted rest
  | c :: rest => c :: doubleQuoted rest

/-- The value of a literal, which has to be JSON but for single quotes. -/
def literalValue? (cs : List Char) : Option Json :=
  let text := match cs with
    | '\'' :: inner => '"' :: (doubleQuoted inner.dropLast ++ ['"'])
    | _ => cs
  (Json.read (String.ofList text)).toOption

/-- A literal. The outer result says whether one stands there, the inner one whether it has a value. -/
def literal? (cs : List Char) : Option (Option Json × List Char) :=
  (passLiteral? (cs.length + 1) cs).map fun rest => (literalValue? (between cs rest), rest)

/-! ## Arguments and calls -/

/-- What follows the name of a helper. A literal without a value is a fault, which counts only once the
whole has been read. -/
structure Arguments where
  positional : List Argument
  options : List (String × Argument)
  faulty : Bool

namespace Arguments

/-- No argument. -/
def none : Arguments := ⟨[], [], false⟩

/-- Adds an argument. -/
def add (a : Arguments) (value : Argument) (faulty : Bool) : Arguments :=
  { a with positional := a.positional ++ [value], faulty := a.faulty || faulty }

/-- Adds an option; the last one of a name counts. -/
def addOption (a : Arguments) (name : String) (value : Argument) (faulty : Bool) : Arguments :=
  { a with
    options := a.options.filter (fun o => o.1 != name) ++ [(name, value)]
    faulty := a.faulty || faulty }

/-- Whether there is nothing. -/
def isEmpty (a : Arguments) : Bool :=
  a.positional.isEmpty && a.options.isEmpty

end Arguments

/-- Whether a word stands here that is no argument, such as `as` before the names of a block. -/
def startsKeyword (cs : List Char) : Bool :=
  let ends (rest : List Char) : Bool := !(skipSpace rest).head?.any isNameChar
  (pass? "as" cs).any ends || (pass? "else" cs).any ends

/-- A reader of an argument, which also says whether it is faulty. -/
abbrev ArgumentReader := List Char → Option (Argument × Bool × List Char)

/-- Reads options and arguments until there is none. -/
def readArguments (argument : ArgumentReader) : Nat → Arguments → List Char →
    Arguments × List Char
  | 0, a, cs => (a, cs)
  | rounds + 1, a, cs =>
    let start := skipSpace cs
    let asOption : Option (String × Argument × Bool × List Char) :=
      match name? start with
      | Option.none => Option.none
      | some (name, rest) =>
        ((mark? "=" rest).bind fun rest => argument (skipSpace rest)).map fun found => (name, found)
    match asOption with
    | some (name, value, faulty, rest) =>
      readArguments argument rounds (a.addOption name value faulty) rest
    | Option.none =>
      match argument start with
      | some (value, faulty, rest) => readArguments argument rounds (a.add value faulty) rest
      | Option.none => (a, cs)

/-- A name with at least one argument. -/
def call? (argument : ArgumentReader) (cs : List Char) :
    Option (String × Arguments × List Char) :=
  match name? cs with
  | some (name, rest) =>
    let (a, rest) := readArguments argument rest.length .none rest
    if a.isEmpty then none else some (name, a, rest)
  | none => none

/-- A call in parentheses; a reference alone is a call of that name. -/
def parenthesised? (argument : ArgumentReader) (cs : List Char) :
    Option (Argument × Bool × List Char) :=
  match pass? "(" cs with
  | none => none
  | some inner =>
    match call? argument (skipSpace inner) with
    | some (name, a, rest) =>
      (mark? ")" rest).map fun rest => (.call name a.positional a.options, a.faulty, rest)
    | none =>
      match reference? (skipSpace inner) with
      | some (r, rest) => (mark? ")" rest).map fun rest => (.call r.source [] [], false, rest)
      | none => none

/-- An argument; parentheses may be nested up to a depth. -/
def argument? : Nat → ArgumentReader
  | 0, _ => none
  | depth + 1, cs =>
    if startsKeyword cs then none
    else match literal? cs with
      | some (some v, rest) => some (.literal v, false, rest)
      | some (none, rest) => some (.literal .null, true, rest)
      | none =>
        match reference? cs with
        | some (r, rest) => some (.reference r, false, rest)
        | none => parenthesised? (argument? depth) cs

/-- The reader of arguments for a tag. -/
def argumentIn (cs : List Char) : ArgumentReader :=
  argument? (cs.length + 1)

/-- A reference or a call in parentheses. -/
def target? (cs : List Char) : Option (Argument × Bool × List Char) :=
  match parenthesised? (argumentIn cs) cs with
  | some found => some found
  | none => (reference? cs).map fun (r, rest) => (.reference r, false, rest)

/-! ## Tags -/

/-- The tags. -/
inductive Tag where
  | show (element : Element)
  | comment
  /-- The start of a block. -/
  | opening (name : String) (arguments : Arguments) (names : List String)
  /-- The start of a block whose content is no template. -/
  | rawOpening (name : String) (arguments : Arguments)
  /-- The start of what stands in the place of another template. -/
  | replacement (name : String)
  /-- The other branch of a block, which may be a block again. -/
  | otherwise (chained : Option (String × Arguments × List String))
  | closing (name : String)
  | rawClosing (name : String)

/-- A tag as it stands in a text. -/
structure PlacedTag where
  tag : Tag
  /-- Whether white space before the tag goes. -/
  trimsBefore : Bool
  /-- Whether white space behind the tag goes. -/
  trimsAfter : Bool
  faulty : Bool
  rest : List Char

/-- The content of a tag with the end of it: whether white space behind goes, and what is left. -/
def ending? (close : String) (cs : List Char) : Option (Bool × List Char) :=
  let (trims, cs) := match mark? "~" cs with
    | some rest => (true, rest)
    | none => (false, cs)
  (mark? close cs).map fun rest => (trims, rest)

/-- The start of a tag: whether white space before goes, and what is left. -/
def beginning? (start : String) (cs : List Char) : Option (Bool × List Char) :=
  (pass? start cs).map fun rest =>
    match mark? "~" rest with
    | some rest => (true, rest)
    | none => (false, rest)

/-- Completes a tag. -/
def complete? (trimsBefore : Bool) (close : String) (tag : Tag) (faulty : Bool)
    (cs : List Char) : Option PlacedTag :=
  (ending? close cs).map fun (trimsAfter, rest) => ⟨tag, trimsBefore, trimsAfter, faulty, rest⟩

/-- The content of a tag that shows something. -/
def shown? (cs : List Char) : Option (Element × Bool × List Char) :=
  match call? (argumentIn cs) cs with
  | some (name, a, rest) => some (.call name a.positional a.options, a.faulty, rest)
  | none => (target? cs).map fun (t, faulty, rest) => (.value t, faulty, rest)

/-- The names that a block gives. -/
def blockNames (cs : List Char) : List String × List Char :=
  match (mark? "as" cs).bind (mark? "|") with
  | none => ([], cs)
  | some rest =>
    match name? (skipSpace rest) with
    | none => ([], cs)
    | some (first, rest) =>
      match name? (skipSpace rest) with
      | some (second, more) => ((mark? "|" more).map fun rest => ([first, second], rest)).getD ([], cs)
      | none => ((mark? "|" rest).map fun rest => ([first], rest)).getD ([], cs)

/-- The head of a block: a name, arguments and the names that it gives. -/
def head? (cs : List Char) : Option ((String × Arguments × List String) × List Char) :=
  match name? cs with
  | none => none
  | some (name, rest) =>
    let (a, rest) := readArguments (argumentIn rest) rest.length .none rest
    let (names, rest) := blockNames rest
    some ((name, a, names), rest)

/-- Passes `else` or a circumflex. -/
def passElse? (cs : List Char) : Option (List Char) :=
  (mark? "else" cs).or (mark? "^" cs)

/-- The other branch of a block, as the end of the chain. -/
def plainOtherwise? (cs : List Char) : Option PlacedTag :=
  match beginning? "\x7b\x7b" cs with
  | none => none
  | some (before, rest) =>
    (passElse? rest).bind (complete? before "\x7d\x7d" (.otherwise none) false)

/-- The other branch of a block, as a block again. -/
def chainedOtherwise? (cs : List Char) : Option PlacedTag :=
  match beginning? "\x7b\x7b" cs with
  | none => none
  | some (before, rest) =>
    match (passElse? rest).bind fun rest => head? (skipSpace rest) with
    | none => none
    | some ((name, a, names), rest) =>
      complete? before "\x7d\x7d" (.otherwise (some (name, a, names))) a.faulty rest

/-- A tag that shows something, in double braces. -/
def plainShow? (cs : List Char) : Option PlacedTag :=
  match beginning? "\x7b\x7b" cs with
  | none => none
  | some (before, rest) =>
    match shown? (skipSpace rest) with
    | none => none
    | some (e, faulty, rest) => complete? before "\x7d\x7d" (.show e) faulty rest

/-- A tag that shows something, in triple braces. -/
def tripleShow? (cs : List Char) : Option PlacedTag :=
  let close := "\x7d\x7d\x7d"
  let legacy : Option PlacedTag :=
    match beginning? "\x7b\x7b\x7b" cs with
    | none => none
    | some (before, rest) =>
      match shown? (skipSpace rest) with
      | none => none
      | some (e, faulty, rest) => complete? before close (.show e) faulty rest
  match legacy with
  | some tag => some tag
  | none =>
    match beginning? "\x7b\x7b" cs with
    | none => none
    | some (before, rest) =>
      match (mark? "\x7b" rest).bind fun rest => shown? (skipSpace rest) with
      | none => none
      | some (e, faulty, rest) =>
        (mark? "\x7d" rest).bind (complete? before "\x7d\x7d" (.show e) faulty)

/-- A tag that shows something, with an ampersand. -/
def ampersandShow? (cs : List Char) : Option PlacedTag :=
  match beginning? "\x7b\x7b" cs with
  | none => none
  | some (before, rest) =>
    match (mark? "&" rest).bind fun rest => target? (skipSpace rest) with
    | none => none
    | some (t, faulty, rest) => complete? before "\x7d\x7d" (.show (.value t)) faulty rest

/-- The start of a block. -/
def opening? (cs : List Char) : Option PlacedTag :=
  match beginning? "\x7b\x7b" cs with
  | none => none
  | some (before, rest) =>
    match (mark? "#" rest).bind fun rest => head? (skipSpace rest) with
    | none => none
    | some ((name, a, names), rest) =>
      complete? before "\x7d\x7d" (.opening name a names) a.faulty rest

/-- The start of a block whose content is no template. -/
def rawOpening? (cs : List Char) : Option PlacedTag :=
  match beginning? "\x7b\x7b\x7b\x7b" cs with
  | none => none
  | some (before, rest) =>
    match head? (skipSpace rest) with
    | none => none
    | some ((name, a, _), rest) =>
      complete? before "\x7d\x7d\x7d\x7d" (.rawOpening name a) a.faulty rest

/-- The end of a block. -/
def closing? (cs : List Char) : Option PlacedTag :=
  match beginning? "\x7b\x7b" cs with
  | none => none
  | some (before, rest) =>
    match (mark? "/" rest).bind fun rest => name? (skipSpace rest) with
    | none => none
    | some (name, rest) => complete? before "\x7d\x7d" (.closing name) false rest

/-- The end of a block whose content is no template. -/
def rawClosing? (cs : List Char) : Option PlacedTag :=
  match beginning? "\x7b\x7b\x7b\x7b" cs with
  | none => none
  | some (before, rest) =>
    match (mark? "/" rest).bind fun rest => name? (skipSpace rest) with
    | none => none
    | some (name, rest) => complete? before "\x7d\x7d\x7d\x7d" (.rawClosing name) false rest

/-- What follows a given text for the first time. -/
def after? (mark : String) : List Char → Option (List Char)
  | [] => none
  | c :: cs =>
    match pass? mark (c :: cs) with
    | some rest => some rest
    | none => after? mark cs

/-- A comment; one that starts with hyphens may hold tags. -/
def comment? (cs : List Char) : Option PlacedTag :=
  let long := (pass? "\x7b\x7b!--" cs).bind (after? "--\x7d\x7d")
  let short := (pass? "\x7b\x7b!" cs).bind (after? "\x7d\x7d")
  (long.or short).map fun rest => ⟨.comment, false, false, false, rest⟩

/-- The name of another template, with arguments for it. -/
def templateName? (cs : List Char) : Option (String × Bool × List Char) :=
  let isPart (c : Char) : Bool := isNameChar c || c == '/' || c == '.'
  let name := (skipSpace cs).takeWhile isPart
  let found :=
    if name.isEmpty then
      (target? (skipSpace cs)).map fun (_, faulty, rest) => ("", faulty, rest)
    else some (String.ofList name, false, (skipSpace cs).drop name.length)
  found.map fun (name, faulty, rest) =>
    let (a, rest) := readArguments (argumentIn rest) rest.length .none rest
    (name, faulty || a.faulty, rest)

/-- A place for another template: with a body that stands there, or without. -/
def inclusion? (cs : List Char) : Option PlacedTag :=
  match beginning? "\x7b\x7b" cs with
  | none => none
  | some (before, rest) =>
    match (mark? ">" rest).bind templateName? with
    | some (_, faulty, rest) => complete? before "\x7d\x7d" (.show .missing) faulty rest
    | none =>
      match ((mark? "#" rest).bind (mark? ">")).bind templateName? with
      | some (name, faulty, rest) => complete? before "\x7d\x7d" (.replacement name) faulty rest
      | none => none

/-- Reads the tag at the start of a text. -/
def Tag.read? (cs : List Char) : Option PlacedTag :=
  (plainOtherwise? cs).or <| (chainedOtherwise? cs).or <| (plainShow? cs).or <|
    (tripleShow? cs).or <| (ampersandShow? cs).or <| (opening? cs).or <| (rawOpening? cs).or <|
    (comment? cs).or <| (inclusion? cs).or (closing? cs)

end Harvest.Template
