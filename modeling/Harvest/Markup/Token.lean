import Harvest.Markup.Entity
import Harvest.Text.Casing
import Harvest.Text.Split

/-!
# Tokens of a page

`Token.next` takes one token off the front of a page. What counts as markup depends on the
`Content` that the element before it has: ordinary content, text with or without references, script,
or plain text to the end. Nothing is refused: whatever is no well-formed markup is text, a comment, or
is dropped at the end of the page.
-/

namespace Harvest.Markup

/-- Name and value of an attribute. -/
abbrev Attribute := String × String

/-- A document type declaration. -/
structure Doctype where
  name : Option String
  publicId : Option String
  systemId : Option String
  /-- Whether the declaration is broken. -/
  forceQuirks : Bool
  deriving Repr

/-- A start or end tag. -/
structure Tag where
  name : String
  attributes : List Attribute
  selfClosing : Bool
  deriving Repr

/-- A token. -/
inductive Token where
  | doctype (declaration : Doctype)
  | startTag (tag : Tag)
  | endTag (tag : Tag)
  | comment (text : List Char)
  /-- Text without null characters, all of it white space or none of it. -/
  | text (blank : Bool) (characters : List Char)
  | nullCharacter
  | endOfPage
  deriving Repr

/-- What counts as markup. -/
inductive Content where
  | ordinary
  /-- Text with references, up to the end tag of the given element. -/
  | escapable (name : String)
  /-- Text without references, up to the end tag of the given element. -/
  | raw (name : String)
  | script
  | plain
  deriving DecidableEq, Repr

/-- White space of the markup. -/
def isSpace (c : Char) : Bool :=
  c == ' ' || c == '\n' || c == '\t' || c == '\x0c' || c == '\r'

/-- An ASCII letter. -/
def isLetter (c : Char) : Bool :=
  ('a' ≤ c && c ≤ 'z') || ('A' ≤ c && c ≤ 'Z')

/-- Line ends as single line feeds. -/
def unifyLines : List Char → List Char
  | [] => []
  | '\r' :: '\n' :: rest => '\n' :: unifyLines rest
  | '\r' :: rest => '\n' :: unifyLines rest
  | c :: rest => c :: unifyLines rest

/-- The text of a page as its tokens see it: without a byte order mark, and with line feeds as line
ends. -/
def pageText (s : String) : List Char :=
  match s.toList with
  | '\uFEFF' :: rest => unifyLines rest
  | cs => unifyLines cs

/-- A null character stands for the replacement character wherever it is kept. -/
def replaceNull (c : Char) : Char :=
  if c = '\x00' then '\uFFFD' else c

/-! ## Tags -/

/-- Whether a character ends the name of a tag. -/
def endsName (c : Char) : Bool :=
  isSpace c || c == '/' || c == '>'

/-- A name in lower case. -/
def nameOf (cs : List Char) : String :=
  String.ofList (cs.map fun c => replaceNull (Text.Casing.asciiLower c))

/-- An attribute value up to a character that satisfies `ends`, with its references read. Nothing if
the page ends before. Each round takes at least one character. -/
def takeValue (ends : Char → Bool) : Nat → List Char → List Char → Option (List Char × List Char)
  | 0, _, _ => none
  | _ + 1, _, [] => none
  | rounds + 1, acc, c :: cs =>
    if ends c then some (acc.reverse, c :: cs)
    else if c = '&' then
      match Entity.read? true cs with
      | some (value, rest) => takeValue ends rounds (value.reverse ++ acc) rest
      | none => takeValue ends rounds ('&' :: acc) cs
    else takeValue ends rounds (replaceNull c :: acc) cs

/-- The value of an attribute after its equals sign. -/
def takeAttributeValue (cs : List Char) : Option (List Char × List Char) :=
  match cs.dropWhile isSpace with
  | '"' :: rest =>
    (takeValue (· == '"') (rest.length + 1) [] rest).map fun r => (r.1, r.2.tail)
  | '\x27' :: rest =>
    (takeValue (· == '\x27') (rest.length + 1) [] rest).map fun r => (r.1, r.2.tail)
  | '>' :: rest => some ([], '>' :: rest)
  | rest => takeValue (fun c => isSpace c || c == '>') (rest.length + 1) [] rest

/-- One attribute whose name begins with the first character, whatever that is. -/
def takeAttribute (first : Char) (cs : List Char) : Option (Attribute × List Char) :=
  let endsHere (c : Char) : Bool := endsName c || c == '='
  let name := nameOf (first :: cs.takeWhile fun c => !endsHere c)
  let rest := cs.dropWhile fun c => !endsHere c
  match rest.dropWhile isSpace with
  | '=' :: after =>
    (takeAttributeValue after).map fun r => ((name, String.ofList r.1), r.2)
  | [] => none
  | after => some ((name, ""), after)

/-- Adds an attribute, unless there is one of its name. -/
def addAttribute (attributes : List Attribute) (a : Attribute) : List Attribute :=
  if attributes.any fun b => b.1 == a.1 then attributes else attributes ++ [a]

/-- The attributes of a tag and whether a slash closes it; nothing if the page ends within the tag.
Each round takes at least one character. -/
def takeAttributes : Nat → List Attribute → List Char →
    Option (List Attribute × Bool × List Char)
  | 0, _, _ => none
  | rounds + 1, acc, cs =>
    match cs.dropWhile isSpace with
    | [] => none
    | '>' :: rest => some (acc, false, rest)
    | '/' :: '>' :: rest => some (acc, true, rest)
    | '/' :: rest => takeAttributes rounds acc rest
    | c :: rest =>
      match takeAttribute c rest with
      | none => none
      | some (a, rest) => takeAttributes rounds (addAttribute acc a) rest

/-- A tag whose name begins with the first character. -/
def takeTag (cs : List Char) : Option (Tag × List Char) :=
  let name := nameOf (cs.takeWhile fun c => !endsName c)
  (takeAttributes (cs.length + 1) [] (cs.dropWhile fun c => !endsName c)).map
    fun r => (⟨name, r.1, r.2.1⟩, r.2.2)

/-! ## Comments and declarations -/

/-- Where a comment stands. -/
inductive CommentPlace where
  /-- Nothing has been read. -/
  | start
  /-- One hyphen has been read, and nothing before it. -/
  | startDash
  | inside
  /-- A hyphen has been read. -/
  | dash
  /-- Two hyphens have been read. -/
  | dashes
  /-- Two hyphens and an exclamation mark have been read. -/
  | bang

/-- The text of a comment, the last character first, and what follows it. -/
def takeComment (acc : List Char) : CommentPlace → List Char → List Char × List Char
  | _, [] => (acc, [])
  | .start, c :: cs =>
    if c = '-' then takeComment acc .startDash cs
    else if c = '>' then (acc, cs)
    else takeComment (replaceNull c :: acc) .inside cs
  | .startDash, c :: cs =>
    if c = '-' then takeComment acc .dashes cs
    else if c = '>' then (acc, cs)
    else takeComment (replaceNull c :: '-' :: acc) .inside cs
  | .inside, c :: cs =>
    if c = '-' then takeComment acc .dash cs else takeComment (replaceNull c :: acc) .inside cs
  | .dash, c :: cs =>
    if c = '-' then takeComment acc .dashes cs
    else takeComment (replaceNull c :: '-' :: acc) .inside cs
  | .dashes, c :: cs =>
    if c = '>' then (acc, cs)
    else if c = '!' then takeComment acc .bang cs
    else if c = '-' then takeComment ('-' :: acc) .dashes cs
    else takeComment (replaceNull c :: '-' :: '-' :: acc) .inside cs
  | .bang, c :: cs =>
    if c = '>' then (acc, cs)
    else if c = '-' then takeComment ('!' :: '-' :: '-' :: acc) .dash cs
    else takeComment (replaceNull c :: '!' :: '-' :: '-' :: acc) .inside cs

/-- A comment that any closing angle bracket ends. -/
def takeBogusComment (cs : List Char) : Token × List Char :=
  let (content, rest) := Text.cutAt (· == '>') cs
  (.comment (content.map replaceNull), rest.getD [])

/-- A quoted identifier of a declaration: its text, whether it was closed by its quote, and what
follows it. -/
def takeIdentifier (quote : Char) (cs : List Char) : String × Bool × List Char :=
  let stops (c : Char) : Bool := c == quote || c == '>'
  let content := String.ofList ((cs.takeWhile fun c => !stops c).map replaceNull)
  match cs.dropWhile fun c => !stops c with
  | [] => (content, false, [])
  | c :: rest => if c = quote then (content, true, rest) else (content, false, '>' :: rest)

/-- Whether a character is a quote. -/
def isQuote (c : Char) : Bool :=
  c == '"' || c == '\x27'

/-- Leaves a declaration at its closing angle bracket. -/
def leaveDeclaration (d : Doctype) (cs : List Char) : Token × List Char :=
  (.doctype d, (cs.dropWhile (· != '>')).tail)

/-- Reads a declaration from the white space behind its system identifier on. -/
def takeDoctypeEnd (d : Doctype) (cs : List Char) : Token × List Char :=
  match cs.dropWhile isSpace with
  | [] => (.doctype { d with forceQuirks := true }, [])
  | rest => leaveDeclaration d rest

/-- Reads the system identifier of a declaration; it must be there if `required`. -/
def takeSystemId (required : Bool) (d : Doctype) (cs : List Char) : Token × List Char :=
  let broken := { d with forceQuirks := true }
  match cs.dropWhile isSpace with
  | [] => (.doctype broken, [])
  | '>' :: rest => (.doctype (if required then broken else d), rest)
  | c :: rest =>
    if isQuote c then
      let (id, closed, rest) := takeIdentifier c rest
      let d := { d with systemId := some id }
      if closed then takeDoctypeEnd d rest
      else leaveDeclaration { d with forceQuirks := true } rest
    else leaveDeclaration broken (c :: rest)

/-- Reads the public identifier of a declaration. -/
def takePublicId (d : Doctype) (cs : List Char) : Token × List Char :=
  let broken := { d with forceQuirks := true }
  match cs.dropWhile isSpace with
  | [] => (.doctype broken, [])
  | '>' :: rest => (.doctype broken, rest)
  | c :: rest =>
    if isQuote c then
      let (id, closed, rest) := takeIdentifier c rest
      let d := { d with publicId := some id }
      if closed then takeSystemId false d rest
      else leaveDeclaration { d with forceQuirks := true } rest
    else leaveDeclaration broken (c :: rest)

/-- What follows a word in a text, whatever the case of its letters. -/
def stripWord? (word : List Char) (cs : List Char) : Option (List Char) :=
  if (cs.take word.length).map Text.Casing.asciiLower == word then some (cs.drop word.length)
  else none

/-- Reads a declaration from behind its keyword on. -/
def takeDoctype (cs : List Char) : Token × List Char :=
  let nothing : Doctype := ⟨none, none, none, true⟩
  match cs.dropWhile isSpace with
  | [] => (.doctype nothing, [])
  | '>' :: rest => (.doctype nothing, rest)
  | cs =>
    let stops (c : Char) : Bool := isSpace c || c == '>'
    let name := nameOf (cs.takeWhile fun c => !stops c)
    let d : Doctype := ⟨some name, none, none, false⟩
    match (cs.dropWhile fun c => !stops c).dropWhile isSpace with
    | [] => (.doctype { d with forceQuirks := true }, [])
    | '>' :: rest => (.doctype d, rest)
    | rest =>
      match stripWord? "public".toList rest with
      | some rest => takePublicId d rest
      | none =>
        match stripWord? "system".toList rest with
        | some rest => takeSystemId true d rest
        | none => leaveDeclaration { d with forceQuirks := true } rest

/-! ## Text -/

/-- Whether a text begins with the end tag of an element, behind its angle bracket. -/
def beginsEndTag (name : String) (cs : List Char) : Bool :=
  match cs with
  | '/' :: rest =>
    match stripWord? name.toList rest with
    | some (c :: _) => endsName c
    | _ => false
  | _ => false

/-- Where a script stands. -/
inductive ScriptPlace where
  | plain
  /-- Behind a comment opening, after the given number of hyphens. -/
  | escaped (dashes : Nat)
  /-- Within a script element inside such a comment. -/
  | nested (dashes : Nat)

/-- The place after a character that is no angle bracket. -/
def ScriptPlace.after (p : ScriptPlace) (c : Char) : ScriptPlace :=
  match p with
  | .plain => .plain
  | .escaped n =>
    if c = '-' then .escaped (n + 1) else if c = '>' && 2 ≤ n then .plain else .escaped 0
  | .nested n =>
    if c = '-' then .nested (n + 1) else if c = '>' && 2 ≤ n then .plain else .nested 0

/-- Whether a text begins with the start tag of a script, behind its angle bracket. -/
def beginsScript (cs : List Char) : Bool :=
  match stripWord? "script".toList cs with
  | some (c :: _) => endsName c
  | _ => false

/-- The text of a script, the last character first, and what follows it. -/
def takeScript (acc : List Char) : ScriptPlace → List Char → List Char × List Char
  | _, [] => (acc, [])
  | p, '<' :: cs =>
    match p with
    | .plain =>
      if beginsEndTag "script" cs then (acc, '<' :: cs)
      else takeScript ('<' :: acc)
        (if (Text.stripStart? ['!', '-', '-'] cs).isSome then .escaped 0 else .plain) cs
    | .escaped _ =>
      if beginsEndTag "script" cs then (acc, '<' :: cs)
      else takeScript ('<' :: acc) (if beginsScript cs then .nested 0 else .escaped 0) cs
    | .nested _ =>
      takeScript ('<' :: acc) (if beginsEndTag "script" cs then .escaped 0 else .nested 0) cs
  | p, c :: cs => takeScript (replaceNull c :: acc) (p.after c) cs

/-- The text without references up to the end tag of an element, the last character first, and what
follows it. -/
def takeRaw (name : String) (acc : List Char) : List Char → List Char × List Char
  | [] => (acc, [])
  | '<' :: cs =>
    if beginsEndTag name cs then (acc, '<' :: cs) else takeRaw name ('<' :: acc) cs
  | c :: cs => takeRaw name (replaceNull c :: acc) cs

/-- The text with references up to the end tag of an element, the last character first, and what
follows it. Each round takes at least one character. -/
def takeEscapable (name : String) : Nat → List Char → List Char → List Char × List Char
  | 0, acc, cs => (acc, cs)
  | _ + 1, acc, [] => (acc, [])
  | rounds + 1, acc, '<' :: cs =>
    if beginsEndTag name cs then (acc, '<' :: cs) else takeEscapable name rounds ('<' :: acc) cs
  | rounds + 1, acc, '&' :: cs =>
    match Entity.read? false cs with
    | some (value, rest) => takeEscapable name rounds (value.reverse ++ acc) rest
    | none => takeEscapable name rounds ('&' :: acc) cs
  | rounds + 1, acc, c :: cs => takeEscapable name rounds (replaceNull c :: acc) cs

/-- The text of a character data section and what follows it. -/
def takeSection (acc : List Char) : List Char → List Char × List Char
  | [] => (acc.reverse, [])
  | ']' :: ']' :: '>' :: rest => (acc.reverse, rest)
  | c :: rest => takeSection (c :: acc) rest

/-- Text as tokens: runs of white space, runs of other characters, and null characters. -/
def textTokens (cs : List Char) : List Token :=
  (cs.splitBy fun a b => a != '\x00' && b != '\x00' && isSpace a == isSpace b).map fun run =>
    match run with
    | '\x00' :: _ => .nullCharacter
    | c :: _ => .text (isSpace c) run
    | [] => .text true []

/-! ## The next token -/

/-- A tag behind its angle bracket and slash; at the end of the page there is none. -/
def tagTokens (wrap : Tag → Token) (cs : List Char) : List Token × List Char :=
  match takeTag cs with
  | some (tag, rest) => ([wrap tag], rest)
  | none => ([], [])

/-- Markup behind an angle bracket and an exclamation mark. -/
def declarationTokens (sections : Bool) (cs : List Char) : List Token × List Char :=
  match cs with
  | '-' :: '-' :: rest =>
    let (content, rest) := takeComment [] .start rest
    ([.comment content.reverse], rest)
  | _ =>
    match stripWord? "doctype".toList cs with
    | some rest =>
      let (token, rest) := takeDoctype rest
      ([token], rest)
    | none =>
      match Text.stripStart? "[CDATA[".toList cs, sections with
      | some rest, true =>
        let (content, rest) := takeSection [] rest
        (textTokens content, rest)
      | _, _ =>
        let (token, rest) := takeBogusComment cs
        ([token], rest)

/-- Markup behind an angle bracket. -/
def markupTokens (sections : Bool) (cs : List Char) : List Token × List Char :=
  match cs with
  | '!' :: rest => declarationTokens sections rest
  | '?' :: _ =>
    let (token, rest) := takeBogusComment cs
    ([token], rest)
  | '/' :: c :: rest =>
    if isLetter c then tagTokens .endTag (c :: rest)
    else if c = '>' then ([], rest)
    else
      let (token, rest) := takeBogusComment (c :: rest)
      ([token], rest)
  | c :: _ => if isLetter c then tagTokens .startTag cs else ([.text false ['<']], cs)
  | [] => ([.text false ['<']], [])

/-- The next tokens of a page that is not at its end: one piece of markup, or text up to the next.
`sections` says whether character data sections are known. -/
def nextTokens (content : Content) (sections : Bool) (cs : List Char) :
    List Token × List Char :=
  match content with
  | .plain => (textTokens (cs.map replaceNull), [])
  | .raw name =>
    match takeRaw name [] cs with
    | ([], '<' :: '/' :: rest) => tagTokens .endTag rest
    | (acc, rest) => (textTokens acc.reverse, rest)
  | .escapable name =>
    match takeEscapable name (cs.length + 1) [] cs with
    | ([], '<' :: '/' :: rest) => tagTokens .endTag rest
    | (acc, rest) => (textTokens acc.reverse, rest)
  | .script =>
    match takeScript [] .plain cs with
    | ([], '<' :: '/' :: rest) => tagTokens .endTag rest
    | (acc, rest) => (textTokens acc.reverse, rest)
  | .ordinary =>
    match cs with
    | '<' :: rest => markupTokens sections rest
    | '&' :: rest =>
      match Entity.read? false rest with
      | some (value, rest) => (textTokens value, rest)
      | none => ([.text false ['&']], rest)
    | _ =>
      let isText (c : Char) : Bool := c != '<' && c != '&'
      (textTokens (cs.takeWhile isText), cs.dropWhile isText)

end Harvest.Markup
