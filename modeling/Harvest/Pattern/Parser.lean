import Harvest.Number.Decimal
import Harvest.Pattern.Space
import Harvest.Text.Clean
import Harvest.Text.Split

/-!
# Reading patterns

`Expr.ofText?` reads a pattern, if the text is one. Patterns are regular: there are no references back
and no conditions on what lies ahead or behind, apart from the ones in `Look`.

A pattern is read from left to right with a stack of open groups, a bracketed class with a stack of
open brackets. Every step takes at least one character.
-/

namespace Harvest.Pattern

/-- How the rest of a group is read. -/
structure Flags where
  caseless : Bool
  multiLine : Bool
  dotAll : Bool
  swapGreed : Bool
  unicode : Bool
  anyLineEnd : Bool
  /-- White space and remarks do not count. -/
  spaced : Bool
  deriving Repr

namespace Flags

/-- The flags at the start of a pattern. -/
def initial : Flags := ⟨false, false, false, false, true, false, false⟩

/-- How letter case counts. -/
def folding (f : Flags) : Folding :=
  if !f.caseless then .exact else if f.unicode then .full else .ascii

/-- Sets the flag that a letter stands for. -/
def set? (f : Flags) (letter : Char) (on : Bool) : Option Flags :=
  match letter with
  | 'i' => some { f with caseless := on }
  | 'm' => some { f with multiLine := on }
  | 's' => some { f with dotAll := on }
  | 'U' => some { f with swapGreed := on }
  | 'u' => some { f with unicode := on }
  | 'R' => some { f with anyLineEnd := on }
  | 'x' => some { f with spaced := on }
  | _ => none

end Flags

/-! ## White space and remarks -/

/-- Passes white space and remarks; `within` says that a remark is open. -/
def skipRemarks (within : Bool) : List Char → List Char
  | [] => []
  | c :: cs =>
    if within then skipRemarks (c != '\n') cs
    else if Text.isBlank c then skipRemarks false cs
    else if c = '#' then skipRemarks true cs
    else c :: cs

/-- Passes what does not count. -/
def skipSpace (f : Flags) (cs : List Char) : List Char :=
  if f.spaced then skipRemarks false cs else cs

/-- The next character that counts, as far as the end of a class range is concerned: at most one mark
of a remark is passed. -/
def peekSpace (f : Flags) (cs : List Char) : Option Char :=
  if !f.spaced then cs.head?
  else match cs.dropWhile Text.isBlank with
    | '#' :: rest => (rest.dropWhile Text.isBlank).head?
    | rest => rest.head?

/-- The characters that satisfy `p`, with what does not count between them left out. Each takes at
least one character. -/
def gather (f : Flags) (p : Char → Bool) : Nat → List Char → List Char × List Char
  | 0, cs => ([], cs)
  | _ + 1, [] => ([], [])
  | rounds + 1, c :: cs =>
    if p c then
      let (more, rest) := gather f p rounds (skipSpace f cs)
      (c :: more, rest)
    else ([], c :: cs)

/-! ## Escapes -/

/-- What an escape or a plain character stands for. -/
inductive Atom where
  /-- A character; `byte` marks one that is written as two hexadecimal digits. -/
  | char (c : Char) (byte : Bool)
  | set (value : Class)
  | look (condition : Look)

/-- Characters with a meaning of their own. -/
def isMeta (c : Char) : Bool :=
  ['\\', '.', '+', '*', '?', '(', ')', '|', '[', ']', '\x7b', '\x7d', '^', '$', '#', '&', '-',
   '~'].contains c

/-- Characters that stand for themselves behind a backslash. -/
def isEscapable (c : Char) : Bool :=
  isMeta c || (c.toNat < 0x80 && !c.isAlphanum && c != '<' && c != '>')

/-- The character that hexadecimal digits stand for. -/
def hexChar? (ds : List Char) : Option Char :=
  let n := ds.foldl (fun n d => n * 16 + (Text.hexValue? d).getD 0) 0
  if h : n.isValidChar then some (Char.ofNatAux n h) else none

/-- Whether a character is a hexadecimal digit. -/
def isHex (c : Char) : Bool :=
  (Text.hexValue? c).isSome

/-- Exactly `count` hexadecimal digits. -/
def hexDigits? (f : Flags) : Nat → List Char → Option (List Char × List Char)
  | 0, cs => some ([], cs)
  | _ + 1, [] => none
  | count + 1, c :: cs =>
    if isHex c then
      (hexDigits? f count (skipSpace f cs)).map fun (ds, rest) => (c :: ds, rest)
    else none

/-- A character by its code point, with `count` digits or in braces. -/
def hexAtom? (f : Flags) (count : Nat) (cs : List Char) : Option (Atom × List Char) :=
  match skipSpace f cs with
  | '\x7b' :: rest =>
    match gather f (· != '\x7d') rest.length (skipSpace f rest) with
    | (ds, _ :: rest) =>
      if ds.isEmpty || !ds.all isHex then none
      else (hexChar? ds).map fun c => (.char c false, skipSpace f rest)
    | (_, []) => none
  | rest =>
    match hexDigits? f count rest with
    | some (ds, rest) => (hexChar? ds).map fun c => (.char c (count == 2), rest)
    | none => none

/-- A class by a property. -/
def propertyAtom? (f : Flags) (negated : Bool) (cs : List Char) : Option (Atom × List Char) :=
  if !f.unicode then none
  else match skipSpace f cs with
    | [] => none
    | '\x7b' :: rest =>
      match gather f (· != '\x7d') rest.length (skipSpace f rest) with
      | (name, _ :: rest) => (Class.ofProperty? name negated).map fun s => (.set s, rest)
      | (_, []) => none
    | '\\' :: _ => none
    | c :: rest => (Class.ofProperty? [c] negated).map fun s => (.set s, skipSpace f rest)

/-- Letters and hyphens, which name kinds of word boundaries. -/
def isBoundaryName (c : Char) : Bool :=
  c.isAlpha || c == '-'

/-- A word boundary; its kind may follow in braces, unless a number stands there. -/
def boundaryAtom? (f : Flags) (cs : List Char) : Option (Atom × List Char) :=
  match cs with
  | '\x7b' :: rest =>
    match skipSpace f rest with
    | [] => none
    | c :: inner =>
      if !isBoundaryName c then some (.look (.wordBoundary f.unicode), cs)
      else match gather f isBoundaryName (c :: inner).length (c :: inner) with
        | (name, '\x7d' :: rest) =>
          match String.ofList name with
          | "start" => some (.look (.wordStart f.unicode), rest)
          | "end" => some (.look (.wordEnd f.unicode), rest)
          | "start-half" => some (.look (.halfStart f.unicode), rest)
          | "end-half" => some (.look (.halfEnd f.unicode), rest)
          | _ => none
        | _ => none
  | _ => some (.look (.wordBoundary f.unicode), cs)

/-- What stands behind a backslash. -/
def escape? (f : Flags) : List Char → Option (Atom × List Char)
  | [] => none
  | c :: cs =>
    if isEscapable c then some (.char c false, cs)
    else match c with
      | 'x' => hexAtom? f 2 cs
      | 'u' => hexAtom? f 4 cs
      | 'U' => hexAtom? f 8 cs
      | 'p' => propertyAtom? f false cs
      | 'P' => propertyAtom? f true cs
      | 'a' => some (.char '\x07' false, cs)
      | 'f' => some (.char '\x0c' false, cs)
      | 't' => some (.char '\t' false, cs)
      | 'n' => some (.char '\n' false, cs)
      | 'r' => some (.char '\r' false, cs)
      | 'v' => some (.char '\x0b' false, cs)
      | 'A' => some (.look .textStart, cs)
      | 'z' => some (.look .textEnd, cs)
      | 'b' => boundaryAtom? f cs
      | 'B' => some (.look (.noWordBoundary f.unicode), cs)
      | '<' => some (.look (.wordStart f.unicode), cs)
      | '>' => some (.look (.wordEnd f.unicode), cs)
      | 'D' => negatedSet? 'd' cs
      | 'S' => negatedSet? 's' cs
      | 'W' => negatedSet? 'w' cs
      | _ => (Class.ofLetter? c f.unicode false).map fun s => (.set s, cs)
where
  /-- The complement of a class of one letter; without Unicode it would not be made of characters. -/
  negatedSet? (letter : Char) (cs : List Char) : Option (Atom × List Char) :=
    if f.unicode then (Class.ofLetter? letter true true).map fun s => (.set s, cs) else none

/-! ## Bracketed classes -/

/-- What a set operation does with the classes on both sides. -/
abbrev SetOperation := Class → Class → Class

/-- An open bracket. -/
structure Level where
  negated : Bool
  /-- The operation that waits for its right side, with its left side. -/
  pending : Option (SetOperation × Class)
  /-- The parts read since, the last one first. -/
  parts : List Class

namespace Level

/-- The class that the parts make up. -/
def content (l : Level) : Class :=
  let right := match l.parts with
    | [part] => part
    | parts => if parts.isEmpty then .named [] false false else .union parts.reverse
  match l.pending with
  | some (operation, left) => operation left right
  | none => right

/-- Adds a part. -/
def push (l : Level) (part : Class) : Level :=
  { l with parts := part :: l.parts }

/-- Starts the right side of an operation. -/
def operate (l : Level) (operation : SetOperation) : Level :=
  ⟨l.negated, some (operation, l.content), []⟩

end Level

/-- Hyphens at the start of a bracket; they stand for themselves. -/
def leadingHyphens (f : Flags) (l : Level) : Nat → List Char → Level × List Char
  | 0, cs => (l, cs)
  | rounds + 1, cs =>
    match cs with
    | '-' :: rest => leadingHyphens f (l.push (.char '-')) rounds (skipSpace f rest)
    | _ => (l, cs)

/-- What stands behind an opening bracket: a mark of negation, hyphens, and a closing bracket that
stands for itself. Without Unicode a negated class would not be made of characters. -/
def openLevel? (f : Flags) (cs : List Char) : Option (Level × List Char) :=
  let (negated, cs) := match skipSpace f cs with
    | '^' :: rest => (true, skipSpace f rest)
    | rest => (false, rest)
  if negated && !f.unicode then none
  else
    let (level, cs) := leadingHyphens f ⟨negated, none, []⟩ cs.length cs
    match cs with
    | ']' :: rest =>
      if level.parts.isEmpty then some (level.push (.char ']'), skipSpace f rest)
      else some (level, cs)
    | _ => some (level, cs)

/-- A named ASCII class within a bracket, with what stands behind it. -/
def asciiClass? (cs : List Char) : Option (Class × List Char) :=
  match cs with
  | '[' :: ':' :: rest =>
    let (negated, rest) := match rest with
      | '^' :: more => (true, more)
      | _ => (false, rest)
    let name := rest.takeWhile (· != ':')
    match rest.drop name.length with
    | ':' :: ']' :: after =>
      (Class.asciiTable? (String.ofList name)).map fun t => (.named [t] negated true, after)
    | _ => none
  | _ => none

/-- Whether a character may stand in a class: without Unicode only ASCII does. -/
def mayStand (f : Flags) (c : Char) : Bool :=
  f.unicode || c.toNat < 0x80

/-- A character or a class within a bracket. -/
def classItem? (f : Flags) : List Char → Option (Atom × List Char)
  | [] => none
  | '\\' :: rest => escape? f rest
  | c :: rest => some (.char c false, rest)

/-- A character, a range or a class within a bracket. -/
def classRange? (f : Flags) (cs : List Char) : Option (Class × List Char) :=
  match classItem? f cs with
  | none => none
  | some (first, rest) =>
    match skipSpace f rest with
    | [] => none
    | '-' :: after =>
      if peekSpace f after == some ']' || peekSpace f after == some '-' then
        (alone? first).map fun s => (s, '-' :: after)
      else match classItem? f (skipSpace f after), first with
        | some (.char high _, rest), .char low _ =>
          if low ≤ high && mayStand f low && mayStand f high then some (.range low high, rest)
          else none
        | _, _ => none
    | rest => (alone? first).map fun s => (s, rest)
where
  /-- What an item stands for when it is no end of a range. -/
  alone? : Atom → Option Class
    | .char c _ => if mayStand f c then some (.char c) else none
    | .set s => some s
    | .look _ => none

/-- Reads on until the outermost open bracket is closed. -/
def readClass (f : Flags) : Nat → Level → List Level → List Char → Option (Class × List Char)
  | 0, _, _, _ => none
  | rounds + 1, level, outer, cs =>
    match skipSpace f cs with
    | [] => none
    | '[' :: rest =>
      match asciiClass? ('[' :: rest) with
      | some (.named tables negated folds, after) =>
        if negated && !f.unicode then none
        else readClass f rounds (level.push (.named tables negated folds)) outer after
      | _ =>
        match openLevel? f rest with
        | some (inner, rest) => readClass f rounds inner (level :: outer) rest
        | none => none
    | ']' :: rest =>
      let closed := Class.bracket level.negated level.content
      match outer with
      | [] => some (closed, rest)
      | around :: outer => readClass f rounds (around.push closed) outer rest
    | '&' :: '&' :: rest => readClass f rounds (level.operate .both) outer rest
    | '-' :: '-' :: rest => readClass f rounds (level.operate .without) outer rest
    | '~' :: '~' :: rest => readClass f rounds (level.operate .either) outer rest
    | cs =>
      match classRange? f cs with
      | some (part, rest) => readClass f rounds (level.push part) outer rest
      | none => none

/-- The class behind an opening bracket. -/
def bracketClass? (f : Flags) (cs : List Char) : Option (Class × List Char) :=
  match openLevel? f cs with
  | some (level, rest) => readClass f (cs.length + 1) level [] rest
  | none => none

/-! ## Groups -/

/-- An open group, with what stands before it. -/
structure OpenGroup where
  captures : Bool
  /-- Whether it is the first that captures. -/
  first : Bool
  /-- The flags around it. -/
  flags : Flags
  /-- The finished alternatives around it, the last one first. -/
  alternatives : List Expr
  /-- The parts of the alternative around it, the last one first. -/
  parts : List Expr

/-- A pattern that has been read in part. -/
structure Reading where
  /-- Whether there has been a group that captures. -/
  captured : Bool
  /-- The names of groups. -/
  names : List (List Char)
  flags : Flags
  /-- The finished alternatives of the innermost open group, the last one first. -/
  alternatives : List Expr
  /-- The parts of the alternative under construction, the last one first. -/
  parts : List Expr
  outer : List OpenGroup

namespace Reading

/-- Nothing has been read. -/
def start : Reading := ⟨false, [], .initial, [], [], []⟩

/-- Adds a part. -/
def push (r : Reading) (e : Expr) : Reading :=
  { r with parts := e :: r.parts }

/-- What the innermost open group holds. -/
def content (r : Reading) : Expr :=
  .ofAlternatives (r.alternatives.reverse ++ [.ofParts r.parts.reverse])

/-- Opens a group. -/
def openWith (r : Reading) (captures : Bool) (inner : Flags) : Reading :=
  { r with
    captured := r.captured || captures
    flags := inner
    alternatives := []
    parts := []
    outer := ⟨captures, captures && !r.captured, r.flags, r.alternatives, r.parts⟩ :: r.outer }

/-- Closes the innermost open group. One that does not capture is a sequence. -/
def close? (r : Reading) : Option Reading :=
  match r.outer with
  | [] => none
  | g :: outer =>
    some { r with
      flags := g.flags
      alternatives := g.alternatives
      parts := (if g.captures then .group g.first r.content else .sequence [r.content]) :: g.parts
      outer := outer }

/-- Adds a part that stands for a character. -/
def pushChar? (r : Reading) (c : Char) (byte : Bool) : Option Reading :=
  if byte && !r.flags.unicode && 0x7F < c.toNat then none
  else some (r.push (.one (.char c) r.flags.folding))

/-- Adds what an escape or a character stands for. -/
def pushAtom? (r : Reading) : Atom → Option Reading
  | .char c byte => r.pushChar? c byte
  | .set s => some (r.push (.one s r.flags.folding))
  | .look l => some (r.push (.look l))

/-- Repeats the last part. -/
def repeat? (r : Reading) (least : Nat) (most : Option Nat) (greedy : Bool) : Option Reading :=
  match r.parts with
  | [] => none
  | .empty :: _ => none
  | e :: before =>
    some { r with parts := .repeated e least most (greedy != r.flags.swapGreed) :: before }

end Reading

/-- The flags behind a question mark, up to the character that ends them. -/
def readFlags? (on hyphenLast : Bool) (seen : List Char) (f : Flags) :
    List Char → Option (Flags × Bool × Char × List Char)
  | [] => none
  | c :: cs =>
    if c = ':' || c = ')' then
      if hyphenLast then none else some (f, !seen.isEmpty, c, cs)
    else if seen.contains c then none
    else if c = '-' then readFlags? false true (c :: seen) f cs
    else match f.set? c on with
      | some g => readFlags? on false (c :: seen) g cs
      | none => none

/-- Whether a character may stand in the name of a group. -/
def isNameChar (first : Bool) (c : Char) : Bool :=
  if first then c == '_' || Text.Property.isAlphabetic c
  else c == '_' || c == '.' || c == '[' || c == ']' || Text.Property.isAlphanumeric c

/-- The name of a group, up to the closing bracket. -/
def groupName? (cs : List Char) : Option (List Char × List Char) :=
  let name := cs.takeWhile (· != '>')
  match name, cs.drop name.length with
  | c :: more, '>' :: rest =>
    if isNameChar true c && more.all (isNameChar false) then some (c :: more, rest) else none
  | _, _ => none

/-- What stands behind an opening parenthesis. -/
def openGroup? (r : Reading) (cs : List Char) : Option (Reading × List Char) :=
  let named (rest : List Char) : Option (Reading × List Char) :=
    match groupName? rest with
    | some (name, rest) =>
      if r.names.contains name then none
      else some ({ r with names := name :: r.names }.openWith true r.flags, rest)
    | none => none
  match skipSpace r.flags cs with
  | '?' :: '=' :: _ => none
  | '?' :: '!' :: _ => none
  | '?' :: '<' :: '=' :: _ => none
  | '?' :: '<' :: '!' :: _ => none
  | '?' :: 'P' :: '<' :: rest => named rest
  | '?' :: '<' :: rest => named rest
  | '?' :: rest =>
    match readFlags? true false [] r.flags rest with
    | some (f, someFlags, ending, rest) =>
      if ending = ')' then
        if someFlags then some ({ r with flags := f }.push .empty, rest) else none
      else some (r.openWith false f, rest)
    | none => none
  | rest => some (r.openWith true r.flags, rest)

/-! ## Repetitions -/

/-- The greatest count of a repetition. -/
def maxCount : Nat := 4294967295

/-- A count, which may be missing, with what stands behind it. White space may stand around it. -/
def count? (f : Flags) (cs : List Char) : Option (Option Nat × List Char) :=
  let cs := cs.dropWhile Text.isBlank
  let (ds, rest) := gather f Number.isDigit cs.length cs
  let (_, rest) := gather f Text.isBlank rest.length rest
  if ds.isEmpty then some (none, rest)
  else
    let n := Number.digitsValue ds
    if n ≤ maxCount then some (some n, rest) else none

/-- The bounds that stand in braces, with what stands behind them. -/
def bounds? (f : Flags) (cs : List Char) : Option (Nat × Option Nat × List Char) :=
  match count? f (skipSpace f cs) with
  | some (some least, ',' :: rest) =>
    match skipSpace f rest with
    | '\x7d' :: rest => some (least, none, rest)
    | rest =>
      match count? f rest with
      | some (some most, '\x7d' :: rest) => if least ≤ most then some (least, some most, rest) else none
      | _ => none
  | some (some least, '\x7d' :: rest) => some (least, some least, rest)
  | _ => none

/-- A mark behind a repetition that makes it prefer fewer rounds. -/
def lazyMark (cs : List Char) : Bool × List Char :=
  match cs with
  | '?' :: rest => (true, rest)
  | _ => (false, cs)

/-! ## The whole -/

/-- Repeats the last part as the mark before `cs` says. -/
def simpleRepeat? (r : Reading) (least : Nat) (most : Option Nat) (cs : List Char) :
    Option (Reading × List Char) :=
  let (lazy, rest) := lazyMark cs
  (r.repeat? least most (!lazy)).map fun r => (r, rest)

/-- Adds any character, with the exceptions that the flags make. -/
def pushDot? (r : Reading) : Option Reading :=
  if !r.flags.unicode then none
  else some (r.push (.one
    (if r.flags.dotAll then .anything
     else if r.flags.anyLineEnd then .anyButLineEnd
     else .anyButLineFeed) .exact))

/-- The condition that a circumflex stands for. -/
def startLook (f : Flags) : Look :=
  if !f.multiLine then .textStart else if f.anyLineEnd then .anyLineStart else .lineStart

/-- The condition that a dollar sign stands for. -/
def endLook (f : Flags) : Look :=
  if !f.multiLine then .textEnd else if f.anyLineEnd then .anyLineEnd else .lineEnd

/-- Reads one part of a pattern. -/
def step? (r : Reading) : List Char → Option (Reading × List Char)
  | [] => none
  | c :: cs =>
    match c with
    | '(' => openGroup? r cs
    | ')' => r.close?.map fun r => (r, cs)
    | '|' =>
      some ({ r with alternatives := .ofParts r.parts.reverse :: r.alternatives, parts := [] }, cs)
    | '[' => (bracketClass? r.flags cs).map fun (s, rest) => (r.push (.one s r.flags.folding), rest)
    | '?' => simpleRepeat? r 0 (some 1) cs
    | '*' => simpleRepeat? r 0 none cs
    | '+' => simpleRepeat? r 1 none cs
    | '\x7b' =>
      match bounds? r.flags cs with
      | some (least, most, rest) => simpleRepeat? r least most (skipSpace r.flags rest)
      | none => none
    | '\\' =>
      match escape? r.flags cs with
      | some (atom, rest) => (r.pushAtom? atom).map fun r => (r, rest)
      | none => none
    | '.' => (pushDot? r).map fun r => (r, cs)
    | '^' => some (r.push (.look (startLook r.flags)), cs)
    | '$' => some (r.push (.look (endLook r.flags)), cs)
    | _ => (r.pushChar? c false).map fun r => (r, cs)

/-- Reads a pattern to its end. -/
def read : Nat → Reading → List Char → Option Expr
  | 0, _, _ => none
  | rounds + 1, r, cs =>
    match skipSpace r.flags cs with
    | [] => if r.outer.isEmpty then some r.content else none
    | cs =>
      match step? r cs with
      | some (r, rest) => read rounds r rest
      | none => none

/-- Reads a pattern that is small enough. -/
def Expr.ofText? (pattern : String) : Option Expr :=
  match read (pattern.length + 1) .start pattern.toList with
  | some e => if e.isSmall then some e else none
  | none => none

end Harvest.Pattern
