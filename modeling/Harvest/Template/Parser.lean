import Harvest.Template.Tag
import Harvest.Text.Clean

/-!
# Reading templates

`Template.ofText?` reads a template, if the text is one. A tag that opens, divides or closes a block and
stands on a line of its own takes the blanks around it and the line end behind it along. A backslash before
a tag makes it plain text.
-/

namespace Harvest

/-- A template. -/
structure Template where
  elements : List Template.Element
  deriving Inhabited

namespace Template

/-! ## Plain text -/

/-- Whether a tag starts here. -/
def startsTag (cs : List Char) : Bool :=
  (pass? "\x7b\x7b" cs).isSome

/-- Whether two pairs of braces stand here. -/
def startsRaw (cs : List Char) : Bool :=
  (pass? "\x7b\x7b\x7b\x7b" cs).isSome

/-- The text up to the next place that satisfies `stops`, with what is left. Before a tag one backslash
goes; if it is the only one, the braces behind it are plain text. -/
def takeText (stops : List Char → Bool) : Nat → List Char → List Char × List Char
  | 0, cs => ([], cs)
  | _ + 1, [] => ([], [])
  | rounds + 1, c :: cs =>
    if c = '\\' && startsRaw cs then keep stops rounds (cs.take 4) (cs.drop 4)
    else if c = '\\' && startsTag cs then keep stops rounds (cs.take 2) (cs.drop 2)
    else
      let others := cs.takeWhile (· == '\\')
      let rest := cs.drop others.length
      if c = '\\' && !others.isEmpty && startsTag rest then keep stops rounds others rest
      else if stops (c :: cs) then ([], c :: cs)
      else keep stops rounds [c] cs
where
  /-- Puts characters before the text that follows. -/
  keep (stops : List Char → Bool) (rounds : Nat) (first rest : List Char) :
      List Char × List Char :=
    let (more, rest) := takeText stops rounds rest
    (first ++ more, rest)

/-- Blanks within a line. -/
def isBlank (c : Char) : Bool :=
  c == ' ' || c == '\t'

/-- The ends of lines. -/
def isLineEnd (c : Char) : Bool :=
  c == '\n' || c == '\r'

/-- Drops blanks and the line end behind them. -/
def dropLineStart (cs : List Char) : List Char :=
  match cs.dropWhile isBlank with
  | '\r' :: '\n' :: rest => rest
  | '\n' :: rest => rest
  | rest => rest

/-- Drops what satisfies `p` at the end. -/
def dropEndWhile (p : Char → Bool) (s : String) : String :=
  String.ofList (s.toList.reverse.dropWhile p).reverse

/-! ## Building -/

/-- An open block. -/
structure Frame where
  name : String
  arguments : Arguments
  names : List String
  /-- Whether the block stands in the place of another template. -/
  replaces : Bool
  /-- Whether the block is the other branch of the one around it. -/
  chained : Bool
  /-- The first branch, if the other one is being read. -/
  body : Option (List Element)
  /-- What stands before the block, the last part first. -/
  outer : List Element

/-- The finished block; `parts` is the branch that has been read last. -/
def Frame.finish (f : Frame) (parts : List Element) : Element :=
  if f.replaces then .group parts
  else match f.body with
    | none => .block f.name f.arguments.positional f.arguments.options f.names parts []
    | some body => .block f.name f.arguments.positional f.arguments.options f.names body parts

/-- A template that has been read in part. -/
structure Build where
  /-- What the innermost open block holds, the last part first. -/
  parts : List Element
  frames : List Frame
  /-- Whether white space at the start of the next text goes. -/
  trimsStart : Bool
  /-- Whether blanks and a line end at the start of the next text go. -/
  trimsLine : Bool

namespace Build

/-- Nothing has been read. -/
def start : Build := ⟨[], [], false, false⟩

/-- Adds a part. -/
def push (b : Build) (e : Element) : Build :=
  { b with parts := e :: b.parts }

/-- Adds a text. White space that goes altogether leaves no trace. -/
def pushText (b : Build) (cs : List Char) : Build :=
  if b.trimsStart then
    if cs.all isSpace then b
    else { b.push (.text (String.ofList (cs.dropWhile Text.isBlank))) with trimsLine := false }
  else
    let kept := if b.trimsLine then dropLineStart cs else cs
    { b.push (.text (String.ofList kept)) with trimsLine := false }

/-- Drops what satisfies `p` at the end of the last part, if that is a text. -/
def trimLast (b : Build) (p : Char → Bool) : Build :=
  match b.parts with
  | .text s :: more => { b with parts := .text (dropEndWhile p s) :: more }
  | _ => b

/-- Applies the marks for white space around a tag. -/
def trimAround (b : Build) (t : PlacedTag) : Build :=
  { (if t.trimsBefore then b.trimLast Text.isBlank else b) with trimsStart := t.trimsAfter }

/-- Applies the rule for tags on a line of their own; `before` is what stands before the tag, the last
character first. -/
def standAlone (b : Build) (before rest : List Char) : Build :=
  let endsLine := rest.isEmpty || (rest.dropWhile isBlank).head?.any isLineEnd
  let startsLine := (before.dropWhile isBlank).head?.all isLineEnd
  if endsLine && startsLine then { b.trimLast isBlank with trimsLine := true }
  else { b with trimsLine := false }

/-- Opens a block. -/
def openBlock (b : Build) (name : String) (a : Arguments) (names : List String)
    (replaces : Bool) : Build :=
  { b with parts := [], frames := ⟨name, a, names, replaces, false, none, b.parts⟩ :: b.frames }

/-- Goes on to the other branch. -/
def divide? (b : Build) (chained : Option (String × Arguments × List String)) : Option Build :=
  match b.frames with
  | [] => none
  | f :: outer =>
    if f.replaces || f.body.isSome then none
    else
      let divided := { f with body := some b.parts.reverse }
      match chained with
      | none => some { b with parts := [], frames := divided :: outer }
      | some (name, a, names) =>
        some { b with parts := [], frames := ⟨name, a, names, false, true, none, []⟩ :: divided :: outer }

/-- Closes a block and those that are branches of it. -/
def closeFrames? (name : String) : List Frame → List Element → Option (List Element × List Frame)
  | [], _ => none
  | f :: outer, parts =>
    let e := f.finish parts.reverse
    if f.chained then closeFrames? name outer (e :: f.outer)
    else if f.name == name then some (e :: f.outer, outer)
    else none

/-- Closes the innermost open block. -/
def close? (b : Build) (name : String) : Option Build :=
  (closeFrames? name b.frames b.parts).map fun (parts, frames) =>
    { b with parts := parts, frames := frames }

end Build

/-- The block whose content is no template, from behind its opening tag. -/
def rawBlock? (b : Build) (name : String) (a : Arguments) (cs : List Char) :
    Option (Build × List Char × List Char) :=
  let (content, rest) := takeText startsRaw (cs.length + 1) (skipSpace cs)
  match rawClosing? rest with
  | none => none
  | some t =>
    match t.tag with
    | .rawClosing closing =>
      if closing != name then none
      else
        let inner := ({ b with parts := [] }.pushText content).trimAround t
        let inner := inner.standAlone ((between cs rest).reverse) t.rest
        let block := Element.block name a.positional a.options [] inner.parts.reverse []
        some ({ inner with parts := block :: b.parts }, between cs t.rest, t.rest)
    | _ => none

/-- Takes a tag; `before` is what stands before it, the last character first. -/
def takeTag? (b : Build) (before cs : List Char) (t : PlacedTag) :
    Option (Build × List Char × List Char) :=
  if t.faulty then none
  else
    let behind := (between cs t.rest).reverse ++ before
    let plain (b : Build) : Build × List Char × List Char := (b, behind, t.rest)
    match t.tag with
    | .show e => some (plain ((b.trimAround t).push e))
    | .comment => some (plain (b.standAlone before t.rest))
    | .opening name a names =>
      some (plain (((b.trimAround t).standAlone before t.rest).openBlock name a names false))
    | .replacement name =>
      some (plain (((b.trimAround t).standAlone before t.rest).openBlock name .none [] true))
    | .otherwise chained =>
      (((b.trimAround t).standAlone before t.rest).divide? chained).map plain
    | .closing name => (((b.trimAround t).standAlone before t.rest).close? name).map plain
    | .rawOpening name a =>
      (rawBlock? ((b.trimAround t).standAlone before t.rest) name a t.rest).map
        fun (b, content, rest) => (b, content.reverse ++ behind, rest)
    | .rawClosing _ => none

/-- Reads a template to its end. Every round takes at least one character. -/
def readElements : Nat → Build → List Char → List Char → Option (List Element)
  | 0, _, _, _ => none
  | rounds + 1, b, before, cs =>
    if cs.isEmpty then (if b.frames.isEmpty then some b.parts.reverse else none)
    else if startsTag cs then
      match Tag.read? cs with
      | none => none
      | some t =>
        match takeTag? b before cs t with
        | some (b, before, rest) => readElements rounds b before rest
        | none => none
    else
      let (text, rest) := takeText startsTag (cs.length + 1) cs
      readElements rounds (b.pushText text) ((between cs rest).reverse ++ before) rest

/-- Reads a template. -/
def ofText? (source : String) : Option Template :=
  (readElements (source.length + 1) .start [] source.toList).map Template.mk

end Template

end Harvest
