import Harvest.Markup.Draft

/-!
# The state of construction

A `Builder` holds the page so far with the elements that are open, the formatting elements that
continue across other elements, and the mode that decides what the next token means. The operations
here are the ones that the rules of all modes share.
-/

namespace Harvest.Markup

/-- What the next token means. -/
inductive Mode where
  | initial
  | beforeHtml
  | beforeHead
  | inHead
  | afterHead
  | inBody
  | textOnly
  | inTable
  | inTableText
  | inCaption
  | inColumnGroup
  | inTableBody
  | inRow
  | inCell
  | inSelect
  | inSelectInTable
  | inTemplate
  | afterBody
  | inFrameset
  | afterFrameset
  | afterAfterBody
  | afterAfterFrameset
  deriving DecidableEq, Repr

/-- An entry of the list of formatting elements. -/
inductive Formatting where
  /-- Formatting does not continue across it. -/
  | marker
  | element (node : Nat) (tag : Tag)

/-- The state of construction. -/
structure Builder where
  draft : Draft
  /-- The open elements, the innermost one first. -/
  opened : List Nat
  /-- The formatting elements, the last one first. -/
  formatting : List Formatting
  mode : Mode
  /-- The mode to go back to after text. -/
  returnMode : Mode
  /-- The modes of the open templates, the innermost one first. -/
  templateModes : List Mode
  head : Option Nat
  form : Option Nat
  /-- Whether a frame set may still take the place of the body. -/
  framesetOk : Bool
  /-- Whether content of a table frame goes before the table. -/
  fostering : Bool
  compatibility : Compatibility
  /-- Text within a table frame that waits for its end, the last piece first. -/
  pending : List (Bool × List Char)
  /-- Whether a line feed that comes next is dropped. -/
  skipLineFeed : Bool
  /-- What counts as markup in the text that comes next. -/
  content : Content

namespace Builder

/-- The state before the first token. -/
def start : Builder :=
  { draft := .empty, opened := [], formatting := [], mode := .initial, returnMode := .initial,
    templateModes := [], head := none, form := none, framesetOk := true, fostering := false,
    compatibility := .standard, pending := [], skipLineFeed := false, content := .ordinary }

/-! ## Open elements -/

/-- The element that a node is. -/
def element (b : Builder) (n : Nat) : Element :=
  b.draft.element n

/-- The innermost open element. -/
def current (b : Builder) : Element :=
  match b.opened with
  | n :: _ => b.element n
  | [] => ⟨.html, "", []⟩

/-- The node of the innermost open element. -/
def currentNode (b : Builder) : Nat :=
  b.opened.headD 0

/-- The outermost open element. -/
def root (b : Builder) : Nat :=
  b.opened.getLastD 0

/-- Closes the innermost open element. -/
def pop (b : Builder) : Builder :=
  { b with opened := b.opened.tail }

/-- Closes open elements up to one that satisfies `p`, which is closed too. -/
def popThrough (b : Builder) (p : Element → Bool) : Builder :=
  { b with opened := (b.opened.dropWhile fun n => !p (b.element n)).tail }

/-- Closes open elements up to an ordinary one of the given name, which is closed too. -/
def popNamed (b : Builder) (name : String) : Builder :=
  b.popThrough (·.isNamed name)

/-- Closes open elements up to one that satisfies `p`, which stays open. -/
def popTo (b : Builder) (p : Element → Bool) : Builder :=
  { b with opened := b.opened.dropWhile fun n => !p (b.element n) }

/-- Whether an open element satisfies `p` that no boundary hides. -/
def inScope (b : Builder) (boundary p : Element → Bool) : Bool :=
  match b.opened.find? fun n => p (b.element n) || boundary (b.element n) with
  | some n => p (b.element n)
  | none => false

/-- Whether a node is open and no boundary hides it. -/
def nodeInScope (b : Builder) (node : Nat) : Bool :=
  match b.opened.find? fun n => n == node || (b.element n).isScopeBoundary with
  | some n => n == node
  | none => false

/-- Whether an ordinary element of the given name is in general scope. -/
def hasInScope (b : Builder) (name : String) : Bool :=
  b.inScope (·.isScopeBoundary) (·.isNamed name)

/-- Whether a paragraph could be closed. -/
def hasParagraph (b : Builder) : Bool :=
  b.inScope (·.isButtonBoundary) (·.isNamed "p")

/-- Whether an ordinary element of the given name is in the scope of the innermost table. -/
def hasInTable (b : Builder) (name : String) : Bool :=
  b.inScope (·.isTableBoundary) (·.isNamed name)

/-- Whether an ordinary element of one of the given names is in the scope of the innermost table. -/
def hasAnyInTable (b : Builder) (names : List String) : Bool :=
  b.inScope (·.isTableBoundary) (·.isOneOf names)

/-- Whether a template is open. -/
def hasTemplate (b : Builder) : Bool :=
  b.opened.any fun n => (b.element n).isNamed "template"

/-- Closes the innermost elements that close by themselves, but none of the given name. -/
def closeImpliedExcept (b : Builder) (name : String) : Builder :=
  { b with opened := b.opened.dropWhile fun n =>
      let e := b.element n
      e.closesByItself && !e.isNamed name }

/-- Closes the innermost elements that close by themselves. -/
def closeImplied (b : Builder) : Builder :=
  b.closeImpliedExcept ""

/-- Closes the innermost elements that close by themselves within a template. -/
def closeImpliedThoroughly (b : Builder) : Builder :=
  { b with opened := b.opened.dropWhile fun n => (b.element n).closesWithTemplate }

/-- Closes the innermost paragraph. -/
def closeParagraph (b : Builder) : Builder :=
  (b.closeImpliedExcept "p").popNamed "p"

/-- Closes a paragraph if there is one. -/
def closeParagraphIfOpen (b : Builder) : Builder :=
  if b.hasParagraph then b.closeParagraph else b

/-! ## Placing nodes -/

/-- Where a node goes. -/
inductive Place where
  | lastChildOf (node : Nat)
  | before (node : Nat)

/-- The place for a node that belongs before the innermost table: in front of it, or at the end of the
element around it if the table is nowhere. `outer` holds the open elements, innermost first. -/
def fosterPlace (b : Builder) : List Nat → Place
  | [] => .lastChildOf b.root
  | n :: outer =>
    let e := b.element n
    if e.isNamed "template" then .lastChildOf n
    else if e.isNamed "table" then
      if (b.draft.parent? n).isSome then .before n else .lastChildOf (outer.headD b.root)
    else fosterPlace b outer

/-- The place for a node that belongs into `target`. -/
def placeIn (b : Builder) (target : Nat) : Place :=
  if b.fostering && (b.element target).isTableFrame then b.fosterPlace b.opened
  else .lastChildOf target

/-- Puts a node in its place. -/
def putNode (b : Builder) (place : Place) (node : Nat) : Builder :=
  match place with
  | .lastChildOf n => { b with draft := b.draft.append n node }
  | .before n => { b with draft := b.draft.insertBefore n node }

/-- Puts text into the innermost open element. -/
def putText (b : Builder) (cs : List Char) : Builder :=
  match b.placeIn b.currentNode with
  | .lastChildOf n => { b with draft := b.draft.appendText n cs }
  | .before n => { b with draft := b.draft.insertTextBefore n cs }

/-- Puts a comment at the end of a node. -/
def putCommentIn (b : Builder) (node : Nat) (cs : List Char) : Builder :=
  let (draft, n) := b.draft.create (.comment cs)
  { b with draft := draft.append node n }

/-- Puts a comment into the innermost open element. -/
def putComment (b : Builder) (cs : List Char) : Builder :=
  let (draft, n) := b.draft.create (.comment cs)
  { b with draft }.putNode (b.placeIn b.currentNode) n

/-- Makes an element and puts it into the innermost open element. -/
def putElement (b : Builder) (e : Element) : Builder × Nat :=
  let (draft, n) := b.draft.create (.element e)
  ({ b with draft }.putNode (b.placeIn b.currentNode) n, n)

/-- Opens an element. -/
def openElement (b : Builder) (e : Element) : Builder × Nat :=
  let (b, n) := b.putElement e
  ({ b with opened := n :: b.opened }, n)

/-- Opens the element of a tag. -/
def openTag (b : Builder) (tag : Tag) : Builder :=
  (b.openElement (.ofTag tag.name tag.attributes)).1

/-- Opens an element that no tag stands for. -/
def openNamed (b : Builder) (name : String) : Builder :=
  (b.openElement (.ofTag name [])).1

/-- Puts the element of a tag that has no content. -/
def putTag (b : Builder) (tag : Tag) : Builder :=
  (b.putElement (.ofTag tag.name tag.attributes)).1

/-- Opens the element of a tag whose content is text. -/
def openText (b : Builder) (content : Content) (tag : Tag) : Builder :=
  { b.openTag tag with mode := .textOnly, returnMode := b.mode, content }

/-- Text is no longer followed by a frame set. -/
def noFrameset (b : Builder) : Builder :=
  { b with framesetOk := false }

/-- Goes on in another mode. -/
def goTo (b : Builder) (mode : Mode) : Builder :=
  { b with mode }

/-! ## Formatting elements -/

/-- Whether an entry needs no reopening: it is a marker, or its element is open. -/
def isSettled (b : Builder) : Formatting → Bool
  | .marker => true
  | .element n _ => b.opened.contains n

/-- Opens again the elements of the given entries, the last one first. -/
def reopen (b : Builder) : List Formatting → Builder × List Formatting
  | [] => (b, [])
  | f :: earlier =>
    let (b, done) := reopen b earlier
    match f with
    | .marker => (b, .marker :: done)
    | .element _ tag =>
      let (b, n) := b.openElement (.ofTag tag.name tag.attributes)
      (b, .element n tag :: done)

/-- Opens again the formatting elements that other elements have closed. -/
def reconstruct (b : Builder) : Builder :=
  let closed := b.formatting.takeWhile fun f => !b.isSettled f
  let rest := b.formatting.drop closed.length
  let (b, entries) := b.reopen closed
  { b with formatting := entries ++ rest }

/-- Ends the formatting of a table cell, a caption or a template. -/
def clearToMarker (b : Builder) : Builder :=
  { b with formatting := (b.formatting.dropWhile fun f =>
      match f with | .marker => false | .element .. => true).tail }

/-- Formatting does not continue into what follows. -/
def pushMarker (b : Builder) : Builder :=
  { b with formatting := .marker :: b.formatting }

/-- Whether an entry is for the given node. -/
def Formatting.isFor (node : Nat) : Formatting → Bool
  | .marker => false
  | .element n _ => n == node

/-- Ends the formatting of a node. -/
def dropFormatting (b : Builder) (node : Nat) : Builder :=
  { b with formatting := b.formatting.filter fun f => !Formatting.isFor node f }

/-- The entries up to the last marker, the last one first. -/
def activeEntries (b : Builder) : List Formatting :=
  b.formatting.takeWhile fun f => match f with | .marker => false | .element .. => true

/-- The node and the tag of the last active formatting element of a name. -/
def findFormatting (b : Builder) (name : String) : Option (Nat × Tag) :=
  b.activeEntries.findSome? fun f =>
    match f with
    | .element n tag => if tag.name == name then some (n, tag) else none
    | .marker => none

/-- Whether two tags are the same but for the order of their attributes. -/
def sameTag (s t : Tag) : Bool :=
  s.name == t.name && s.attributes.length == t.attributes.length
    && s.attributes.all t.attributes.contains

/-- Opens a formatting element. Of equal ones, three are kept. -/
def openFormatting (b : Builder) (tag : Tag) : Builder :=
  let equal := b.activeEntries.filterMap fun f =>
    match f with
    | .element n t => if sameTag t tag then some n else none
    | .marker => none
  let b := match equal.getLast? with
    | some n => if 3 ≤ equal.length then b.dropFormatting n else b
    | none => b
  let (b, n) := b.openElement (.ofTag tag.name tag.attributes)
  { b with formatting := .element n tag :: b.formatting }

/-! ## Modes -/

/-- The mode that the open elements call for; `opened` holds them, innermost first. -/
def modeFor (b : Builder) : List Nat → Mode
  | [] => .inBody
  | n :: outer =>
    let e := b.element n
    let last := outer.isEmpty
    if e.vocabulary != .html then modeFor b outer
    else match e.name with
      | "select" =>
        match outer.find? fun m => (b.element m).isOneOf ["template", "table"] with
        | some m => if (b.element m).isNamed "table" then .inSelectInTable else .inSelect
        | none => .inSelect
      | "td" => if last then modeFor b outer else .inCell
      | "th" => if last then modeFor b outer else .inCell
      | "tr" => .inRow
      | "tbody" => .inTableBody
      | "thead" => .inTableBody
      | "tfoot" => .inTableBody
      | "caption" => .inCaption
      | "colgroup" => .inColumnGroup
      | "table" => .inTable
      | "template" => b.templateModes.headD .inBody
      | "head" => if last then modeFor b outer else .inHead
      | "body" => .inBody
      | "frameset" => .inFrameset
      | "html" => if b.head.isNone then .beforeHead else .afterHead
      | _ => modeFor b outer

/-- Takes up the mode that the open elements call for. -/
def resetMode (b : Builder) : Builder :=
  b.goTo (b.modeFor b.opened)

/-- Closes the innermost template. -/
def closeTemplate (b : Builder) : Builder :=
  let b := b.popNamed "template"
  let b := b.clearToMarker
  { b with templateModes := b.templateModes.tail }.resetMode

end Builder

end Harvest.Markup
