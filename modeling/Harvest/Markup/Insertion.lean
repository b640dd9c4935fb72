import Harvest.Markup.Adoption

/-!
# The rules of construction

For each mode, what a token does to the page. A rule either deals with the token or changes the state
and asks for the token to be looked at again (`Outcome.again`). No token is an error: one that cannot
stand where it is closes what is open, opens what is missing, or is passed over.
-/

namespace Harvest.Markup

/-- What a rule leaves to be done. -/
inductive Outcome where
  /-- The token has been dealt with. -/
  | done (state : Builder)
  /-- The token is looked at again. -/
  | again (state : Builder)

namespace Builder

/-- Looks at the token again in another mode. -/
def againIn (b : Builder) (mode : Mode) : Outcome :=
  .again (b.goTo mode)

/-- Passes over the token. -/
def ignore (b : Builder) : Outcome :=
  .done b

/-! ## The head -/

/-- The names of head elements without content. -/
def voidHeadNames : List String := ["base", "basefont", "bgsound", "link", "meta"]

/-- The names of elements that belong into the head. -/
def headNames : List String :=
  voidHeadNames ++ ["noframes", "script", "style", "template", "title"]

/-- The tag of an element that belongs into the head. -/
def putHeadTag (b : Builder) (tag : Tag) : Builder :=
  match tag.name with
  | "title" => b.openText (.escapable "title") tag
  | "noframes" => b.openText (.raw "noframes") tag
  | "style" => b.openText (.raw "style") tag
  | "script" => b.openText .script tag
  | "template" =>
    let b := (b.openTag tag).pushMarker.noFrameset.goTo .inTemplate
    { b with templateModes := .inTemplate :: b.templateModes }
  | _ => b.putTag tag

/-- The end tag of a template. -/
def endTemplate (b : Builder) : Builder :=
  if b.hasTemplate then b.closeImpliedThoroughly.closeTemplate else b

/-- The tag of the outermost element, again: it adds attributes. -/
def mergeHtml (b : Builder) (tag : Tag) : Builder :=
  if b.hasTemplate then b else { b with draft := b.draft.addAttributes b.root tag.attributes }

/-- Before the document type. -/
def initialRule (b : Builder) (t : Token) : Outcome :=
  match t with
  | .text true _ => b.ignore
  | .comment cs => .done (b.putCommentIn 0 cs)
  | .doctype d =>
    let (draft, n) := b.draft.create (.doctype d)
    .done { b with draft := draft.append 0 n, compatibility := d.compatibility, mode := .beforeHtml }
  | _ => { b with compatibility := .old }.againIn .beforeHtml

/-- Makes the outermost element. -/
def putRoot (b : Builder) (attributes : List Attribute) : Builder :=
  let (draft, n) := b.draft.create (.element (.ofTag "html" attributes))
  { b with draft := draft.append 0 n, opened := [n], mode := .beforeHead }

/-- Before the outermost element. -/
def beforeHtmlRule (b : Builder) (t : Token) : Outcome :=
  match t with
  | .text true _ => b.ignore
  | .comment cs => .done (b.putCommentIn 0 cs)
  | .startTag tag =>
    if tag.name == "html" then .done (b.putRoot tag.attributes) else .again (b.putRoot [])
  | .endTag tag =>
    if ["head", "body", "html", "br"].contains tag.name then .again (b.putRoot []) else b.ignore
  | _ => .again (b.putRoot [])

/-- Opens the head. -/
def openHead (b : Builder) (attributes : List Attribute) : Builder :=
  let (b, n) := b.openElement (.ofTag "head" attributes)
  { b with head := some n, mode := .inHead }

/-- Before the head. -/
def beforeHeadRule (b : Builder) (t : Token) : Outcome :=
  match t with
  | .text true _ => b.ignore
  | .comment cs => .done (b.putComment cs)
  | .startTag tag =>
    if tag.name == "html" then .done (b.mergeHtml tag)
    else if tag.name == "head" then .done (b.openHead tag.attributes)
    else .again (b.openHead [])
  | .endTag tag =>
    if ["head", "body", "html", "br"].contains tag.name then .again (b.openHead []) else b.ignore
  | _ => .again (b.openHead [])

/-- Within the head. -/
def inHeadRule (b : Builder) (t : Token) : Outcome :=
  let leave := b.pop.againIn .afterHead
  match t with
  | .text true cs => .done (b.putText cs)
  | .comment cs => .done (b.putComment cs)
  | .startTag tag =>
    if tag.name == "html" then .done (b.mergeHtml tag)
    else if headNames.contains tag.name then .done (b.putHeadTag tag)
    else if tag.name == "noscript" then .done (b.openText (.raw "noscript") tag)
    else if tag.name == "head" then b.ignore
    else leave
  | .endTag tag =>
    match tag.name with
    | "head" => .done (b.pop.goTo .afterHead)
    | "template" => .done b.endTemplate
    | "body" => leave
    | "html" => leave
    | "br" => leave
    | _ => b.ignore
  | _ => leave

/-- Opens the body. -/
def openBody (b : Builder) (attributes : List Attribute) : Builder :=
  (b.openElement (.ofTag "body" attributes)).1.goTo .inBody

/-- Between the head and the body. -/
def afterHeadRule (b : Builder) (t : Token) : Outcome :=
  let leave : Outcome := .again (b.openBody [])
  match t with
  | .text true cs => .done (b.putText cs)
  | .comment cs => .done (b.putComment cs)
  | .startTag tag =>
    if tag.name == "html" then .done (b.mergeHtml tag)
    else if tag.name == "body" then .done (b.openBody tag.attributes).noFrameset
    else if tag.name == "frameset" then .done ((b.openTag tag).goTo .inFrameset)
    else if headNames.contains tag.name then
      match b.head with
      | some head =>
        let b := { b with opened := head :: b.opened }.putHeadTag tag
        .done (b.closeNode head)
      | none => .done (b.putHeadTag tag)
    else if tag.name == "head" then b.ignore
    else leave
  | .endTag tag =>
    if tag.name == "template" then .done b.endTemplate
    else if ["body", "html", "br"].contains tag.name then leave
    else b.ignore
  | _ => leave

/-! ## The body -/

/-- The second outermost open element, if it is the body. -/
def bodyNode? (b : Builder) : Option Nat :=
  match b.opened.reverse with
  | _ :: n :: _ => if (b.element n).isNamed "body" then some n else none
  | _ => none

/-- Whether a tag is for an input that is not shown. -/
def isHidden (tag : Tag) : Bool :=
  (tag.attributes.find? fun a => a.1 == "type").any fun a =>
    Text.Casing.equalIgnoringAsciiCase a.2 "hidden"

/-- Closes the open list item that a new one ends; the search goes outwards through `opened` and stops
at other special elements. -/
def closeItem (b : Builder) (names : List String) : List Nat → Builder
  | [] => b
  | n :: outer =>
    let e := b.element n
    if e.isOneOf names then (b.closeImpliedExcept e.name).popNamed e.name
    else if e.isSpecial && !e.isOneOf ["address", "div", "p"] then b
    else closeItem b names outer

/-- A tag of an element that stands as a block. -/
def openBlock (b : Builder) (tag : Tag) : Builder :=
  b.closeParagraphIfOpen.openTag tag

/-- The end tag of an element that stands as a block. -/
def endBlock (b : Builder) (name : String) : Builder :=
  if b.hasInScope name then b.closeImplied.popNamed name else b

/-- Opens a drawing or a formula. -/
def openForeign (b : Builder) (vocabulary : Vocabulary) (tag : Tag) : Builder :=
  let e := Element.foreign vocabulary tag
  if tag.selfClosing then (b.putElement e).1 else (b.openElement e).1

/-- Blocks. -/
def blockNames : List String :=
  ["address", "article", "aside", "blockquote", "center", "details", "dialog", "dir", "div", "dl",
   "fieldset", "figcaption", "figure", "footer", "header", "hgroup", "main", "menu", "nav", "ol",
   "p", "search", "section", "summary", "ul"]

/-- Blocks that an end tag of their own closes. -/
def closableNames : List String :=
  ["address", "article", "aside", "blockquote", "button", "center", "details", "dialog", "dir",
   "div", "dl", "fieldset", "figcaption", "figure", "footer", "header", "hgroup", "listing", "main",
   "menu", "nav", "ol", "pre", "search", "section", "summary", "ul"]

/-- Formatting elements, links and unbreakable lines apart. -/
def formattingNames : List String :=
  ["b", "big", "code", "em", "font", "i", "s", "small", "strike", "strong", "tt", "u"]

/-- Headings. -/
def headingNames : List String := ["h1", "h2", "h3", "h4", "h5", "h6"]

/-- Parts of a table, of a frame set and of the page that mean nothing in the body. -/
def strayNames : List String :=
  ["caption", "col", "colgroup", "frame", "head", "tbody", "td", "tfoot", "th", "thead", "tr"]

/-- A start tag within the body. -/
def bodyStartTag (b : Builder) (tag : Tag) : Outcome :=
  let name := tag.name
  if name == "html" then .done (b.mergeHtml tag)
  else if headNames.contains name then .done (b.putHeadTag tag)
  else if name == "body" then
    match b.bodyNode? with
    | some n =>
      if b.hasTemplate then b.ignore
      else .done { b.noFrameset with draft := b.draft.addAttributes n tag.attributes }
    | none => b.ignore
  else if name == "frameset" then
    match b.framesetOk, b.bodyNode? with
    | true, some n =>
      let b := { b with draft := b.draft.detach n, opened := [b.root] }
      .done ((b.openTag tag).goTo .inFrameset)
    | _, _ => b.ignore
  else if blockNames.contains name then .done (b.openBlock tag)
  else if headingNames.contains name then
    let b := b.closeParagraphIfOpen
    let b := if b.current.isHeading then b.pop else b
    .done (b.openTag tag)
  else if name == "pre" || name == "listing" then
    .done { (b.openBlock tag).noFrameset with skipLineFeed := true }
  else if name == "form" then
    if b.form.isSome && !b.hasTemplate then b.ignore
    else
      let template := b.hasTemplate
      let b := b.openBlock tag
      .done (if template then b else { b with form := some b.currentNode })
  else if name == "li" then .done ((b.noFrameset.closeItem ["li"] b.opened).openBlock tag)
  else if name == "dd" || name == "dt" then
    .done ((b.noFrameset.closeItem ["dd", "dt"] b.opened).openBlock tag)
  else if name == "plaintext" then .done { b.openBlock tag with content := .plain }
  else if name == "button" then
    let b := if b.hasInScope "button" then b.closeImplied.popNamed "button" else b
    .done (b.reconstruct.openTag tag).noFrameset
  else if name == "a" then
    let b := match b.findFormatting "a" with
      | some (n, _) => ((b.adopt "a").dropFormatting n).closeNode n
      | none => b
    .done (b.reconstruct.openFormatting tag)
  else if formattingNames.contains name then .done (b.reconstruct.openFormatting tag)
  else if name == "nobr" then
    let b := b.reconstruct
    let b := if b.hasInScope "nobr" then (b.adopt "nobr").reconstruct else b
    .done (b.openFormatting tag)
  else if ["applet", "marquee", "object"].contains name then
    .done (b.reconstruct.openTag tag).pushMarker.noFrameset
  else if name == "table" then
    let b := if b.compatibility = .old then b else b.closeParagraphIfOpen
    .done ((b.openTag tag).noFrameset.goTo .inTable)
  else if ["area", "br", "embed", "img", "keygen", "wbr"].contains name then
    .done (b.reconstruct.putTag tag).noFrameset
  else if name == "input" then
    let b := b.reconstruct.putTag tag
    .done (if isHidden tag then b else b.noFrameset)
  else if ["param", "source", "track"].contains name then .done (b.putTag tag)
  else if name == "hr" then .done (b.closeParagraphIfOpen.putTag tag).noFrameset
  else if name == "image" then .done (b.reconstruct.putTag { tag with name := "img" }).noFrameset
  else if name == "textarea" then
    .done { b.noFrameset.openText (.escapable "textarea") tag with skipLineFeed := true }
  else if name == "xmp" then
    .done (b.closeParagraphIfOpen.reconstruct.noFrameset.openText (.raw "xmp") tag)
  else if name == "iframe" then .done (b.noFrameset.openText (.raw "iframe") tag)
  else if name == "noembed" || name == "noscript" then .done (b.openText (.raw name) tag)
  else if name == "select" then
    let inTable := [Mode.inTable, .inCaption, .inTableBody, .inRow, .inCell].contains b.mode
    .done ((b.reconstruct.openTag tag).noFrameset.goTo
      (if inTable then .inSelectInTable else .inSelect))
  else if name == "optgroup" || name == "option" then
    let b := if b.current.isNamed "option" then b.pop else b
    .done (b.reconstruct.openTag tag)
  else if name == "rb" || name == "rtc" then
    let b := if b.hasInScope "ruby" then b.closeImplied else b
    .done (b.openTag tag)
  else if name == "rp" || name == "rt" then
    let b := if b.hasInScope "ruby" then b.closeImpliedExcept "rtc" else b
    .done (b.openTag tag)
  else if name == "math" then .done (b.reconstruct.openForeign .mathml tag)
  else if name == "svg" then .done (b.reconstruct.openForeign .svg tag)
  else if strayNames.contains name then b.ignore
  else .done (b.reconstruct.openTag tag)

/-- An end tag within the body. -/
def bodyEndTag (b : Builder) (tag : Tag) : Outcome :=
  let name := tag.name
  if name == "template" then .done b.endTemplate
  else if name == "body" then
    if b.hasInScope "body" then .done (b.goTo .afterBody) else b.ignore
  else if name == "html" then
    if b.hasInScope "body" then b.againIn .afterBody else b.ignore
  else if closableNames.contains name then .done (b.endBlock name)
  else if name == "form" then
    if b.hasTemplate then .done (b.endBlock "form")
    else
      let node := b.form
      let b := { b with form := none }
      match node with
      | none => b.ignore
      | some n =>
        if b.nodeInScope n then .done (b.closeImplied.closeNode n) else b.ignore
  else if name == "p" then
    let b := if b.hasParagraph then b else b.openNamed "p"
    .done b.closeParagraph
  else if name == "li" then
    if b.inScope (·.isListBoundary) (·.isNamed "li") then
      .done ((b.closeImpliedExcept "li").popNamed "li")
    else b.ignore
  else if name == "dd" || name == "dt" then
    if b.hasInScope name then .done ((b.closeImpliedExcept name).popNamed name) else b.ignore
  else if headingNames.contains name then
    if b.inScope (·.isScopeBoundary) (·.isHeading) then
      .done (b.closeImplied.popThrough (·.isHeading))
    else b.ignore
  else if name == "a" || name == "nobr" || formattingNames.contains name then .done (b.adopt name)
  else if ["applet", "marquee", "object"].contains name then
    if b.hasInScope name then .done (b.closeImplied.popNamed name).clearToMarker else b.ignore
  else if name == "br" then .done (b.reconstruct.putTag ⟨"br", [], false⟩).noFrameset
  else .done (b.closeAny name)

/-- The end of the page while templates may be open. -/
def endOfTemplates (b : Builder) : Outcome :=
  if b.hasTemplate then .again b.closeTemplate else b.ignore

/-- Within the body. -/
def inBodyRule (b : Builder) (t : Token) : Outcome :=
  match t with
  | .nullCharacter => b.ignore
  | .text blank cs =>
    let b := b.reconstruct
    .done ((if blank then b else b.noFrameset).putText cs)
  | .comment cs => .done (b.putComment cs)
  | .doctype _ => b.ignore
  | .startTag tag => b.bodyStartTag tag
  | .endTag tag => b.bodyEndTag tag
  | .endOfPage => if b.templateModes.isEmpty then b.ignore else b.endOfTemplates

/-- Within text that holds no markup. -/
def textRule (b : Builder) (t : Token) : Outcome :=
  let back := { b.pop with mode := b.returnMode, content := .ordinary }
  match t with
  | .text _ cs => .done (b.putText cs)
  | .endTag _ => .done back
  | .endOfPage => .again back
  | _ => b.ignore

/-! ## Tables -/

/-- The outcome of a rule with the placement of table content switched back. -/
def settle (o : Outcome) : Outcome :=
  match o with
  | .done b => .done { b with fostering := false }
  | .again b => .again { b with fostering := false }

/-- Content that cannot stand in a table frame: it goes before the table. -/
def foster (b : Builder) (t : Token) : Outcome :=
  settle ({ b with fostering := true }.inBodyRule t)

/-- Closes elements up to the table. -/
def clearToTable (b : Builder) : Builder :=
  b.popTo (·.isOneOf ["table", "template", "html"])

/-- Closes elements up to the group of rows. -/
def clearToGroup (b : Builder) : Builder :=
  b.popTo (·.isOneOf ["tbody", "tfoot", "thead", "template", "html"])

/-- Closes elements up to the row. -/
def clearToRow (b : Builder) : Builder :=
  b.popTo (·.isOneOf ["tr", "template", "html"])

/-- Within a table. -/
def inTableRule (b : Builder) (t : Token) : Outcome :=
  let gather : Outcome :=
    if b.current.isTableFrame then
      { b with pending := [], returnMode := b.mode }.againIn .inTableText
    else b.foster t
  match t with
  | .text .. => gather
  | .nullCharacter => gather
  | .comment cs => .done (b.putComment cs)
  | .startTag tag =>
    match tag.name with
    | "caption" => .done ((b.clearToTable.pushMarker.openTag tag).goTo .inCaption)
    | "colgroup" => .done ((b.clearToTable.openTag tag).goTo .inColumnGroup)
    | "col" => (b.clearToTable.openNamed "colgroup").againIn .inColumnGroup
    | "tbody" => .done ((b.clearToTable.openTag tag).goTo .inTableBody)
    | "tfoot" => .done ((b.clearToTable.openTag tag).goTo .inTableBody)
    | "thead" => .done ((b.clearToTable.openTag tag).goTo .inTableBody)
    | "td" => (b.clearToTable.openNamed "tbody").againIn .inTableBody
    | "th" => (b.clearToTable.openNamed "tbody").againIn .inTableBody
    | "tr" => (b.clearToTable.openNamed "tbody").againIn .inTableBody
    | "table" =>
      if b.hasInTable "table" then .again (b.popNamed "table").resetMode else b.ignore
    | "style" => .done (b.putHeadTag tag)
    | "script" => .done (b.putHeadTag tag)
    | "template" => .done (b.putHeadTag tag)
    | "input" => if isHidden tag then .done (b.putTag tag) else b.foster t
    | "form" =>
      if b.hasTemplate || b.form.isSome then b.ignore
      else
        let (b, n) := b.putElement (.ofTag "form" tag.attributes)
        .done { b with form := some n }
    | _ => b.foster t
  | .endTag tag =>
    if tag.name == "table" then
      if b.hasInTable "table" then .done (b.popNamed "table").resetMode else b.ignore
    else if tag.name == "template" then .done b.endTemplate
    else if ["body", "caption", "col", "colgroup", "html", "tbody", "td", "tfoot", "th", "thead",
        "tr"].contains tag.name then b.ignore
    else b.foster t
  | .endOfPage => b.inBodyRule t
  | .doctype _ => b.ignore

/-- Puts the text that waited within a table frame: before the table if any of it is not white space,
and into the table otherwise. -/
def putPending (b : Builder) : Builder :=
  let pieces := b.pending.reverse
  let b := { b with pending := [] }
  if pieces.all (·.1) then pieces.foldl (fun b p => b.putText p.2) b
  else
    pieces.foldl (fun b p =>
      match b.foster (.text p.1 p.2) with
      | .done b => b
      | .again b => b) b

/-- Within text in a table. -/
def inTableTextRule (b : Builder) (t : Token) : Outcome :=
  match t with
  | .nullCharacter => b.ignore
  | .text blank cs => .done { b with pending := (blank, cs) :: b.pending }
  | _ => b.putPending.againIn b.returnMode

/-- Parts of a table that end the part before them. -/
def partNames : List String :=
  ["caption", "col", "colgroup", "tbody", "td", "tfoot", "th", "thead", "tr"]

/-- Within a caption. -/
def inCaptionRule (b : Builder) (t : Token) : Outcome :=
  let close := ((b.closeImplied.popNamed "caption").clearToMarker).goTo .inTable
  let leave (o : Outcome) : Outcome := if b.hasInTable "caption" then o else b.ignore
  match t with
  | .startTag tag =>
    if partNames.contains tag.name then leave (.again close) else b.inBodyRule t
  | .endTag tag =>
    if tag.name == "caption" then leave (.done close)
    else if tag.name == "table" then leave (.again close)
    else if ["body", "col", "colgroup", "html", "tbody", "td", "tfoot", "th", "thead",
        "tr"].contains tag.name then b.ignore
    else b.inBodyRule t
  | _ => b.inBodyRule t

/-- Within a group of columns. -/
def inColumnGroupRule (b : Builder) (t : Token) : Outcome :=
  let leave : Outcome :=
    if b.current.isNamed "colgroup" then b.pop.againIn .inTable else b.ignore
  match t with
  | .text true cs => .done (b.putText cs)
  | .comment cs => .done (b.putComment cs)
  | .startTag tag =>
    match tag.name with
    | "html" => .done (b.mergeHtml tag)
    | "col" => .done (b.putTag tag)
    | "template" => .done (b.putHeadTag tag)
    | _ => leave
  | .endTag tag =>
    match tag.name with
    | "colgroup" =>
      if b.current.isNamed "colgroup" then .done (b.pop.goTo .inTable) else b.ignore
    | "col" => b.ignore
    | "template" => .done b.endTemplate
    | _ => leave
  | .endOfPage => b.inBodyRule t
  | .doctype _ => b.ignore
  | _ => leave

/-- Within a group of rows. -/
def inTableBodyRule (b : Builder) (t : Token) : Outcome :=
  let groups := ["tbody", "tfoot", "thead"]
  let leave : Outcome :=
    if b.hasAnyInTable groups then b.clearToGroup.pop.againIn .inTable else b.ignore
  match t with
  | .startTag tag =>
    match tag.name with
    | "tr" => .done ((b.clearToGroup.openTag tag).goTo .inRow)
    | "th" => (b.clearToGroup.openNamed "tr").againIn .inRow
    | "td" => (b.clearToGroup.openNamed "tr").againIn .inRow
    | name =>
      if ["caption", "col", "colgroup", "tbody", "tfoot", "thead"].contains name then leave
      else b.inTableRule t
  | .endTag tag =>
    if groups.contains tag.name then
      if b.hasInTable tag.name then .done (b.clearToGroup.pop.goTo .inTable) else b.ignore
    else if tag.name == "table" then leave
    else if ["body", "caption", "col", "colgroup", "html", "td", "th", "tr"].contains tag.name then
      b.ignore
    else b.inTableRule t
  | _ => b.inTableRule t

/-- Within a row. -/
def inRowRule (b : Builder) (t : Token) : Outcome :=
  let close := b.clearToRow.pop.goTo .inTableBody
  let leave (o : Outcome) : Outcome := if b.hasInTable "tr" then o else b.ignore
  match t with
  | .startTag tag =>
    if tag.name == "th" || tag.name == "td" then
      .done ((b.clearToRow.openTag tag).goTo .inCell).pushMarker
    else if ["caption", "col", "colgroup", "tbody", "tfoot", "thead", "tr"].contains tag.name then
      leave (.again close)
    else b.inTableRule t
  | .endTag tag =>
    if tag.name == "tr" then leave (.done close)
    else if tag.name == "table" then leave (.again close)
    else if ["tbody", "tfoot", "thead"].contains tag.name then
      if b.hasInTable tag.name then leave (.again close) else b.ignore
    else if ["body", "caption", "col", "colgroup", "html", "td", "th"].contains tag.name then
      b.ignore
    else b.inTableRule t
  | _ => b.inTableRule t

/-- Closes the innermost cell. -/
def closeCell (b : Builder) : Builder :=
  ((b.closeImplied.popThrough (·.isOneOf ["td", "th"])).clearToMarker).goTo .inRow

/-- Within a cell. -/
def inCellRule (b : Builder) (t : Token) : Outcome :=
  match t with
  | .startTag tag =>
    if partNames.contains tag.name then
      if b.hasAnyInTable ["td", "th"] then .again b.closeCell else b.ignore
    else b.inBodyRule t
  | .endTag tag =>
    if tag.name == "td" || tag.name == "th" then
      if b.hasInTable tag.name then
        .done (((b.closeImplied.popNamed tag.name).clearToMarker).goTo .inRow)
      else b.ignore
    else if ["body", "caption", "col", "colgroup", "html"].contains tag.name then b.ignore
    else if ["table", "tbody", "tfoot", "thead", "tr"].contains tag.name then
      if b.hasInTable tag.name then .again b.closeCell else b.ignore
    else b.inBodyRule t
  | _ => b.inBodyRule t

/-! ## Choices -/

/-- Closes the innermost choice. -/
def closeSelect (b : Builder) : Builder :=
  (b.popNamed "select").resetMode

/-- Closes an open option. -/
def popOption (b : Builder) : Builder :=
  if b.current.isNamed "option" then b.pop else b

/-- Closes an open group of options. -/
def popGroup (b : Builder) : Builder :=
  if b.current.isNamed "optgroup" then b.pop else b

/-- Within a choice. -/
def inSelectRule (b : Builder) (t : Token) : Outcome :=
  let selected := b.inScope (·.isSelectBoundary) (·.isNamed "select")
  match t with
  | .nullCharacter => b.ignore
  | .text _ cs => .done (b.putText cs)
  | .comment cs => .done (b.putComment cs)
  | .doctype _ => b.ignore
  | .startTag tag =>
    match tag.name with
    | "html" => .done (b.mergeHtml tag)
    | "option" => .done (b.popOption.openTag tag)
    | "optgroup" => .done (b.popOption.popGroup.openTag tag)
    | "hr" => .done (b.popOption.popGroup.putTag tag)
    | "select" => if selected then .done b.closeSelect else b.ignore
    | "script" => .done (b.putHeadTag tag)
    | "template" => .done (b.putHeadTag tag)
    | name =>
      if ["input", "keygen", "textarea"].contains name && selected then .again b.closeSelect
      else b.ignore
  | .endTag tag =>
    match tag.name with
    | "optgroup" =>
      let outer := (b.opened[1]?).any fun n => (b.element n).isNamed "optgroup"
      let b := if b.current.isNamed "option" && outer then b.pop else b
      .done b.popGroup
    | "option" => .done b.popOption
    | "select" => if selected then .done b.closeSelect else b.ignore
    | "template" => .done b.endTemplate
    | _ => b.ignore
  | .endOfPage => b.inBodyRule t

/-- Within a choice in a table. -/
def inSelectInTableRule (b : Builder) (t : Token) : Outcome :=
  let names := ["caption", "table", "tbody", "tfoot", "thead", "tr", "td", "th"]
  match t with
  | .startTag tag => if names.contains tag.name then .again b.closeSelect else b.inSelectRule t
  | .endTag tag =>
    if names.contains tag.name then
      if b.hasInTable tag.name then .again b.closeSelect else b.ignore
    else b.inSelectRule t
  | _ => b.inSelectRule t

/-! ## Templates -/

/-- Goes on within a template in the mode that its content calls for. -/
def retarget (b : Builder) (mode : Mode) : Outcome :=
  { b with templateModes := mode :: b.templateModes.tail }.againIn mode

/-- Within a template. -/
def inTemplateRule (b : Builder) (t : Token) : Outcome :=
  match t with
  | .startTag tag =>
    if headNames.contains tag.name then .done (b.putHeadTag tag)
    else match tag.name with
      | "caption" => b.retarget .inTable
      | "colgroup" => b.retarget .inTable
      | "tbody" => b.retarget .inTable
      | "tfoot" => b.retarget .inTable
      | "thead" => b.retarget .inTable
      | "col" => b.retarget .inColumnGroup
      | "tr" => b.retarget .inTableBody
      | "td" => b.retarget .inRow
      | "th" => b.retarget .inRow
      | _ => b.retarget .inBody
  | .endTag tag => if tag.name == "template" then .done b.endTemplate else b.ignore
  | .endOfPage => b.endOfTemplates
  | _ => b.inBodyRule t

/-! ## The end of the page, and frame sets -/

/-- After the body. -/
def afterBodyRule (b : Builder) (t : Token) : Outcome :=
  match t with
  | .text true _ => b.inBodyRule t
  | .comment cs => .done (b.putCommentIn b.root cs)
  | .doctype _ => b.ignore
  | .startTag tag => if tag.name == "html" then .done (b.mergeHtml tag) else b.againIn .inBody
  | .endTag tag => if tag.name == "html" then .done (b.goTo .afterAfterBody) else b.againIn .inBody
  | .endOfPage => b.ignore
  | _ => b.againIn .inBody

/-- Within a frame set. -/
def inFramesetRule (b : Builder) (t : Token) : Outcome :=
  match t with
  | .text true cs => .done (b.putText cs)
  | .comment cs => .done (b.putComment cs)
  | .startTag tag =>
    match tag.name with
    | "html" => .done (b.mergeHtml tag)
    | "frameset" => .done (b.openTag tag)
    | "frame" => .done (b.putTag tag)
    | "noframes" => .done (b.putHeadTag tag)
    | _ => b.ignore
  | .endTag tag =>
    if tag.name == "frameset" && 1 < b.opened.length then
      let b := b.pop
      .done (if b.current.isNamed "frameset" then b else b.goTo .afterFrameset)
    else b.ignore
  | _ => b.ignore

/-- After a frame set. -/
def afterFramesetRule (b : Builder) (t : Token) : Outcome :=
  match t with
  | .text true cs => .done (b.putText cs)
  | .comment cs => .done (b.putComment cs)
  | .startTag tag =>
    match tag.name with
    | "html" => .done (b.mergeHtml tag)
    | "noframes" => .done (b.putHeadTag tag)
    | _ => b.ignore
  | .endTag tag =>
    if tag.name == "html" then .done (b.goTo .afterAfterFrameset) else b.ignore
  | _ => b.ignore

/-- After the outermost element. -/
def afterAfterBodyRule (b : Builder) (t : Token) : Outcome :=
  match t with
  | .text true _ => b.inBodyRule t
  | .comment cs => .done (b.putCommentIn 0 cs)
  | .doctype _ => b.ignore
  | .startTag tag => if tag.name == "html" then .done (b.mergeHtml tag) else b.againIn .inBody
  | .endOfPage => b.ignore
  | _ => b.againIn .inBody

/-- After the outermost element of a page with a frame set. -/
def afterAfterFramesetRule (b : Builder) (t : Token) : Outcome :=
  match t with
  | .text true _ => b.inBodyRule t
  | .comment cs => .done (b.putCommentIn 0 cs)
  | .startTag tag =>
    match tag.name with
    | "html" => .done (b.mergeHtml tag)
    | "noframes" => .done (b.putHeadTag tag)
    | _ => b.ignore
  | _ => b.ignore

/-- The rule of the current mode. -/
def modeRule (b : Builder) (t : Token) : Outcome :=
  match b.mode with
  | .initial => b.initialRule t
  | .beforeHtml => b.beforeHtmlRule t
  | .beforeHead => b.beforeHeadRule t
  | .inHead => b.inHeadRule t
  | .afterHead => b.afterHeadRule t
  | .inBody => b.inBodyRule t
  | .textOnly => b.textRule t
  | .inTable => b.inTableRule t
  | .inTableText => b.inTableTextRule t
  | .inCaption => b.inCaptionRule t
  | .inColumnGroup => b.inColumnGroupRule t
  | .inTableBody => b.inTableBodyRule t
  | .inRow => b.inRowRule t
  | .inCell => b.inCellRule t
  | .inSelect => b.inSelectRule t
  | .inSelectInTable => b.inSelectInTableRule t
  | .inTemplate => b.inTemplateRule t
  | .afterBody => b.afterBodyRule t
  | .inFrameset => b.inFramesetRule t
  | .afterFrameset => b.afterFramesetRule t
  | .afterAfterBody => b.afterAfterBodyRule t
  | .afterAfterFrameset => b.afterAfterFramesetRule t

/-! ## Drawings and formulas -/

/-- Whether a token stands in a drawing or a formula, where other rules hold. -/
def isForeign (b : Builder) (t : Token) : Bool :=
  let e := b.current
  if b.opened.isEmpty || e.vocabulary == .html then false
  else
    let isText := match t with
      | .text .. => true
      | .nullCharacter => true
      | _ => false
    match t with
    | .endOfPage => false
    | .startTag tag =>
      if e.isMathText && !(["mglyph", "malignmark"].contains tag.name) then false
      else if e.isHtmlIsland then false
      else if e.vocabulary == .mathml && e.name == "annotation-xml" then
        tag.name != "svg" && !e.isMarkupAnnotation
      else true
    | _ =>
      if isText && (e.isMathText || e.isHtmlIsland || e.isMarkupAnnotation) then false else true

/-- Closes a drawing or a formula up to where ordinary markup may stand. -/
def leaveForeign (b : Builder) : Builder :=
  b.popTo fun e => e.vocabulary == .html || e.isMathText || e.isHtmlIsland

/-- An end tag within a drawing or a formula: it closes the element of its name, or, outside of the
drawing, means what it means there. `opened` holds the open elements that are left to compare. -/
def foreignEndTag (b : Builder) (tag : Tag) : Bool → List Nat → Outcome
  | _, [] => b.ignore
  | _, [_] => b.ignore
  | first, n :: outer =>
    let e := b.element n
    if !first && e.vocabulary == .html then b.modeRule (.endTag tag)
    else if Text.Casing.asciiLowerString e.name == tag.name then .done { b with opened := outer }
    else foreignEndTag b tag false outer

/-- Within a drawing or a formula. -/
def foreignRule (b : Builder) (t : Token) : Outcome :=
  match t with
  | .nullCharacter => .done (b.putText ['\uFFFD'])
  | .text blank cs => .done ((if blank then b else b.noFrameset).putText cs)
  | .comment cs => .done (b.putComment cs)
  | .startTag tag =>
    if tag.leavesForeign then b.leaveForeign.modeRule t
    else .done (b.openForeign b.current.vocabulary tag)
  | .endTag tag =>
    if tag.name == "br" || tag.name == "p" then b.leaveForeign.modeRule t
    else b.foreignEndTag tag true b.opened
  | _ => b.ignore

/-- The rule for a token. -/
def rule (b : Builder) (t : Token) : Outcome :=
  if b.isForeign t then b.foreignRule t else b.modeRule t

/-- Deals with a token; every time it is looked at again either the mode moves on or an element is
closed, so that a bounded number of looks is enough. -/
def settleToken (t : Token) : Nat → Builder → Builder
  | 0, b => b
  | looks + 1, b =>
    match b.rule t with
    | .done b => b
    | .again b => settleToken t looks b

/-- Deals with a token that comes from the page. -/
def take (b : Builder) (t : Token) : Builder :=
  let skip := b.skipLineFeed
  let b := { b with skipLineFeed := false }
  let looks := 32 + 4 * b.opened.length
  match t with
  | .doctype _ => if b.mode = .initial then settleToken t looks b else b
  | .text blank ('\n' :: cs) =>
    if skip then
      if cs.isEmpty then b else settleToken (.text blank cs) looks b
    else settleToken t looks b
  | _ => settleToken t looks b

end Builder

end Harvest.Markup
