import Harvest.Markup.Element

/-!
# Pages under construction

A `Draft` is an arena of nodes. Each node knows its parent and its children; a node that has been
taken out of the page has no parent. Nodes keep the number under which they were made. Text that is
put next to text joins it.
-/

namespace Harvest.Markup

/-- What a node is. -/
inductive NodeKind where
  | document
  | doctype (declaration : Doctype)
  | element (value : Element)
  /-- Pieces of text, the last one first. -/
  | text (pieces : List (List Char))
  | comment (text : List Char)
  deriving Repr, Inhabited

/-- A node of a page under construction. -/
structure DraftNode where
  kind : NodeKind
  parent : Option Nat
  children : Array Nat
  deriving Repr, Inhabited

/-- A page under construction; node zero is the document. -/
structure Draft where
  nodes : Array DraftNode

namespace Draft

/-- A page without content. -/
def empty : Draft :=
  ⟨#[⟨.document, none, #[]⟩]⟩

/-- Makes a node that is nowhere in the page yet. -/
def create (d : Draft) (kind : NodeKind) : Draft × Nat :=
  (⟨d.nodes.push ⟨kind, none, #[]⟩⟩, d.nodes.size)

/-- The parent of a node. -/
def parent? (d : Draft) (n : Nat) : Option Nat :=
  (d.nodes[n]?).bind (·.parent)

/-- The children of a node. -/
def children (d : Draft) (n : Nat) : Array Nat :=
  ((d.nodes[n]?).map (·.children)).getD #[]

/-- The element that a node is; a nameless one for other nodes. -/
def element (d : Draft) (n : Nat) : Element :=
  match d.nodes[n]? with
  | some ⟨.element e, _, _⟩ => e
  | _ => ⟨.html, "", []⟩

/-- Whether a node is text. -/
def isText (d : Draft) (n : Nat) : Bool :=
  match d.nodes[n]? with
  | some ⟨.text _, _, _⟩ => true
  | _ => false

/-- Takes a node from its place. -/
def detach (d : Draft) (n : Nat) : Draft :=
  match d.parent? n with
  | none => d
  | some p =>
    let nodes := d.nodes.modify p fun node =>
      { node with children := node.children.filter (· != n) }
    ⟨nodes.modify n fun node => { node with parent := none }⟩

/-- Puts a node at the end of another. -/
def append (d : Draft) (parent child : Nat) : Draft :=
  let d := d.detach child
  let nodes := d.nodes.modify parent fun node => { node with children := node.children.push child }
  ⟨nodes.modify child fun node => { node with parent := some parent }⟩

/-- The children with a node put in front of another. -/
def placeBefore (children : Array Nat) (sibling child : Nat) : Array Nat :=
  children.foldl (fun acc c => if c = sibling then (acc.push child).push c else acc.push c) #[]

/-- Puts a node in front of another; nothing happens if that is nowhere. -/
def insertBefore (d : Draft) (sibling child : Nat) : Draft :=
  let d := d.detach child
  match d.parent? sibling with
  | none => d
  | some p =>
    let nodes := d.nodes.modify p fun node =>
      { node with children := placeBefore node.children sibling child }
    ⟨nodes.modify child fun node => { node with parent := some p }⟩

/-- Adds characters to a text node. -/
def extendText (d : Draft) (n : Nat) (cs : List Char) : Draft :=
  ⟨d.nodes.modify n fun node =>
    match node.kind with
    | .text pieces => { node with kind := .text (cs :: pieces) }
    | _ => node⟩

/-- Puts text at the end of a node. -/
def appendText (d : Draft) (parent : Nat) (cs : List Char) : Draft :=
  match (d.children parent).back? with
  | some last =>
    if d.isText last then d.extendText last cs
    else
      let (d, n) := d.create (.text [cs])
      d.append parent n
  | none =>
    let (d, n) := d.create (.text [cs])
    d.append parent n

/-- The node in front of another. -/
def previous? (d : Draft) (n : Nat) : Option Nat :=
  (d.parent? n).bind fun p =>
    let siblings := d.children p
    (siblings.findIdx? (· == n)).bind fun i => if i = 0 then none else siblings[i - 1]?

/-- Puts text in front of a node. -/
def insertTextBefore (d : Draft) (sibling : Nat) (cs : List Char) : Draft :=
  match d.previous? sibling with
  | some before =>
    if d.isText before then d.extendText before cs
    else
      let (d, n) := d.create (.text [cs])
      d.insertBefore sibling n
  | none =>
    let (d, n) := d.create (.text [cs])
    d.insertBefore sibling n

/-- Moves the children of a node to the end of another. -/
def moveChildren (d : Draft) (source target : Nat) : Draft :=
  (d.children source).foldl (fun d c => d.append target c) d

/-- Gives an element the attributes that it lacks. -/
def addAttributes (d : Draft) (n : Nat) (attributes : List Attribute) : Draft :=
  ⟨d.nodes.modify n fun node =>
    match node.kind with
    | .element e =>
      let missing := attributes.filter fun a => (e.attribute? a.1).isNone
      let attributes := e.attributes ++ missing.map fun a => ⟨a.1, a.2, false⟩
      { node with kind := .element ⟨e.vocabulary, e.name, attributes⟩ }
    | _ => node⟩

end Draft

end Harvest.Markup
