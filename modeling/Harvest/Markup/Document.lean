import Harvest.Markup.Insertion

/-!
# Documents

A `Document` is a page as a list of nodes in document order, each with its depth. The descendants of a
node are the nodes behind it that lie deeper, up to the first that does not: `Document.descendants`
gives them in document order. Every node also keeps the place it had when the nodes were made, which
differs from document order where content was moved before a table.

`Document.parse` reads any text as a page.
-/

namespace Harvest.Markup

/-- What a node of a document is. -/
inductive NodeContent where
  | doctype
  | element (value : Element)
  | text (value : String)
  | comment (value : String)
  deriving Repr, DecidableEq, Inhabited

/-- A node of a document. -/
structure Node where
  content : NodeContent
  /-- How many nodes are around it. -/
  depth : Nat
  /-- The node around it. -/
  parent : Option Nat
  /-- How many nodes were made before it. -/
  birth : Nat
  deriving Repr, Inhabited

/-- A page; the nodes stand in document order. -/
structure Document where
  nodes : Array Node
  deriving Inhabited

namespace Document

/-! ## Looking at a document -/

/-- The element that a node is. -/
def element? (d : Document) (n : Nat) : Option Element :=
  match d.nodes[n]? with
  | some ⟨.element e, _, _, _⟩ => some e
  | _ => none

/-- The depth of a node. -/
def depth (d : Document) (n : Nat) : Nat :=
  ((d.nodes[n]?).map (·.depth)).getD 0

/-- The nodes from the given one on that lie deeper than `depth`, up to the first that does not; at
most `count` of them. -/
def deeperFrom (d : Document) (depth : Nat) : Nat → Nat → List Nat
  | 0, _ => []
  | count + 1, n =>
    match d.nodes[n]? with
    | none => []
    | some node => if depth < node.depth then n :: deeperFrom d depth count (n + 1) else []

/-- The nodes within a node, in document order. -/
def descendants (d : Document) (n : Nat) : List Nat :=
  d.deeperFrom (d.depth n) (d.nodes.size - (n + 1)) (n + 1)

/-- The nodes just within a node, in document order. -/
def children (d : Document) (n : Nat) : List Nat :=
  (d.descendants n).filter fun m => d.depth m == d.depth n + 1

/-- The node around a node. -/
def parent? (d : Document) (n : Nat) : Option Nat :=
  (d.nodes[n]?).bind (·.parent)

/-- The element around a node. -/
def parentElement? (d : Document) (n : Nat) : Option Nat :=
  (d.parent? n).bind fun p => if (d.element? p).isSome then some p else none

/-- The elements of a list of nodes. -/
def elementsOf (d : Document) (ns : List Nat) : List Nat :=
  ns.filter fun n => (d.element? n).isSome

/-- The text that a node is. -/
def textOf (d : Document) (n : Nat) : String :=
  match d.nodes[n]? with
  | some ⟨.text s, _, _, _⟩ => s
  | _ => ""

/-- The text within a node. -/
def text (d : Document) (n : Nat) : String :=
  String.join ((d.descendants n).map d.textOf)

/-- The text just within a node. -/
def ownText (d : Document) (n : Nat) : String :=
  String.join ((d.children n).map d.textOf)

/-- The outermost element. -/
def root (d : Document) : Nat :=
  ((List.range d.nodes.size).find? fun n => (d.element? n).isSome).getD 0

/-- The elements by the time at which they were made. -/
def elementsByBirth (d : Document) : List Nat :=
  let birth (n : Nat) : Nat := ((d.nodes[n]?).map (·.birth)).getD 0
  (d.elementsOf (List.range d.nodes.size)).mergeSort fun m n => birth m ≤ birth n

/-! ## Reading a page -/

/-- A subtree that still has to be written down: the node of the page under construction, with the
depth and the parent it gets. -/
structure Pending where
  node : Nat
  depth : Nat
  parent : Option Nat

/-- What a node of a page under construction is when the page is finished. -/
def contentOf : NodeKind → NodeContent
  | .document => .comment ""
  | .doctype _ => .doctype
  | .element e => .element e
  | .text pieces => .text (String.ofList pieces.reverse.flatten)
  | .comment cs => .comment (String.ofList cs)

/-- Writes down subtrees in document order. Every node is written once, so that as many rounds as
there are nodes are enough. -/
def flatten (d : Draft) : Nat → Array Node → List Pending → Array Node
  | 0, acc, _ => acc
  | _ + 1, acc, [] => acc
  | rounds + 1, acc, p :: more =>
    match d.nodes[p.node]? with
    | none => flatten d rounds acc more
    | some node =>
      let here := acc.size
      let acc := acc.push ⟨contentOf node.kind, p.depth, p.parent, p.node⟩
      let within := node.children.toList.map fun c => Pending.mk c (p.depth + 1) (some here)
      flatten d rounds acc (within ++ more)

/-- The finished page. -/
def ofDraft (d : Draft) : Document :=
  ⟨flatten d (d.nodes.size + 1) #[] ((d.children 0).toList.map fun c => ⟨c, 0, none⟩)⟩

/-- Whether character data sections are known: within drawings and formulas. -/
def knowsSections (b : Builder) : Bool :=
  !b.opened.isEmpty && b.current.vocabulary != .html

/-- Builds a page from its text. Every round takes at least one character. -/
def build : Nat → Builder → List Char → Builder
  | 0, b, _ => b
  | _ + 1, b, [] => b.take .endOfPage
  | rounds + 1, b, cs =>
    let (tokens, rest) := nextTokens b.content (knowsSections b) cs
    build rounds (tokens.foldl Builder.take b) rest

/-- Reads a text as a page. -/
def parse (s : String) : Document :=
  let cs := pageText s
  ofDraft (build (cs.length + 1) .start cs).draft

end Document

end Harvest.Markup
