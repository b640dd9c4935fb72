import Harvest.Markup.Builder

/-!
# Formatting that ends in the wrong place

An end tag of a formatting element may come while blocks within it are still open. `adopt` closes the
element and continues its formatting within the innermost of those blocks: clones of the formatting
elements between the two are made, the block moves out of the formatting element, and a clone of that
element takes over the content of the block.
-/

namespace Harvest.Markup.Builder

/-- Closes the open element that an end tag of the given name stands for, unless a special element
hides it. -/
def closeAny (b : Builder) (name : String) : Builder :=
  match b.opened.find? fun n => (b.element n).isNamed name || (b.element n).isSpecial with
  | none => b
  | some n =>
    if (b.element n).isNamed name then
      let b := b.closeImpliedExcept name
      { b with opened := (b.opened.dropWhile (· != n)).tail }
    else b

/-- Removes a node from the open elements. -/
def closeNode (b : Builder) (node : Nat) : Builder :=
  { b with opened := b.opened.filter (· != node) }

/-- Where the clone of the formatting element goes among the formatting elements. -/
inductive Bookmark where
  /-- In the place of the formatting element. -/
  | inPlace
  /-- Just behind the entry of the given node. -/
  | after (node : Nat)

/-- What has been done with the elements between the formatting element and the block. -/
structure Inner where
  builder : Builder
  /-- The node that has been moved last. -/
  last : Nat
  bookmark : Bookmark

/-- The tag of a formatting entry. -/
def tagOf? (b : Builder) (node : Nat) : Option Tag :=
  b.formatting.findSome? fun f =>
    match f with
    | .element n tag => if n == node then some tag else none
    | .marker => none

/-- Replaces a node among the open elements and the formatting elements. -/
def replaceNode (b : Builder) (old new : Nat) (tag : Tag) : Builder :=
  { b with
    opened := b.opened.map fun n => if n == old then new else n
    formatting := b.formatting.map fun f =>
      if Formatting.isFor old f then .element new tag else f }

/-- Goes outwards through the elements between the block and the formatting element: the nearest
three that are formatting elements are cloned around what has been moved so far, and all others are
closed. -/
def cloneInner (block : Nat) : Nat → List Nat → Inner → Inner
  | _, [], s => s
  | count, node :: outer, s =>
    let b := s.builder
    match (if count < 3 then b.tagOf? node else none) with
    | none => cloneInner block (count + 1) outer
        { s with builder := (if count < 3 then b else b.dropFormatting node).closeNode node }
    | some tag =>
      let (draft, clone) := b.draft.create (.element (.ofTag tag.name tag.attributes))
      let b := { b with draft }.replaceNode node clone tag
      let bookmark := if s.last = block then .after clone else s.bookmark
      let b := { b with draft := b.draft.append clone s.last }
      cloneInner block (count + 1) outer ⟨b, clone, bookmark⟩

/-- Puts an entry behind the entry of another node; entries are held last first. -/
def insertAfter (node : Nat) (entry : Formatting) : List Formatting → List Formatting
  | [] => []
  | f :: rest =>
    if Formatting.isFor node f then entry :: f :: rest else f :: insertAfter node entry rest

/-- Puts a node into the open elements just within another; they are held innermost first. -/
def insertWithin (node new : Nat) : List Nat → List Nat
  | [] => []
  | n :: rest => if n == node then new :: n :: rest else n :: insertWithin node new rest

/-- Moves the formatting into the block. -/
def adoptInto (b : Builder) (node : Nat) (tag : Tag) (block ancestor : Nat) : Builder :=
  let between := ((b.opened.dropWhile (· != block)).tail).takeWhile (· != node)
  let s := cloneInner block 0 between ⟨b, block, .inPlace⟩
  let b := s.builder
  let b := { b with draft := b.draft.detach s.last }
  let b := b.putNode (b.placeIn ancestor) s.last
  let (draft, clone) := b.draft.create (.element (.ofTag tag.name tag.attributes))
  let draft := (draft.moveChildren block clone).append block clone
  let entry := Formatting.element clone tag
  let formatting := match s.bookmark with
    | .inPlace => b.formatting.map fun f => if Formatting.isFor node f then entry else f
    | .after n => (insertAfter n entry b.formatting).filter fun f => !Formatting.isFor node f
  let b := { b with draft, formatting }.closeNode node
  { b with opened := insertWithin block clone b.opened }

/-- Repeats the closing of a formatting element while clones of it remain, at most `rounds` times. -/
def adoptRounds (name : String) : Nat → Builder → Builder
  | 0, b => b
  | rounds + 1, b =>
    match b.findFormatting name with
    | none => b.closeAny name
    | some (node, tag) =>
      if !b.opened.contains node then b.dropFormatting node
      else if !b.nodeInScope node then b
      else
        let within := b.opened.takeWhile (· != node)
        match within.reverse.find? fun n => (b.element n).isSpecial with
        | none =>
          { b with opened := (b.opened.dropWhile (· != node)).tail }.dropFormatting node
        | some block =>
          let ancestor := ((b.opened.dropWhile (· != node)).tail).headD b.root
          adoptRounds name rounds (b.adoptInto node tag block ancestor)

/-- Closes a formatting element. -/
def adopt (b : Builder) (name : String) : Builder :=
  if b.current.isNamed name && !b.formatting.any (Formatting.isFor b.currentNode) then b.pop
  else adoptRounds name 8 b

end Harvest.Markup.Builder
