import Harvest.Client.Basic
import Harvest.Extract.Evaluate

/-!
# Traversals

A `Traversal` takes the records out of a web page and hands them to an outlet, one after the other. A
page that lists urls leads to further pages, whose records are taken instead. The traversal ends when a
record makes it stop, and when nobody listens at the outlet any more.
-/

namespace Harvest

/-- Somewhere that records go to. There is no state after a record that nobody listens for. -/
abbrev Outlet (ω : Type) := ω → Record → Option ω

/-- Whether to stop at a record, by how many came before it. -/
abbrev StopRule := Nat → Record → Bool

/-- How to take the records out of a page. -/
structure Traversal (ω : Type) where
  client : Client
  schema : Schema
  stopOn : Option StopRule
  /-- How many milliseconds to wait between pages that a list leads to. -/
  childDelay : Nat
  outlet : Outlet ω

/-- How far a traversal has come. -/
structure Progress (ω : Type) where
  history : History
  registry : Registry
  /-- How many records have gone out in this traversal. -/
  emitted : Nat
  /-- How many records have ever gone out. -/
  total : Nat
  /-- How many milliseconds have been spent waiting. -/
  waited : Nat
  sink : ω

namespace Traversal

variable {ω : Type} (t : Traversal ω)

/-- Whether a record makes the traversal stop. -/
def stops (index : Nat) (record : Record) : Bool :=
  match t.stopOn with
  | some rule => rule index record
  | none => false

/-- Hands a record to the outlet, and tells whether to go on. -/
def emit (record : Record) (p : Progress ω) : Bool × Progress ω :=
  if t.stops p.emitted record then (false, p)
  else
    match t.outlet p.sink record with
    | none => (false, p)
    | some sink => (true, { p with emitted := p.emitted + 1, total := p.total + 1, sink := sink })

/-- Emits a record for each of several selections, and tells whether to go on. -/
def emitEach (read : Selection → Registered Record) :
    List Selection → Progress ω → Bool × Progress ω
  | [], p => (true, p)
  | sel :: more, p =>
    let (record, registry) := read sel p.registry
    match t.emit record { p with registry := registry } with
    | (true, p) => emitEach read more p
    | (false, p) => (false, p)

/-- Emits the records that a page holds by each of several schemas, and tells whether to go on. -/
def childRecords (page : WebPage) : List Schema → Progress ω → Bool × Progress ω
  | [], p => (true, p)
  | s :: more, p =>
    match t.emitEach (Extract.nestedRecord s.properties)
        (Selection.ofDocument page.document s.selector).each p with
    | (true, p) => childRecords page more p
    | (false, p) => (false, p)

/-- The url that a link leads to. -/
def target? (base : Url) (link : Selection) : Option Url :=
  (Path.resolve t.schema.css link).bind fun reference => (base.join reference).toOption

/-- Waits before a page, unless it is the first. -/
def pause (count : Nat) (p : Progress ω) : Progress ω :=
  if 0 < count then { p with waited := p.waited + t.childDelay } else p

/-- Takes the records out of the page behind a link, and tells whether to go on. A page that cannot be
fetched is passed over. -/
def childPage (url : Url) (p : Progress ω) : Bool × Progress ω :=
  match t.client.fetchPage url.toText p.history with
  | (.error _, h) => (true, { p with history := h })
  | (.ok page, h) => t.childRecords page t.schema.properties { p with history := h }

/-- Whether a number of links is all that a list may have. -/
def limitReached (count : Nat) : Bool :=
  0 < t.schema.limit && t.schema.limit ≤ count

/-- Follows links, of which `count` came before. A link that leads nowhere ends the list. -/
def childPages (base : Url) : Nat → List Selection → Progress ω → Progress ω
  | _, [], p => p
  | count, link :: more, p =>
    match t.target? base link with
    | none => p
    | some url =>
      match t.childPage url (t.pause count p) with
      | (false, p) => p
      | (true, p) => if t.limitReached (count + 1) then p else childPages base (count + 1) more p

/-- Takes the records out of a page. -/
def run (page : WebPage) (p : Progress ω) : Progress ω :=
  let nodes := (Selection.ofDocument page.document t.schema.selector).each
  if t.schema.isUrlList then t.childPages page.url 0 nodes p
  else (t.emitEach (Extract.record t.schema.properties) nodes p).2

end Traversal

end Harvest
