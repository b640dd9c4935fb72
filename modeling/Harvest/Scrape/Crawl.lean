import Harvest.Scrape.Rest

/-!
# Crawls

A `Crawl` is the place that a walk through pages has come to, and `RestScraper.next` takes the walk one
page further. It ends when a page says that there is no more, or at the page limit. Any other failure is
told once and ends the walk; a failure to find the next url waits until the page before it has been told.
-/

namespace Harvest

/-- The rows of a page that has been fetched. -/
structure RestPage where
  url : Url
  rows : Rows

/-- The place that a walk through pages has come to. -/
structure Crawl where
  /-- The url of the next page. -/
  next : Option Url
  /-- How many pages have been told. -/
  fetched : Nat
  /-- A failure that is told next. -/
  pending : Option ScrapeError

namespace Crawl

/-- The walk that begins at a url. -/
def start (url : Url) : Crawl :=
  ⟨some url, 0, none⟩

/-- Takes what stands for the next url against the url it was found at. -/
def resolve (url : Url) (next : Except ScrapeError String) : Except ScrapeError Url :=
  match next with
  | .error e => .error e
  | .ok reference => (url.join reference).mapError (.invalidUrl reference)

/-- The walk after one more page. -/
def after (c : Crawl) (next : Except ScrapeError Url) : Crawl :=
  match next with
  | .ok url => ⟨some url, c.fetched + 1, none⟩
  | .error e => ⟨none, c.fetched + 1, if e.isExhausted then none else some e⟩

end Crawl

/-- What a walk tells at a page. -/
abbrev CrawlItem := Except ScrapeError RestPage

namespace RestScraper

variable {δ : Type} (r : RestScraper δ)

/-- Whether the page limit has been reached after so many pages. -/
def limitReached (fetched : Nat) : Bool :=
  0 < r.pageLimit && r.pageLimit ≤ fetched

/-- Takes a walk to the page behind a url. -/
def visit (c : Crawl) (url : Url) (s : RestState) : Option CrawlItem × Crawl × RestState :=
  match r.page url s with
  | (.error e, s) =>
    (if e.isExhausted then none else some (.error e), { c with next := none }, s)
  | (.ok (rows, next), s) => (some (.ok ⟨url, rows⟩), c.after (Crawl.resolve url next), s)

/-- Takes a walk one page further. -/
def next (c : Crawl) (s : RestState) : Option CrawlItem × Crawl × RestState :=
  match c.pending with
  | some e => (some (.error e), ⟨none, c.fetched, none⟩, s)
  | none =>
    if r.limitReached c.fetched then (none, c, s)
    else
      match c.next with
      | none => (none, c, s)
      | some url => r.visit c url s

/-- What a walk tells in at most `bound` pages, and whether it has ended by then. -/
def collect : Nat → Crawl → RestState → List CrawlItem × Bool × RestState
  | 0, _, s => ([], false, s)
  | bound + 1, c, s =>
    match r.next c s with
    | (none, _, s) => ([], true, s)
    | (some item, c, s) =>
      let (items, ended, s) := collect bound c s
      (item :: items, ended, s)

/-- What the walk from a url tells in at most `bound` pages, and whether it has ended by then. -/
def crawl (bound : Nat) (url : Url) (s : RestState) : List CrawlItem × Bool × RestState :=
  r.collect bound (.start url) s

end RestScraper

end Harvest
