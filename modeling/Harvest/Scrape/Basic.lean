import Harvest.Error
import Harvest.Json.Basic

/-!
# Scrapers

A `Scraper` fetches a url and turns what it gets into rows. Its operations may change its state, such as
the requests it has made.
-/

namespace Harvest

/-- An operation that may fail and may change a state either way. -/
abbrev Action (σ α : Type) := σ → Except ScrapeError α × σ

namespace Action

variable {σ α β : Type}

/-- An operation without effect. -/
def of (r : Except ScrapeError α) : Action σ α := fun s => (r, s)

/-- One operation after another, unless the first fails. -/
def andThen (first : Action σ α) (next : α → Action σ β) : Action σ β := fun s =>
  match first s with
  | (.error e, s) => (.error e, s)
  | (.ok a, s) => next a s

end Action

/-- The rows that a page holds. -/
abbrev Rows := List Json

/-- A way to fetch urls and to turn what they hold into rows. -/
structure Scraper (σ : Type) where
  /-- The bytes behind a url. -/
  scrapeUrl : String → Action σ (List UInt8)
  /-- The url that follows a url with the given bytes. -/
  nextUrl : String → List UInt8 → Action σ String
  /-- The rows of bytes. -/
  rows : List UInt8 → Action σ Rows
  parseRow : Json → Action σ Json

/-- The rows behind a url. -/
def Scraper.rowsAt {σ : Type} (s : Scraper σ) (url : String) : Action σ Rows :=
  (s.scrapeUrl url).andThen s.rows

end Harvest
