import Harvest.Client.Basic
import Harvest.Number.Exact
import Harvest.Payload
import Harvest.Scrape.Basic
import Harvest.Template.Render

/-!
# Paginated interfaces

A `RestScraper` is made of strategies: how to read the bytes of a page, and how to find the rows, their
total and the next url in what has been read. The strategies of `RestScraper.plain` say that there is
nothing, so that a scraper nobody configured ends without a failure. `RestScraper.json` reads rows and
total from fixed paths and takes the next url from a template.
-/

namespace Harvest

/-- Strategies for walking through pages whose content is read as `δ`. -/
structure RestScraper (δ : Type) where
  client : Client
  parse : List UInt8 → Except ScrapeError δ
  nextUrl : Url → δ → Except ScrapeError String
  total : δ → Except ScrapeError Nat
  rows : δ → Except ScrapeError Rows
  row : Json → Except ScrapeError Json
  /-- After how many pages to stop; zero stands for no limit. -/
  pageLimit : Nat

/-- What a scraper has done so far. -/
structure RestState where
  history : History
  /-- How many pages with content have been fetched. -/
  scraped : Nat
  deriving DecidableEq, Repr

namespace RestState

/-- Nothing has been done. -/
def start : RestState := ⟨[], 0⟩

end RestState

namespace RestScraper

/-- A count as JSON: the nearest floating-point number without its fraction. -/
def countOf? : Json → Option Nat
  | .int i => if 0 ≤ i then some (min (Number.roundNat i.toNat) Number.maxNat64) else none
  | .float f => if 0 ≤ f then some (Number.truncate 0 Number.maxNat64 f).toNat else none
  | _ => none

/-- The scraper that finds nothing in a page. -/
def plain (client : Client) : RestScraper Payload where
  client := client
  parse bytes := .ok (.raw bytes)
  nextUrl _ _ := .error .noNextUrl
  total _ := .error .noRows
  rows _ := .error .noRows
  row _ := .error .noRows
  pageLimit := 0

/-- Reads bytes in a format. -/
def parseAs (format : Format) (bytes : List UInt8) : Except ScrapeError Payload :=
  (Payload.parse format bytes).mapError .json

/-- The total at a path. -/
def totalAt (path : String) (p : Payload) : Except ScrapeError Nat :=
  match ((p.get? path).bind Item.json?).bind countOf? with
  | some n => .ok n
  | none => .error .noData

/-- The rows at a path. -/
def rowsAt (path : String) (p : Payload) : Except ScrapeError Rows :=
  match p.get? path with
  | some (.json (.array rows)) => .ok rows
  | _ => .error .noData

/-- The scraper for JSON that finds total and rows at the given paths. -/
def json (client : Client) (template countPath rowsPath : String) :
    Except ScrapeError (RestScraper Payload) :=
  (Template.compile template).map fun t =>
    { plain client with
      parse := parseAs .json
      nextUrl := t.nextUrl
      total := totalAt countPath
      rows := rowsAt rowsPath
      row := .ok }

variable {δ : Type} (r : RestScraper δ)

/-- Fetches a page. An empty body counts as no data. -/
def fetch (url : Url) : Action RestState (List UInt8) := fun s =>
  match r.client.fetchBytes url.toText s.history with
  | (.error e, h) => (.error (.client e), { s with history := h })
  | (.ok body, h) =>
    if body.isEmpty then (.error .noData, { s with history := h })
    else (.ok body, ⟨h, s.scraped + 1⟩)

/-- The rows of what has been read, each passed through the strategy for rows. -/
def finishedRows (data : δ) : Except ScrapeError Rows :=
  match r.rows data with
  | .error e => .error e
  | .ok rows => rows.mapM r.row

/-- The finished rows of a page, with the next url or why there is none. -/
def readPage (url : Url) (body : List UInt8) :
    Except ScrapeError (Rows × Except ScrapeError String) :=
  match r.parse body with
  | .error e => .error e
  | .ok data => (r.finishedRows data).map fun rows => (rows, r.nextUrl url data)

/-- Fetches a page and reads it. -/
def page (url : Url) : Action RestState (Rows × Except ScrapeError String) :=
  (r.fetch url).andThen fun body => .of (r.readPage url body)

/-- Reads a url from text. -/
def parseUrl (url : String) : Except ScrapeError Url :=
  (Url.parse url).mapError (.invalidUrl url)

/-- Fetches the page of a url that is given as text. -/
def scrapeUrl (url : String) : Action RestState (List UInt8) :=
  (Action.of (parseUrl url)).andThen r.fetch

/-- The url that follows a url with the given bytes. -/
def nextUrlOf (last : String) (bytes : List UInt8) : Except ScrapeError String :=
  match parseUrl last with
  | .error e => .error e
  | .ok url =>
    match r.parse bytes with
    | .error e => .error e
    | .ok data => r.nextUrl url data

/-- The rows of bytes as they stand there. -/
def rowsOf (bytes : List UInt8) : Except ScrapeError Rows :=
  match r.parse bytes with
  | .error e => .error e
  | .ok data => r.rows data

/-- The scraper of single urls. -/
def toScraper : Scraper RestState where
  scrapeUrl := r.scrapeUrl
  nextUrl last bytes := .of (r.nextUrlOf last bytes)
  rows bytes := .of (r.rowsOf bytes)
  parseRow row := .of (r.row row)

end RestScraper

end Harvest
