import Harvest.Client.Basic
import Harvest.Extract.Evaluate
import Harvest.Scrape.Basic
import Harvest.Text.Utf8

/-!
# Pages

A `PageScraper` takes rows out of web pages by a schema. How a url is requested is up to its
`request`, which may just as well send a form somewhere else.
-/

namespace Harvest

/-- A way to take rows out of web pages. -/
structure PageScraper where
  client : Client
  schema : Schema
  /-- The request for a url. -/
  request : String → Request

/-- What a scraper has done so far: its requests, and the registry it looks types up in. -/
structure PageState where
  history : History
  registry : Registry

namespace PageScraper

/-- The scraper that requests urls as they are. -/
def plain (client : Client) (schema : Schema) : PageScraper :=
  ⟨client, schema, .get⟩

variable (p : PageScraper)

/-- Makes a request. -/
def send (request : Request) (h : History) : Except ClientError (List UInt8) × History :=
  match request with
  | .get url => p.client.fetchBytes url h
  | .post url form => p.client.sendForBytes url form h

/-- The bytes behind a url. -/
def scrapeUrl (url : String) : Action PageState (List UInt8) := fun s =>
  let (body, h) := p.send (p.request url) s.history
  (body.mapError .client, { s with history := h })

/-- The records of bytes, as rows. -/
def rows (bytes : List UInt8) : Action PageState Rows := fun s =>
  let document := Markup.Document.parse (Text.Utf8.toStringLossy bytes)
  let (records, registry) := Extract.records p.schema document s.registry
  (.ok (records.map Record.toJson), { s with registry := registry })

/-- The scraper of single urls; pages do not lead to others. -/
def toScraper : Scraper PageState where
  scrapeUrl := p.scrapeUrl
  nextUrl _ _ := .of (.error (.notImplemented "PageScraper::get_next_url"))
  rows := p.rows
  parseRow _ := .of (.error (.notImplemented "PageScraper::parse_row"))

end PageScraper

end Harvest
