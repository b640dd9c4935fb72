import Harvest.Extract.Registry
import Harvest.Job.Run
import Harvest.Scrape.Page
import Harvest.Scrape.Rest
import Harvest.Stream.Pool
import Harvest.Template.Parser
import Harvest.Text.Quoted

/-!
# Descriptions

One line of text for what a person wants to see of a scraper or a job: a name and some fields between
braces, where two full stops stand for whatever else there is.
-/

namespace Harvest

namespace Describe

/-- A name and the value behind it. -/
def field (name value : String) : String :=
  name ++ ": " ++ value

/-- A name with parts between braces. -/
def braced (name : String) (parts : List String) : String :=
  name ++ " \x7b " ++ String.intercalate ", " parts ++ " \x7d"

/-- A truth value. -/
def bool (b : Bool) : String :=
  if b then "true" else "false"

/-- A list of quoted texts. -/
def quotedList (texts : List String) : String :=
  "[" ++ String.intercalate ", " (texts.map Text.Quoted.quote) ++ "]"

/-- What stands for everything else. -/
def others : String := ".."

end Describe

open Describe

/-- The description of a registry. -/
def Registry.describe (r : Registry) : String :=
  braced "TypeRegistry" [field "types" (quotedList r.names), field "sealed" (bool r.isSealed)]

/-- The description of a template. -/
def Template.describe (_ : Template) : String :=
  braced "NextUrlTemplate" [others]

/-- The description of a page scraper. -/
def PageScraper.describe (p : PageScraper) : String :=
  braced "PageScraper" [field "schema" (Text.Quoted.quote p.schema.id), others]

/-- The description of a scraper for paginated interfaces. -/
def RestScraper.describe {δ : Type} (r : RestScraper δ) (s : RestState) : String :=
  braced "RestScraper"
    [field "page_limit" (Number.ofNat r.pageLimit),
     field "scraped_count" (Number.ofNat s.scraped), others]

/-- The description of a job. -/
def Job.describe (j : Job) (s : JobState) : String :=
  braced "Job"
    [field "name" (Text.Quoted.quote j.name), field "url" (Text.Quoted.quote j.url),
     field "stats" (braced "JobStats" [field "total_items" (Number.ofNat s.total)]), others]

/-- The description of a pool. The workers are those that closing the pool would wait for. -/
def Pool.describe {σ : Type} (p : Pool σ) : String :=
  braced "StreamRunner"
    [field "workers" (Number.ofNat p.handles.length),
     field "closed" (bool !p.accepting)]

end Harvest
