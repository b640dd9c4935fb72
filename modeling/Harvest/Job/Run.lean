import Harvest.Job.Traversal
import Harvest.Text.Clean

/-!
# Jobs

A `Job` fetches one page and collects the records that its schema describes. It can be run any number of
times; a `JobState` keeps what one run leaves to the next. A job may look up the address it is seen under
before each run, and ask for another one if that is still the address of the run before. How another one is
asked for is up to whoever made the job. If that breaks down the run ends there (`Job.brokenRun?`), and runs
after it take no note of addresses.
-/

namespace Harvest

/-- A page to scrape, and how. -/
structure Job where
  name : String
  url : String
  schema : Option Schema
  client : Client
  stopOn : Option StopRule
  /-- The url that tells the address the job is seen under. -/
  addressUrl : Option String
  /-- How many milliseconds to wait between pages that a list leads to. -/
  childDelay : Nat

/-- What runs of a job leave behind. -/
structure JobState where
  history : History
  registry : Registry
  /-- How many records have gone out. -/
  total : Nat
  /-- How many milliseconds have been spent waiting. -/
  waited : Nat
  /-- The address that was seen last. -/
  lastAddress : Option String
  /-- How many times another address has been asked for. -/
  rotations : Nat
  /-- Whether asking for another address has broken down. -/
  rotationBroken : Bool

/-- The state before the first run. -/
def JobState.start (registry : Registry) : JobState :=
  ⟨[], registry, 0, 0, none, 0, false⟩

namespace Job

/-- The job of a page without any options. -/
def plain (name url : String) (schema : Option Schema) (client : Client) : Job :=
  ⟨name, url, schema, client, none, none, 0⟩

variable (j : Job)

/-- Whether another address is to be asked for, since the job is seen under the same as before. -/
def isUnchanged (address : String) (s : JobState) : Bool :=
  j.client.socksEnabled && s.lastAddress == some address

/-- Takes note of the address the job is seen under, and asks for another one if it has not changed. -/
def noteAddress (address : String) (s : JobState) : JobState :=
  if s.rotationBroken then s
  else
    { s with
      lastAddress := some address
      rotations := if j.isUnchanged address s then s.rotations + 1 else s.rotations }

/-- Looks up the address that the job is seen under. -/
def checkAddress (s : JobState) : JobState :=
  match j.addressUrl with
  | none => s
  | some url =>
    match j.client.fetchText url s.history with
    | (.error _, h) => { s with history := h }
    | (.ok body, h) => j.noteAddress (Text.trim body) { s with history := h }

/-- Fetches the page of a url. -/
def fetchTop (url : Url) (s : JobState) : Except ScrapeError WebPage × JobState :=
  match j.client.fetchText url.toText s.history with
  | (.error e, h) => (.error (.client e), { s with history := h })
  | (.ok body, h) => (.ok (.parse url body), { s with history := h })

/-- Takes the records out of a page and hands them to an outlet. -/
def traverse {ω : Type} (schema : Schema) (outlet : Outlet ω) (sink : ω) (page : WebPage)
    (s : JobState) : ω × JobState :=
  let t : Traversal ω := ⟨j.client, schema, j.stopOn, j.childDelay, outlet⟩
  let p := t.run page ⟨s.history, s.registry, 0, s.total, s.waited, sink⟩
  (p.sink,
    { s with history := p.history, registry := p.registry, total := p.total, waited := p.waited })

/-- Runs the job with an outlet for its records. A job without a schema or with a malformed url does
nothing. -/
def scrapeInto {ω : Type} (outlet : Outlet ω) (sink : ω) (s : JobState) :
    Except ScrapeError ω × JobState :=
  match j.schema with
  | none => (.error .noSchema, s)
  | some schema =>
    match Url.parse j.url with
    | .error fault => (.error (.invalidUrl j.url fault), s)
    | .ok url =>
      match j.fetchTop url (j.checkAddress s) with
      | (.error e, s) => (.error e, s)
      | (.ok page, s) =>
        let (sink, s) := j.traverse schema outlet sink page s
        (.ok sink, s)

/-- The state that a run leaves in which asking for another address breaks down. There is no such run if
none is asked for. -/
def brokenRun? (s : JobState) : Option JobState :=
  match j.schema, Url.parse j.url, j.addressUrl with
  | some _, .ok _, some url =>
    match j.client.fetchText url s.history with
    | (.error _, _) => none
    | (.ok body, h) =>
      if !s.rotationBroken && j.isUnchanged (Text.trim body) s then
        some { s with history := h, rotations := s.rotations + 1, rotationBroken := true }
      else none
  | _, _, _ => none

/-- The outlet that keeps every record. -/
def keepAll : Outlet (Array Record) :=
  fun records record => some (records.push record)

/-- Runs the job and collects its records. -/
def scrape (s : JobState) : Except ScrapeError (List Record) × JobState :=
  let (records, s) := j.scrapeInto keepAll #[] s
  (records.map Array.toList, s)

end Job

end Harvest
