import Mathlib.Data.List.Induction
import Harvest.Client.Static
import Harvest.Proofs.Scrape.Crawl

/-!
# Several walks with one scraper

A scraper can be used for several walks at once, and for single pages in between. A `Session` is what has
come of such calls in any order. All of them share the requests and the count of the scraper; the place of a
walk, its page limit and its pending failure are its own. With a client whose answers depend on the url
alone, every walk tells what it would tell by itself, and a call counts exactly if it fetches a page with
content (`walks_separate`).
-/

namespace Harvest

/-! ## Pages that count -/

namespace Client

variable (c : Client)

/-- Whether a request for the bytes behind a url is answered, and not with an empty body. -/
def hasContent (past : History) (url : String) : Bool :=
  match c.getBytes past url with
  | .ok body => !body.isEmpty
  | .error _ => false

/-- Whether a request is one for bytes that is answered with content. -/
def serves (past : History) : Request → Bool
  | .get url => c.hasContent past url
  | .post _ _ => false

/-- How many of several requests are answered with content, each made after those before it. -/
def served : History → List Request → Nat
  | _, [] => 0
  | past, request :: more => (c.serves past request).toNat + served (past ++ [request]) more

theorem served_concat (past : History) (requests : List Request) (request : Request) :
    c.served past (requests ++ [request]) =
      c.served past requests + (c.serves (past ++ requests) request).toNat := by
  induction requests generalizing past with
  | nil => simp [served]
  | cons first more ih => simp [served, ih, Nat.add_assoc]

end Client

/-! ## Calls -/

/-- A call of an operation of a scraper or of one of its walks. -/
inductive Call (δ : Type) where
  /-- Begins a walk; walks are numbered from zero on. -/
  | crawl (start : Url)
  | next (walk : Nat)
  | fetch (url : Url)
  | scrapeUrl (url : String)
  | rowsOf (bytes : List UInt8)
  | nextUrlOf (last : String) (bytes : List UInt8)
  | total (data : δ)
  | rows (data : δ)
  | row (row : Json)

/-- What a call answers. -/
inductive Reply where
  | begun
  | item (walk : Nat) (told : Option CrawlItem)
  /-- There is no walk of this number. -/
  | absent
  | bytes (result : Except ScrapeError (List UInt8))
  | rows (result : Except ScrapeError Rows)
  | url (result : Except ScrapeError String)
  | total (result : Except ScrapeError Nat)
  | row (result : Except ScrapeError Json)

/-- The url that a call begins a walk at. -/
def Call.start? {δ : Type} : Call δ → Option Url
  | .crawl start => some start
  | _ => none

/-- What a reply tells of a walk. -/
def Reply.itemOf? (walk : Nat) : Reply → Option (Option CrawlItem)
  | .item i told => if i = walk then some told else none
  | _ => none

/-- A walk that has been begun, with its place. -/
structure Cursor where
  start : Url
  place : Crawl

/-- What calls have led to. -/
structure Session where
  state : RestState
  walks : List Cursor
  log : List Reply

namespace Session

variable {δ : Type}

/-- No call has been made. -/
def new : Session := ⟨.start, [], []⟩

/-- What a walk has told. -/
def told (t : Session) (walk : Nat) : List (Option CrawlItem) :=
  t.log.filterMap (Reply.itemOf? walk)

/-- The session after an operation of the scraper. -/
def perform {α : Type} (t : Session) (action : Action RestState α)
    (reply : Except ScrapeError α → Reply) : Session :=
  { t with state := (action t.state).2, log := t.log ++ [reply (action t.state).1] }

/-- The session after one more step of a walk. -/
def advance (t : Session) (r : RestScraper δ) (walk : Nat) : Session :=
  match t.walks[walk]? with
  | none => { t with log := t.log ++ [.absent] }
  | some c =>
    let (item, place, state) := r.next c.place t.state
    ⟨state, t.walks.set walk ⟨c.start, place⟩, t.log ++ [.item walk item]⟩

/-- The session after a call. -/
def call (t : Session) (r : RestScraper δ) : Call δ → Session
  | .crawl start =>
    { t with walks := t.walks ++ [⟨start, .start start⟩], log := t.log ++ [.begun] }
  | .next walk => t.advance r walk
  | .fetch url => t.perform (r.fetch url) .bytes
  | .scrapeUrl url => t.perform (r.toScraper.scrapeUrl url) .bytes
  | .rowsOf bytes => t.perform (r.toScraper.rows bytes) .rows
  | .nextUrlOf last bytes => t.perform (r.toScraper.nextUrl last bytes) .url
  | .total data => t.perform (.of (r.total data)) .total
  | .rows data => t.perform (.of (r.rows data)) .rows
  | .row row => t.perform (r.toScraper.parseRow row) .row

/-- The session after several calls. -/
def calls (r : RestScraper δ) (made : List (Call δ)) : Session :=
  made.foldl (fun t c => t.call r c) new

theorem calls_concat (r : RestScraper δ) (made : List (Call δ)) (c : Call δ) :
    calls r (made ++ [c]) = (calls r made).call r c := by
  simp [calls]

/-! ## The state of the scraper -/

/-- The url that a call requests. -/
def target? (t : Session) (r : RestScraper δ) : Call δ → Option Url
  | .next walk => t.walks[walk]?.bind fun c => r.target c.place
  | .fetch url => some url
  | .scrapeUrl url => (Url.parse url).toOption
  | _ => none

theorem fetch_state (r : RestScraper δ) (url : Url) (s : RestState) :
    (r.fetch url s).2 =
      ⟨s.history ++ [.get url.toText],
        s.scraped + (r.client.hasContent s.history url.toText).toNat⟩ := by
  unfold RestScraper.fetch Client.fetchBytes Client.hasContent
  cases r.client.getBytes s.history url.toText with
  | error e => rfl
  | ok body => cases body <;> rfl

theorem next_state (r : RestScraper δ) (c : Crawl) (s : RestState) :
    (r.next c s).2.2 =
      match r.target c with
      | none => s
      | some url => (r.fetch url s).2 := by
  rcases r.call_cases c with ⟨e, he⟩ | hfin | ⟨url, hurl⟩
  · rw [RestScraper.next_of_pending he, RestScraper.target_of_pending he]
  · rw [RestScraper.next_of_finished hfin, RestScraper.target_of_finished hfin]
  · rw [RestScraper.next_of_target hurl, hurl, RestScraper.visit_state, RestScraper.page_state]

/-- A call fetches the url that it requests, and does nothing else to the scraper. -/
theorem call_state (t : Session) (r : RestScraper δ) (c : Call δ) :
    (t.call r c).state =
      match t.target? r c with
      | none => t.state
      | some url => (r.fetch url t.state).2 := by
  cases c with
  | next walk =>
    rw [call, advance, target?]
    cases t.walks[walk]? with
    | none => rfl
    | some cursor => exact next_state r cursor.place t.state
  | scrapeUrl url =>
    change (Action.andThen (Action.of (RestScraper.parseUrl url)) r.fetch t.state).2 = _
    rw [RestScraper.parseUrl, target?]
    cases Url.parse url <;> rfl
  | crawl | fetch | rowsOf | nextUrlOf | total | rows | row => rfl

/-! ## Walks by themselves -/

section steady
variable {r : RestScraper δ} (hsteady : ∀ h h' url, r.client.getBytes h url = r.client.getBytes h' url)
include hsteady

theorem page_steady (url : Url) (s s' : RestState) : (r.page url s).1 = (r.page url s').1 := by
  have hfetch : (r.fetch url s).1 = (r.fetch url s').1 := by
    unfold RestScraper.fetch Client.fetchBytes
    rw [hsteady s.history s'.history]
    cases r.client.getBytes s'.history url.toText with
    | error e => rfl
    | ok body => cases body <;> rfl
  rw [RestScraper.page_result, RestScraper.page_result, hfetch]

/-- A walk goes on in the same way whatever else has been requested. -/
theorem next_steady (c : Crawl) (s s' : RestState) :
    (r.next c s).1 = (r.next c s').1 ∧ (r.next c s).2.1 = (r.next c s').2.1 := by
  rcases r.call_cases c with ⟨e, he⟩ | hfin | ⟨url, hurl⟩
  · rw [RestScraper.next_of_pending he, RestScraper.next_of_pending he]
    exact ⟨rfl, rfl⟩
  · rw [RestScraper.next_of_finished hfin, RestScraper.next_of_finished hfin]
    exact ⟨rfl, rfl⟩
  · rw [RestScraper.next_of_target hurl, RestScraper.next_of_target hurl]
    have hpage := page_steady hsteady url s s'
    cases hresult : (r.page url s').1 with
    | error e =>
      rw [RestScraper.visit_of_error (hpage.trans hresult), RestScraper.visit_of_error hresult]
      exact ⟨rfl, rfl⟩
    | ok found =>
      obtain ⟨rows, next⟩ := found
      rw [RestScraper.visit_of_ok (hpage.trans hresult), RestScraper.visit_of_ok hresult]
      exact ⟨rfl, rfl⟩

end steady

/-- A walk has told what it tells by itself from some state on, and is where this leads to. -/
structure Alone (r : RestScraper δ) (s : RestState) (c : Cursor) (told : List (Option CrawlItem)) :
    Prop where
  items : told = (List.range told.length).map (r.item c.start s)
  place : c.place = (r.walk c.start s told.length).1

/-- All walks have told what they tell by themselves, and only walks have told anything. -/
structure Separate (t : Session) (r : RestScraper δ) (s : RestState) : Prop where
  alone : ∀ i c, t.walks[i]? = some c → Alone r s c (t.told i)
  silent : ∀ i, t.walks[i]? = none → t.told i = []

theorem Alone.start (r : RestScraper δ) (s : RestState) (start : Url) :
    Alone r s ⟨start, .start start⟩ [] := ⟨rfl, rfl⟩

theorem Alone.next {r : RestScraper δ} {s : RestState} {c : Cursor} {told : List (Option CrawlItem)}
    (hsteady : ∀ h h' url, r.client.getBytes h url = r.client.getBytes h' url)
    (h : Alone r s c told) (s' : RestState) :
    Alone r s ⟨c.start, (r.next c.place s').2.1⟩ (told ++ [(r.next c.place s').1]) := by
  obtain ⟨hitem, hplace⟩ := next_steady hsteady c.place s' (r.walk c.start s told.length).2
  refine ⟨?_, ?_⟩
  · rw [List.length_append, List.length_singleton, List.range_succ, List.map_append, ← h.items, hitem,
      h.place]
    rfl
  · rw [List.length_append, List.length_singleton, RestScraper.walk_succ, hplace, h.place]

/-! ## Calls one after the other -/

theorem told_concat (log : List Reply) (reply : Reply) (state state' : RestState)
    (walks walks' : List Cursor) (i : Nat) :
    told ⟨state, walks, log ++ [reply]⟩ i =
      told ⟨state', walks', log⟩ i ++ (reply.itemOf? i).toList := by
  rw [told, told, List.filterMap_append]
  cases hreply : reply.itemOf? i <;> simp [hreply]

/-- A reply that tells nothing of any walk. -/
theorem told_of_silent (t : Session) {reply : Reply} (hreply : ∀ i, reply.itemOf? i = none)
    (state : RestState) (walks : List Cursor) (i : Nat) :
    told ⟨state, walks, t.log ++ [reply]⟩ i = t.told i := by
  rw [told_concat t.log reply state t.state walks t.walks, hreply]
  exact List.append_nil _

theorem advance_of_some {t : Session} {i : Nat} {c : Cursor} (h : t.walks[i]? = some c)
    (r : RestScraper δ) :
    t.advance r i =
      ⟨(r.next c.place t.state).2.2, t.walks.set i ⟨c.start, (r.next c.place t.state).2.1⟩,
        t.log ++ [.item i (r.next c.place t.state).1]⟩ := by
  rw [advance, h]

theorem told_advance {t : Session} {i : Nat} {c : Cursor} (h : t.walks[i]? = some c)
    (r : RestScraper δ) (j : Nat) :
    (t.advance r i).told j =
      if i = j then t.told j ++ [(r.next c.place t.state).1] else t.told j := by
  rw [advance_of_some h, told_concat t.log _ _ t.state _ t.walks, Reply.itemOf?]
  split
  · rfl
  · exact List.append_nil _

section separate
variable {t : Session} {r : RestScraper δ} {s : RestState}

theorem Separate.new (r : RestScraper δ) (s : RestState) : Separate new r s := by
  refine ⟨fun i c h => ?_, fun i _ => rfl⟩
  simp [Session.new] at h

/-- A reply that tells nothing of any walk leaves all of them as they are. -/
theorem Separate.silently (h : t.Separate r s) {reply : Reply} (hreply : ∀ i, reply.itemOf? i = none)
    (state : RestState) : Separate ⟨state, t.walks, t.log ++ [reply]⟩ r s := by
  have htold := t.told_of_silent hreply state t.walks
  refine ⟨fun i c hc => ?_, fun i hi => (htold i).trans (h.silent i hi)⟩
  have halone := h.alone i c hc
  rwa [← htold i] at halone

theorem Separate.crawl (h : t.Separate r s) (start : Url) :
    (t.call r (.crawl start)).Separate r s := by
  have hbegun : ∀ i, Reply.begun.itemOf? i = none := fun _ => rfl
  have htold := t.told_of_silent hbegun t.state (t.walks ++ [⟨start, .start start⟩])
  refine ⟨fun i c hc => ?_, fun i hi => ?_⟩
  · have hc : (t.walks ++ [⟨start, .start start⟩])[i]? = some c := hc
    rw [call, htold]
    by_cases hi : i < t.walks.length
    · rw [List.getElem?_append_left hi] at hc
      exact h.alone i c hc
    · have hsilent : t.told i = [] := h.silent i (List.getElem?_eq_none (Nat.le_of_not_lt hi))
      rw [List.getElem?_append_right (Nat.le_of_not_lt hi)] at hc
      have hcursor : c = ⟨start, .start start⟩ := by
        have hmem := List.mem_of_getElem? hc
        simpa using hmem
      rw [hsilent, hcursor]
      exact .start r s start
  · have hi : (t.walks ++ [⟨start, .start start⟩])[i]? = none := hi
    rw [call, htold]
    rw [List.getElem?_eq_none_iff, List.length_append] at hi
    exact h.silent i (List.getElem?_eq_none (by omega))

theorem Separate.advance (hsteady : ∀ h h' url, r.client.getBytes h url = r.client.getBytes h' url)
    (h : t.Separate r s) (i : Nat) : (t.advance r i).Separate r s := by
  cases hi : t.walks[i]? with
  | none =>
    rw [Session.advance, hi]
    exact h.silently (fun _ => rfl) t.state
  | some cursor =>
    have hlt : i < t.walks.length := by
      by_contra hge
      rw [List.getElem?_eq_none (Nat.le_of_not_lt hge)] at hi
      cases hi
    refine ⟨fun j c hc => ?_, fun j hj => ?_⟩
    · rw [told_advance hi]
      rw [advance_of_some hi] at hc
      by_cases hij : i = j
      · subst hij
        have hcursor := List.getElem?_set_self hlt ▸ hc
        cases hcursor
        rw [if_pos rfl]
        exact (h.alone i cursor hi).next hsteady t.state
      · rw [if_neg hij]
        exact h.alone j c (List.getElem?_set_ne hij ▸ hc)
    · rw [advance_of_some hi] at hj
      have hge : t.walks.length ≤ j := by
        have hge := List.getElem?_eq_none_iff.1 hj
        rwa [List.length_set] at hge
      rw [told_advance hi, if_neg (by omega)]
      exact h.silent j (List.getElem?_eq_none hge)

/-- No call disturbs a walk. -/
theorem Separate.call (hsteady : ∀ h h' url, r.client.getBytes h url = r.client.getBytes h' url)
    (h : t.Separate r s) (c : Call δ) : (t.call r c).Separate r s := by
  cases c with
  | crawl start => exact h.crawl start
  | next walk => exact h.advance hsteady walk
  | fetch | scrapeUrl | rowsOf | nextUrlOf | total | rows | row =>
    exact h.silently (fun _ => rfl) _

theorem Separate.calls (hsteady : ∀ h h' url, r.client.getBytes h url = r.client.getBytes h' url)
    (s : RestState) (made : List (Call δ)) : (calls r made).Separate r s := by
  induction made using List.reverseRecOn with
  | nil => exact .new r s
  | append_singleton made c ih =>
    rw [calls_concat]
    exact ih.call hsteady c

end separate

theorem starts_call (t : Session) (r : RestScraper δ) (c : Call δ) :
    (t.call r c).walks.map Cursor.start = t.walks.map Cursor.start ++ c.start?.toList := by
  cases c with
  | crawl start =>
    rw [call, List.map_append]
    rfl
  | next walk =>
    rw [call, advance]
    cases hwalk : t.walks[walk]? with
    | none => exact (List.append_nil _).symm
    | some cursor =>
      obtain ⟨hlt, rfl⟩ := List.getElem?_eq_some_iff.1 hwalk
      have hsame : (t.walks.map Cursor.start).set walk (t.walks[walk]).start =
          t.walks.map Cursor.start := by
        rw [← List.map_set, List.set_getElem_self]
      simpa [Call.start?, List.map_set] using hsame
  | fetch | scrapeUrl | rowsOf | nextUrlOf | total | rows | row => exact (List.append_nil _).symm

theorem starts_calls (r : RestScraper δ) (made : List (Call δ)) :
    (calls r made).walks.map Cursor.start = made.filterMap Call.start? := by
  induction made using List.reverseRecOn with
  | nil => rfl
  | append_singleton made c ih =>
    rw [calls_concat, starts_call, ih, List.filterMap_append]
    cases hstart : c.start? <;> simp [hstart]

/-- The count of a scraper is that of the pages with content it has fetched. -/
theorem scraped_calls (r : RestScraper δ) (made : List (Call δ)) :
    (calls r made).state.scraped = r.client.served [] (calls r made).state.history := by
  induction made using List.reverseRecOn with
  | nil => rfl
  | append_singleton made c ih =>
    rw [calls_concat, call_state]
    cases (calls r made).target? r c with
    | none => exact ih
    | some url =>
      dsimp only
      rw [fetch_state, Client.served_concat, ← ih]
      rfl

/-- **Walks of one scraper do not disturb each other.** After any calls, each walk has told exactly what it
tells by itself, whatever the scraper has done before, and its next call tells the next such item. The
scraper has counted the requests so far that were answered with content. A call either leaves the scraper
as it is, or makes the one request that it is for, and counts it if the answer has content. -/
theorem walks_separate (r : RestScraper δ)
    (hsteady : ∀ h h' url, r.client.getBytes h url = r.client.getBytes h' url)
    (made : List (Call δ)) :
    let t := calls r made
    t.walks.map Cursor.start = made.filterMap Call.start? ∧
    (∀ i c, t.walks[i]? = some c → ∀ s,
      t.told i = (List.range (t.told i).length).map (r.item c.start s) ∧
      (t.call r (.next i)).told i = t.told i ++ [r.item c.start s (t.told i).length]) ∧
    t.state.scraped = r.client.served [] t.state.history ∧
    ∀ c, (t.call r c).state =
      match t.target? r c with
      | none => t.state
      | some url =>
        ⟨t.state.history ++ [.get url.toText],
          t.state.scraped + (r.client.hasContent t.state.history url.toText).toNat⟩ := by
  intro t
  refine ⟨starts_calls r made, fun i c hc s => ?_, scraped_calls r made, fun c => ?_⟩
  · have halone : Alone r s c (t.told i) := (Separate.calls hsteady s made).alone i c hc
    have hitem := (next_steady hsteady c.place t.state (r.walk c.start s (t.told i).length).2).1
    refine ⟨halone.items, ?_⟩
    rw [call, told_advance hc, if_pos rfl, hitem, halone.place]
    rfl
  · rw [call_state]
    cases t.target? r c with
    | none => rfl
    | some url => exact fetch_state r url t.state

/-! ## Two walks and a page -/

/-- Serves a page of two bytes, one without content, and one of a single byte. -/
def mixedClient : Client :=
  .serving fun url =>
    if url = "http://a.test/row" then some [1, 2]
    else if url = "http://a.test/nothing" then some []
    else if url = "http://a.test/broken" then some [1]
    else none

/-- Cannot read a single byte, and takes every page to lead to the one without content. -/
def mixedScraper : RestScraper (List UInt8) where
  client := mixedClient
  parse bytes := if bytes.length = 1 then .error (.template "broken") else .ok bytes
  nextUrl _ _ := .ok "nothing"
  total bytes := .ok bytes.length
  rows bytes := .ok (bytes.map fun b => .int b.toNat)
  row := .ok
  pageLimit := 0

/-- A walk that reads a page and comes to the end, a walk that fails, and what is no address. -/
def mixedCalls : List (Call (List UInt8)) :=
  [.crawl (.ofPage "row"), .next 0, .crawl (.ofPage "broken"), .scrapeUrl "http://[", .next 1, .next 0,
    .fetch (.ofPage "row")]

theorem walks_separate_mixed :
    (∀ h h' url, mixedScraper.client.getBytes h url = mixedScraper.client.getBytes h' url) ∧
    let t := calls mixedScraper mixedCalls
    t.walks.map Cursor.start = [.ofPage "row", .ofPage "broken"] ∧
    t.told 0 = [some (.ok ⟨.ofPage "row", [.int 1, .int 2]⟩), none] ∧
    (∀ s, t.told 0 = [mixedScraper.item (.ofPage "row") s 0, mixedScraper.item (.ofPage "row") s 1]) ∧
    t.state = ⟨[.get "http://a.test/row", .get "http://a.test/broken", .get "http://a.test/nothing",
      .get "http://a.test/row"], 3⟩ ∧
    mixedClient.served [] t.state.history = 3 := by
  have hsteady : ∀ h h' url, mixedScraper.client.getBytes h url = mixedScraper.client.getBytes h' url :=
    fun _ _ _ => rfl
  obtain ⟨hstarts, halone, hscraped, -⟩ := walks_separate mixedScraper hsteady mixedCalls
  have hstate : (calls mixedScraper mixedCalls).state =
      ⟨[.get "http://a.test/row", .get "http://a.test/broken", .get "http://a.test/nothing",
        .get "http://a.test/row"], 3⟩ := by decide +kernel
  have htold : (calls mixedScraper mixedCalls).told 0 =
      [some (.ok ⟨.ofPage "row", [.int 1, .int 2]⟩), none] := by rfl
  have hwalk : (calls mixedScraper mixedCalls).walks[0]? = some ⟨.ofPage "row", ⟨none, 1, none⟩⟩ := by
    rfl
  have hlength : ((calls mixedScraper mixedCalls).told 0).length = 2 := by rw [htold]; rfl
  refine ⟨hsteady, hstarts, htold, fun s => ?_, hstate, ?_⟩
  · obtain ⟨hitems, -⟩ := halone 0 _ hwalk s
    rw [hlength] at hitems
    exact hitems
  · have hcount := hscraped.symm
    rw [hstate] at hcount ⊢
    exact hcount

end Session

end Harvest
