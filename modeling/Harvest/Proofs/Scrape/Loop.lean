import Harvest.Client.Static
import Harvest.Proofs.Scrape.Crawl

/-!
# Loops over the operations of a scraper

Whoever has a `Scraper` can walk through pages without a `Crawl`: `Scraper.loop` takes the bytes behind a
url, their rows, each row, and the next url, and reads url and bytes anew in every operation. A walk
without a page limit is such a loop (`crawl_eq_loop`): it makes the same requests, tells the same pages,
and ends at the same page for the same reason.
-/

namespace Harvest

namespace Scraper

variable {σ : Type} (scraper : Scraper σ)

/-- Rows in their order, each of them finished. -/
def parseRows : Rows → Action σ Rows
  | [] => .of (.ok [])
  | row :: more =>
    (scraper.parseRow row).andThen fun done =>
      (parseRows more).andThen fun rest => .of (.ok (done :: rest))

/-- One turn of a loop: the finished rows behind a url, and the url that follows or why there is none. -/
def turn (url : Url) : Action σ (Rows × Except ScrapeError Url) :=
  (scraper.scrapeUrl url.toText).andThen fun bytes =>
    (scraper.rows bytes).andThen fun raw =>
      (scraper.parseRows raw).andThen fun rows s =>
        match scraper.nextUrl url.toText bytes s with
        | (.error e, s) => (.ok (rows, .error e), s)
        | (.ok reference, s) =>
          (.ok (rows, (url.join reference).mapError (.invalidUrl reference)), s)

/-- What a loop has come to. -/
structure Tour (σ : Type) where
  pages : List RestPage
  /-- The url to go on with, or what has ended the loop. -/
  place : Except ScrapeError Url
  state : σ

/-- At most so many turns of the loop from a url. -/
def loop : Nat → Url → σ → Tour σ
  | 0, url, s => ⟨[], .ok url, s⟩
  | n + 1, url, s =>
    match scraper.turn url s with
    | (.error e, s) => ⟨[], .error e, s⟩
    | (.ok (rows, .error e), s) => ⟨[⟨url, rows⟩], .error e, s⟩
    | (.ok (rows, .ok next), s) =>
      let t := loop n next s
      { t with pages := ⟨url, rows⟩ :: t.pages }

end Scraper

namespace RestScraper

variable {δ : Type} {r : RestScraper δ}

/-! ## One turn -/

/-- The page with the url that it leads to in place of the reference to it. -/
def resolved (url : Url) :
    Except ScrapeError (Rows × Except ScrapeError String) →
      Except ScrapeError (Rows × Except ScrapeError Url)
  | .error e => .error e
  | .ok (rows, next) => .ok (rows, Crawl.resolve url next)

theorem parseRows_eq_mapM (rows : Rows) (s : RestState) :
    r.toScraper.parseRows rows s = (rows.mapM r.row, s) := by
  induction rows generalizing s with
  | nil => rfl
  | cons row more ih =>
    rw [List.mapM_cons, Scraper.parseRows]
    change Action.andThen (Action.of (r.row row)) _ s = _
    cases hrow : r.row row with
    | error e => rfl
    | ok done =>
      change Action.andThen (r.toScraper.parseRows more) _ s = _
      rw [Action.andThen, ih]
      cases more.mapM r.row <;> rfl

section reading
variable {url : Url} (hread : Url.parse url.toText = .ok url)
include hread

theorem parseUrl_toText : parseUrl url.toText = .ok url := by
  rw [parseUrl, hread]
  rfl

theorem scrapeUrl_toText (s : RestState) : r.toScraper.scrapeUrl url.toText s = r.fetch url s := by
  change Action.andThen (Action.of (parseUrl url.toText)) r.fetch s = _
  rw [parseUrl_toText hread]
  rfl

theorem nextUrlOf_toText {body : List UInt8} {data : δ} (hparse : r.parse body = .ok data) :
    r.nextUrlOf url.toText body = r.nextUrl url data := by
  rw [nextUrlOf, parseUrl_toText hread]
  dsimp only
  rw [hparse]

/-- A turn finds what a walk finds at the url, although it reads url and bytes several times. -/
theorem turn_eq_page (s : RestState) :
    r.toScraper.turn url s = (resolved url (r.page url s).1, (r.page url s).2) := by
  rw [Scraper.turn, page, Action.andThen, Action.andThen, scrapeUrl_toText hread]
  rcases r.fetch url s with ⟨e | body, s'⟩
  · rfl
  have hrows : r.toScraper.rows body s' = (r.rowsOf body, s') := rfl
  have hnext : r.toScraper.nextUrl url.toText body s' = (r.nextUrlOf url.toText body, s') := rfl
  dsimp only
  rw [Action.andThen, hrows, rowsOf, readPage]
  cases hparse : r.parse body with
  | error e => rfl
  | ok data =>
    rw [nextUrlOf_toText hread hparse] at hnext
    dsimp only
    rw [finishedRows]
    cases r.rows data with
    | error e => rfl
    | ok raw =>
      dsimp only
      rw [Action.andThen, parseRows_eq_mapM]
      cases raw.mapM r.row with
      | error e => rfl
      | ok rows =>
        dsimp only
        rw [hnext]
        cases r.nextUrl url data <;> rfl

theorem loop_of_page_error {s : RestState} {e : ScrapeError} (hpage : (r.page url s).1 = .error e)
    (n : Nat) : r.toScraper.loop (n + 1) url s = ⟨[], .error e, (r.page url s).2⟩ := by
  rw [Scraper.loop, turn_eq_page hread, hpage]
  rfl

theorem loop_of_dead_end {s : RestState} {rows : Rows} {next : Except ScrapeError String}
    {e : ScrapeError} (hpage : (r.page url s).1 = .ok (rows, next))
    (hresolve : Crawl.resolve url next = .error e) (n : Nat) :
    r.toScraper.loop (n + 1) url s = ⟨[⟨url, rows⟩], .error e, (r.page url s).2⟩ := by
  rw [Scraper.loop, turn_eq_page hread, hpage, resolved, hresolve]

theorem loop_of_lead {s : RestState} {rows : Rows} {next : Except ScrapeError String} {url' : Url}
    (hpage : (r.page url s).1 = .ok (rows, next)) (hresolve : Crawl.resolve url next = .ok url')
    (n : Nat) :
    r.toScraper.loop (n + 1) url s =
      { r.toScraper.loop n url' (r.page url s).2 with
        pages := ⟨url, rows⟩ :: (r.toScraper.loop n url' (r.page url s).2).pages } := by
  rw [Scraper.loop, turn_eq_page hread, hpage, resolved, hresolve]

end reading

/-! ## The end of a walk -/

/-- What a walk tells of what has ended it. -/
def ending (e : ScrapeError) : List CrawlItem :=
  if e.isExhausted then [] else [.error e]

theorem collect_of_finished {c : Crawl} (h : r.Finished c) (n : Nat) (s : RestState) :
    r.collect (n + 1) c s = ([], true, s) := by
  rw [collect, next_of_finished h]

/-- A walk in which no page has a url to go on with. -/
theorem collect_after_error (c : Crawl) (e : ScrapeError) (n : Nat) (s : RestState) :
    r.collect (n + 2) (c.after (.error e)) s = (ending e, true, s) := by
  by_cases hend : e.isExhausted = true
  · have hfin : r.Finished (c.after (.error e)) := ⟨if_pos hend, Or.inl rfl⟩
    rw [collect_of_finished hfin, ending, if_pos hend]
  · have hpending : (c.after (.error e)).pending = some e := if_neg hend
    have hfin : r.Finished ⟨none, (c.after (.error e)).fetched, none⟩ := ⟨rfl, Or.inl rfl⟩
    rw [collect, next_of_pending hpending]
    dsimp only
    rw [collect_of_finished hfin, ending, if_neg hend]

/-- A walk at a page that cannot be had. -/
theorem collect_of_page_error {c : Crawl} {url : Url} (htarget : r.target c = some url) {s : RestState}
    {e : ScrapeError} (hpage : (r.page url s).1 = .error e) (n : Nat) :
    r.collect (n + 2) c s = (ending e, true, (r.page url s).2) := by
  have hfin : r.Finished { c with next := none } :=
    ⟨(target_eq_some_iff.1 htarget).1, Or.inl rfl⟩
  rw [collect, next_of_target htarget, visit_of_error hpage, ending]
  by_cases hend : e.isExhausted = true
  · rw [if_pos hend, if_pos hend]
  · rw [if_neg hend, if_neg hend]
    dsimp only
    rw [collect_of_finished hfin]

/-- A walk at a page that leads somewhere or nowhere. -/
theorem collect_of_page_ok {c : Crawl} {url : Url} (htarget : r.target c = some url) {s : RestState}
    {rows : Rows} {next : Except ScrapeError String} (hpage : (r.page url s).1 = .ok (rows, next))
    (n : Nat) :
    r.collect (n + 1) c s =
      (.ok ⟨url, rows⟩ :: (r.collect n (c.after (Crawl.resolve url next)) (r.page url s).2).1,
        (r.collect n (c.after (Crawl.resolve url next)) (r.page url s).2).2) := by
  rw [collect, next_of_target htarget, visit_of_ok hpage]

/-! ## Whole walks -/

/-- As long as the loop goes on, the walk has told its pages; where the loop has ended, so has the walk. -/
structure Agree (n : Nat) (t : Scraper.Tour RestState) (c : Crawl) (s : RestState) : Prop where
  goesOn : ∀ url, t.place = .ok url → r.collect n c s = (t.pages.map .ok, false, t.state)
  ends : ∀ e, t.place = .error e → ∀ m, n + 2 ≤ m →
    r.collect m c s = (t.pages.map .ok ++ ending e, true, t.state)

variable {n : Nat} {t : Scraper.Tour RestState} {c : Crawl} {url : Url} {s : RestState}
  {rows : Rows} {next : Except ScrapeError String}

theorem Agree.of_page_error {e : ScrapeError} (htarget : r.target c = some url)
    (hpage : (r.page url s).1 = .error e) :
    r.Agree (n + 1) ⟨[], .error e, (r.page url s).2⟩ c s := by
  refine ⟨fun url' h => ?_, fun e' h m hm => ?_⟩
  · cases h
  · cases h
    obtain ⟨k, rfl⟩ := Nat.exists_eq_add_of_le' (show 2 ≤ m by omega)
    exact collect_of_page_error htarget hpage k

theorem Agree.of_dead_end {e : ScrapeError} (htarget : r.target c = some url)
    (hpage : (r.page url s).1 = .ok (rows, next)) (hresolve : Crawl.resolve url next = .error e) :
    r.Agree (n + 1) ⟨[⟨url, rows⟩], .error e, (r.page url s).2⟩ c s := by
  refine ⟨fun url' h => ?_, fun e' h m hm => ?_⟩
  · cases h
  · cases h
    obtain ⟨k, rfl⟩ := Nat.exists_eq_add_of_le' (show 3 ≤ m by omega)
    rw [collect_of_page_ok htarget hpage, hresolve, collect_after_error]
    rfl

theorem Agree.of_lead {url' : Url} (htarget : r.target c = some url)
    (hpage : (r.page url s).1 = .ok (rows, next)) (hresolve : Crawl.resolve url next = .ok url')
    (hrest : r.Agree n t (c.after (.ok url')) (r.page url s).2) :
    r.Agree (n + 1) { t with pages := ⟨url, rows⟩ :: t.pages } c s := by
  refine ⟨fun url'' h => ?_, fun e h m hm => ?_⟩
  · rw [collect_of_page_ok htarget hpage, hresolve, hrest.goesOn url'' h]
    rfl
  · obtain ⟨k, rfl⟩ := Nat.exists_eq_add_of_le' (show 1 ≤ m by omega)
    rw [collect_of_page_ok htarget hpage, hresolve, hrest.ends e h k (by omega)]
    rfl

/-- Turn by turn, a loop and a walk stay together. -/
theorem agree_loop (hlimit : r.pageLimit = 0) (n : Nat) (hpending : c.pending = none)
    (hnext : c.next = some url)
    (hread : ∀ k url', (r.toScraper.loop k url s).place = .ok url' →
      Url.parse url'.toText = .ok url') :
    r.Agree n (r.toScraper.loop n url s) c s := by
  induction n generalizing c url s with
  | zero =>
    refine ⟨fun _ _ => rfl, fun e he => ?_⟩
    cases he
  | succ n ih =>
    have hurl : Url.parse url.toText = .ok url := hread 0 url rfl
    have htarget : r.target c = some url :=
      target_eq_some_iff.2 ⟨hpending, limitReached_eq_false_iff.2 (Or.inl hlimit), hnext⟩
    cases hpage : (r.page url s).1 with
    | error e =>
      rw [loop_of_page_error hurl hpage]
      exact .of_page_error htarget hpage
    | ok found =>
      obtain ⟨rows, next⟩ := found
      cases hresolve : Crawl.resolve url next with
      | error e =>
        rw [loop_of_dead_end hurl hpage hresolve]
        exact .of_dead_end htarget hpage hresolve
      | ok url' =>
        have hread' : ∀ k url'', (r.toScraper.loop k url' (r.page url s).2).place = .ok url'' →
            Url.parse url''.toText = .ok url'' := by
          intro k url'' h
          apply hread (k + 1)
          rw [loop_of_lead hurl hpage hresolve]
          exact h
        rw [loop_of_lead hurl hpage hresolve]
        exact .of_lead htarget hpage hresolve (ih rfl rfl hread')

/-- **A walk is the loop over the operations of its scraper.** As long as the loop goes on, it has made
the requests, found the pages and counted what as many calls of the walk have. Once something has ended
the loop, the walk ends after the same pages: cleanly if this is just the end of the result set, and
otherwise by telling it. Every url of the loop is assumed to be read back from its text as itself. -/
theorem crawl_eq_loop (r : RestScraper δ) (hlimit : r.pageLimit = 0) (start : Url) (s : RestState)
    (hread : ∀ n url, (r.toScraper.loop n start s).place = .ok url →
      Url.parse url.toText = .ok url) (n : Nat) :
    let t := r.toScraper.loop n start s
    (∀ url, t.place = .ok url → r.crawl n start s = (t.pages.map .ok, false, t.state)) ∧
      ∀ e, t.place = .error e → ∀ m, n + 2 ≤ m →
        r.crawl m start s =
          (t.pages.map .ok ++ if e.isExhausted then [] else [.error e], true, t.state) := by
  intro t
  have hagree : r.Agree n t (.start start) s := agree_loop hlimit n rfl rfl hread
  exact ⟨hagree.goesOn, hagree.ends⟩

/-! ## Two pages, of which the second is missing -/

/-- Serves one page with one row. -/
def singleClient : Client :=
  .serving fun url => if url = "http://a.test/a" then some [0x5B, 0x31, 0x5D] else none

/-- Takes every page to lead to the page `b` beside it. -/
def siblingScraper : RestScraper Payload :=
  { plain singleClient with
    parse := parseAs .json
    nextUrl := fun _ _ => .ok "b"
    rows := rowsAt ""
    row := .ok }

theorem sibling_read :
    Url.parse (Url.ofPage "a").toText = .ok (.ofPage "a") ∧
      Url.parse (Url.ofPage "b").toText = .ok (.ofPage "b") := by
  decide +kernel

theorem sibling_turn :
    siblingScraper.toScraper.turn (.ofPage "a") .start =
      (.ok ([.int 1], .ok (.ofPage "b")), ⟨[.get "http://a.test/a"], 1⟩) := by
  have hpage : siblingScraper.page (.ofPage "a") .start =
      (.ok ([.int 1], .ok "b"), ⟨[.get "http://a.test/a"], 1⟩) := by with_unfolding_all rfl
  have hnext : Crawl.resolve (.ofPage "a") (.ok "b") = .ok (.ofPage "b") := by decide +kernel
  rw [turn_eq_page sibling_read.1, hpage, resolved, hnext]

theorem sibling_loop (n : Nat) :
    siblingScraper.toScraper.loop (n + 2) (.ofPage "a") .start =
      ⟨[⟨.ofPage "a", [.int 1]⟩], .error (.client (.http "http://a.test/b" 404 "not found")),
        ⟨[.get "http://a.test/a", .get "http://a.test/b"], 1⟩⟩ := by
  have hsecond : siblingScraper.page (.ofPage "b") ⟨[.get "http://a.test/a"], 1⟩ =
      (.error (.client (.http "http://a.test/b" 404 "not found")),
        ⟨[.get "http://a.test/a", .get "http://a.test/b"], 1⟩) := by with_unfolding_all rfl
  rw [Scraper.loop, sibling_turn]
  dsimp only
  rw [loop_of_page_error sibling_read.2 (congrArg Prod.fst hsecond), hsecond]

theorem crawl_eq_loop_sibling :
    (siblingScraper.pageLimit = 0 ∧
      ∀ n url, (siblingScraper.toScraper.loop n (.ofPage "a") .start).place = .ok url →
        Url.parse url.toText = .ok url) ∧
    ∀ m, 4 ≤ m → siblingScraper.crawl m (.ofPage "a") .start =
      ([.ok ⟨.ofPage "a", [.int 1]⟩, .error (.client (.http "http://a.test/b" 404 "not found"))],
        true, ⟨[.get "http://a.test/a", .get "http://a.test/b"], 1⟩) := by
  have hread : ∀ n url,
      (siblingScraper.toScraper.loop n (.ofPage "a") .start).place = .ok url →
        Url.parse url.toText = .ok url := by
    intro n url h
    match n with
    | 0 =>
      cases h
      exact sibling_read.1
    | 1 =>
      rw [Scraper.loop, sibling_turn] at h
      cases h
      exact sibling_read.2
    | n + 2 =>
      rw [sibling_loop] at h
      cases h
  refine ⟨⟨rfl, hread⟩, fun m hm => ?_⟩
  have hlaw := (crawl_eq_loop siblingScraper rfl (.ofPage "a") .start hread 2).2
  rw [sibling_loop 0] at hlaw
  exact hlaw _ rfl m hm

end RestScraper

end Harvest
