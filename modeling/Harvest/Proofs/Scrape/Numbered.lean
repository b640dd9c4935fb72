import Mathlib.Data.List.Nodup
import Harvest.Client.Static
import Harvest.Proofs.Scrape.Crawl
import Harvest.Proofs.Template.Increment

/-!
# Walks by number

A walk whose next url is the last one with the parameter `p` counted up requests the pages that follow the
number of its start, each once and in order (`requests_by_number`). The number of the start is read from
the first of its parameters `p`; afterwards there is one such parameter only, which both helpers of the
template mean.
-/

namespace Harvest

namespace RestScraper

open Template (counter numbered IsNumbered isNumbered_numbered)

/-- The scraper for JSON that counts the parameter `p` up. -/
def counting (client : Client) (countPath rowsPath : String) : RestScraper Payload :=
  { plain client with
    parse := parseAs .json
    nextUrl := Template.increment.nextUrl
    total := totalAt countPath
    rows := rowsAt rowsPath
    row := .ok }

theorem json_increment (client : Client) (countPath rowsPath : String) :
    json client Template.incrementText countPath rowsPath = .ok (counting client countPath rowsPath) := by
  rw [json, Template.compile_increment]
  rfl

/-- The page that is requested after so many others. -/
def pageAt (start : Url) : Nat → Url
  | 0 => start
  | k + 1 => numbered start (counter start + ((k + 1 : Nat) : Int))

/-! ## One step -/

section steps
variable {start : Url} (hstart : Url.parse start.toText = .ok start)
include hstart

theorem parse_pageAt (k : Nat) : Url.parse (pageAt start k).toText = .ok (pageAt start k) := by
  cases k with
  | zero => exact hstart
  | succ k => exact Template.parseAgainst_numbered hstart _ none

omit hstart in
theorem counter_pageAt {k : Nat} (hfits : counter start + k ≤ Number.maxInt64) :
    counter (pageAt start k) = counter start + k := by
  cases k with
  | zero => exact (Int.add_zero _).symm
  | succ k =>
    have hlow := Template.minInt64_le_counter start
    exact Template.counter_numbered start (by omega) hfits

omit hstart in
theorem numbered_pageAt (k : Nat) (i : Int) : numbered (pageAt start k) i = numbered start i := by
  cases k with
  | zero => rfl
  | succ k => exact Template.numbered_numbered start _ i

/-- A page leads to the one with the next number. -/
theorem resolve_pageAt {k : Nat} (hfits : counter start + (k + 1 : Nat) ≤ Number.maxInt64)
    (payload : Payload) :
    Crawl.resolve (pageAt start k) (Template.increment.nextUrl (pageAt start k) payload) =
      .ok (pageAt start (k + 1)) := by
  have hcounter : counter (pageAt start k) = counter start + k := counter_pageAt (by omega)
  have hnext := Template.nextUrl_increment (parse_pageAt hstart k) (by omega) payload
  have hnumber : numbered (pageAt start k) (counter (pageAt start k) + 1) = pageAt start (k + 1) := by
    have hsucc : counter start + k + 1 = counter start + ((k + 1 : Nat) : Int) := by omega
    rw [numbered_pageAt, hcounter, pageAt, hsucc]
  rw [hnumber] at hnext
  rw [hnext]
  exact resolve_eq_ok_iff.2 ⟨_, rfl, Template.parseAgainst_numbered hstart _ _⟩

/-- Pages with other numbers have other texts. -/
theorem toText_pageAt_inj {j k : Nat} (hj : counter start + j ≤ Number.maxInt64)
    (hk : counter start + k ≤ Number.maxInt64)
    (h : (pageAt start j).toText = (pageAt start k).toText) : j = k := by
  have hsame : pageAt start j = pageAt start k := by
    have hread := parse_pageAt hstart j
    rw [h, parse_pageAt hstart k] at hread
    exact (Except.ok.inj hread).symm
  have hcounter := counter_pageAt hj
  rw [hsame, counter_pageAt hk] at hcounter
  omega

end steps

/-! ## Runs -/

section runs
variable {r : RestScraper Payload} (hnext : r.nextUrl = Template.increment.nextUrl)
  {start : Url} (hstart : Url.parse start.toText = .ok start) {s : RestState}
include hnext hstart

/-- A walk that reaches a page has requested its number. -/
theorem targetAt_eq_pageAt {i : Nat} {url : Url} (h : r.targetAt start s i = some url)
    (hfits : counter start + i ≤ Number.maxInt64) : url = pageAt start i := by
  induction i generalizing url with
  | zero =>
    have hfirst := (target_eq_some_iff.1 h).2.2
    exact (Option.some.inj hfirst).symm
  | succ i ih =>
    obtain ⟨last, rows, next, hlast, hpage, hresolve⟩ := page_of_targetAt_succ h
    obtain ⟨data, -, -, rfl⟩ := page_eq_ok_iff.1 hpage
    have hfits' : counter start + i ≤ Number.maxInt64 := by omega
    rw [hnext, ih hlast hfits', resolve_pageAt hstart hfits data] at hresolve
    exact (Except.ok.inj hresolve).symm

/-- The requests of a walk that reaches a page. -/
theorem historyAt_pages {i : Nat} {url : Url} (h : r.targetAt start s i = some url)
    (hfits : counter start + i ≤ Number.maxInt64) :
    r.historyAt start s (i + 1) =
      s.history ++ (List.range (i + 1)).map fun k => .get (pageAt start k).toText := by
  induction i generalizing url with
  | zero =>
    have hpage := targetAt_eq_pageAt hnext hstart h hfits
    rw [historyAt_succ, h, hpage]
    rfl
  | succ i ih =>
    obtain ⟨last, -, -, hlast, -, -⟩ := page_of_targetAt_succ h
    have hpage := targetAt_eq_pageAt hnext hstart h hfits
    rw [historyAt_succ, h, hpage, ih hlast (by omega), List.range_succ (n := i + 1), List.map_append,
      List.append_assoc]
    rfl

/-- A page that can be read is followed by the one with the next number, up to the page limit. -/
theorem targetAt_succ_pageAt {i : Nat} {data : Payload} {rows : Rows}
    (h : r.targetAt start s i = some (pageAt start i))
    (hreads : r.Reads (r.historyAt start s i) (pageAt start i) data)
    (hrows : r.finishedRows data = .ok rows) (hfits : counter start + (i + 1 : Nat) ≤ Number.maxInt64)
    (hlimit : r.pageLimit = 0 ∨ i + 1 < r.pageLimit) :
    r.targetAt start s (i + 1) = some (pageAt start (i + 1)) := by
  have hwalk := (walk_of_page_ok h (page_of_reads hreads hrows)).2
  rw [hnext, resolve_pageAt hstart hfits data] at hwalk
  rw [targetAt, hwalk]
  refine target_eq_some_iff.2 ⟨rfl, ?_, rfl⟩
  change r.limitReached ((r.walk start s i).1.fetched + 1) = false
  rw [fetched_of_targetAt h]
  exact limitReached_eq_false_iff.2 hlimit

end runs

/-- **Pages are requested by number.** Whatever the page limit, a walk that reaches an `i`th further page
requests it as the start with its number counted up `i` times, and has requested every page before it
once, in order. -/
theorem requests_by_number {client : Client} {countPath rowsPath : String} {r : RestScraper Payload}
    (hr : json client Template.incrementText countPath rowsPath = .ok r) (limit : Nat)
    {start : Url} (hstart : Url.parse start.toText = .ok start) {s : RestState} {i : Nat} {url : Url}
    (hi : 1 ≤ i) (htarget : { r with pageLimit := limit }.targetAt start s i = some url)
    (hfits : counter start + i ≤ Number.maxInt64) :
    IsNumbered start (counter start + i) url ∧ url = pageAt start i ∧
      { r with pageLimit := limit }.historyAt start s (i + 1) =
        s.history ++ (List.range (i + 1)).map (fun k => .get (pageAt start k).toText) ∧
      ((List.range (i + 1)).map fun k => Request.get (pageAt start k).toText).Nodup := by
  have hnext : { r with pageLimit := limit }.nextUrl = Template.increment.nextUrl := by
    rw [json_increment] at hr
    rw [← Except.ok.inj hr, counting]
  have hurl := targetAt_eq_pageAt hnext hstart htarget hfits
  refine ⟨?_, hurl, historyAt_pages hnext hstart htarget hfits, ?_⟩
  · obtain ⟨k, rfl⟩ := Nat.exists_eq_add_of_le' hi
    rw [hurl, pageAt]
    exact isNumbered_numbered hstart _
  · refine List.Nodup.map_on ?_ List.nodup_range
    intro j hj k hk hsame
    have hj := List.mem_range.1 hj
    have hk := List.mem_range.1 hk
    exact toText_pageAt_inj hstart (by omega) (by omega) (Request.get.inj hsame)

/-! ## A start with an odd number -/

/-- Serves the same page without rows everywhere. -/
def endlessClient : Client :=
  .serving fun _ => some [0x5B, 0x5D]

/-- The first of its two numbers is written with a blank, a sign and a zero. -/
def oddStart : Url :=
  { Url.ofPage "" with query := some "p=+%2B07&q=1&p=3", fragment := some "end" }

theorem requests_by_number_odd :
    (Url.parse oddStart.toText = .ok oddStart ∧ counter oddStart = 7) ∧
      (pageAt oddStart 1).toText = "http://a.test/?p=8&q=1#end" ∧
      IsNumbered oddStart (counter oddStart + 1) (pageAt oddStart 1) ∧
      { counting endlessClient "" "" with pageLimit := 2 }.historyAt oddStart .start 2 =
        [.get "http://a.test/?p=+%2B07&q=1&p=3#end", .get "http://a.test/?p=8&q=1#end"] := by
  have hstart : Url.parse oddStart.toText = .ok oddStart := by decide +kernel
  have hcounter : counter oddStart = 7 := by decide +kernel
  have htext : (pageAt oddStart 1).toText = "http://a.test/?p=8&q=1#end" := by decide +kernel
  have hfirst : (pageAt oddStart 0).toText = "http://a.test/?p=+%2B07&q=1&p=3#end" := by decide +kernel
  have hreads : { counting endlessClient "" "" with pageLimit := 2 }.Reads [] oddStart
      (.json (.array [])) := ⟨[0x5B, 0x5D], rfl, by decide, by with_unfolding_all rfl⟩
  have htarget : { counting endlessClient "" "" with pageLimit := 2 }.targetAt oddStart .start 1 =
      some (pageAt oddStart 1) :=
    targetAt_succ_pageAt (by rw [counting]) hstart rfl hreads rfl (by rw [hcounter]; decide)
      (Or.inr (by decide))
  obtain ⟨hnumbered, -, hhistory, -⟩ :=
    requests_by_number (json_increment endlessClient "" "") 2 hstart (Nat.le_refl 1) htarget
      (by rw [hcounter]; decide)
  refine ⟨⟨hstart, hcounter⟩, htext, hnumbered, ?_⟩
  rw [hhistory, ← hfirst, ← htext]
  rfl

end RestScraper

end Harvest
