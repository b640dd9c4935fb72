import Harvest.Client.Static
import Harvest.Proofs.Scrape.Crawl

/-!
# The last page of a limited walk

After the last page that the limit allows nothing more is requested. Whether the walk ends cleanly there
still depends on that page (`last_page`): a failure to find the url after it has been noted by then, and
the next call tells it, although nobody would have gone there.
-/

namespace Harvest

/-- The failure that is told after a page, if there is one. -/
def Crawl.failure? (next : Except ScrapeError Url) : Option ScrapeError :=
  match next with
  | .ok _ => none
  | .error e => if e.isExhausted then none else some e

theorem Crawl.pending_after (c : Crawl) (next : Except ScrapeError Url) :
    (c.after next).pending = Crawl.failure? next := by
  cases next <;> rfl

namespace RestScraper

variable {δ : Type} {r : RestScraper δ} {start : Url} {s : RestState} {n : Nat} {page : RestPage}

/-! ## After the last page -/

theorem limitReached_of_last (hn : n + 1 = r.pageLimit) : r.limitReached (n + 1) = true := by
  simp [limitReached, hn]
  omega

/-- The place of a walk after the last page: nothing will be requested, and a failure may be pending. -/
theorem walk_of_last (h : r.item start s n = some (.ok page)) :
    ∃ data, r.Reads (r.historyAt start s n) page.url data ∧
      (r.walk start s (n + 1)).1.fetched = n + 1 ∧
      (r.walk start s (n + 1)).1.pending =
        Crawl.failure? (Crawl.resolve page.url (r.nextUrl page.url data)) := by
  obtain ⟨htarget, next, hpage⟩ := page_of_item h
  obtain ⟨data, hreads, -, rfl⟩ := page_eq_ok_iff.1 hpage
  have hwalk := (walk_of_page_ok htarget hpage).2
  have hfetched : ∀ next, ((r.walk start s n).1.after next).fetched = n + 1 := by
    intro next
    have hbefore := fetched_of_targetAt htarget
    cases next <;> simp [Crawl.after, hbefore]
  refine ⟨data, hreads, ?_, ?_⟩
  · rw [hwalk, hfetched]
  · rw [hwalk, Crawl.pending_after]

theorem item_of_limitReached (hlimit : r.limitReached (r.walk start s n).1.fetched = true) :
    r.item start s n = (r.walk start s n).1.pending.map Except.error ∧
      r.targetAt start s n = none := by
  cases hpending : (r.walk start s n).1.pending with
  | none =>
    have hfin : r.Finished (r.walk start s n).1 := ⟨hpending, Or.inr hlimit⟩
    rw [item, next_of_finished hfin, targetAt, target_of_finished hfin]
    exact ⟨rfl, rfl⟩
  | some e =>
    rw [item, next_of_pending hpending, targetAt, target_of_pending hpending]
    exact ⟨rfl, rfl⟩

/-- Without a target no request is made. -/
theorem historyAt_of_no_target {m : Nat} (h : ∀ k, n ≤ k → r.targetAt start s k = none)
    (hm : n ≤ m) : r.historyAt start s m = r.historyAt start s n := by
  induction hm with
  | refl => rfl
  | step hm ih =>
    rw [historyAt_succ, h _ hm, ih]
    exact List.append_nil _

/-- After the last page within the limit, the failure to find the url after it is told, if there is one
and it is not just the end; then nothing more. No request is made any more. -/
theorem last_page (hn : n + 1 = r.pageLimit) (h : r.item start s n = some (.ok page)) :
    ∃ data, r.Reads (r.historyAt start s n) page.url data ∧
      r.item start s (n + 1) =
        (Crawl.failure? (Crawl.resolve page.url (r.nextUrl page.url data))).map Except.error ∧
      (∀ m, n + 1 < m → r.item start s m = none) ∧
      ∀ m, n < m → r.targetAt start s m = none ∧
        r.historyAt start s m = r.historyAt start s (n + 1) := by
  obtain ⟨data, hreads, hfetched, hpending⟩ := walk_of_last h
  have hlimit : r.limitReached (r.walk start s (n + 1)).1.fetched = true := by
    rw [hfetched]
    exact limitReached_of_last hn
  obtain ⟨hitem, htarget⟩ := item_of_limitReached hlimit
  have hnone : ∀ page, r.item start s (n + 1) ≠ some (.ok page) := by
    intro page hpage
    rw [(page_of_item hpage).1] at htarget
    cases htarget
  have hlater : ∀ m, n + 1 < m → r.Finished (r.walk start s m).1 :=
    fun m hm => (walk_of_no_page hnone hm).1
  have htargets : ∀ m, n + 1 ≤ m → r.targetAt start s m = none := by
    intro m hm
    rcases Nat.eq_or_lt_of_le hm with rfl | hlt
    · exact htarget
    · exact target_of_finished (hlater m hlt)
  refine ⟨data, hreads, ?_, fun m hm => ?_, fun m hm => ?_⟩
  · rw [hitem, hpending]
  · rw [item, next_of_finished (hlater m hm)]
  · exact ⟨htargets m hm, historyAt_of_no_target htargets hm⟩

/-! ## A page that leads nowhere -/

/-- Serves one page without rows. -/
def loneClient : Client :=
  .serving fun url => if url = "http://a.test/" then some [0x5B, 0x5D] else none

/-- Takes one page at most, after which it would go on to what is no address. -/
def strayScraper : RestScraper Payload :=
  { plain loneClient with
    parse := parseAs .json
    nextUrl := fun _ _ => .ok "http://["
    rows := rowsAt ""
    row := .ok
    pageLimit := 1 }

theorem last_page_stray :
    (0 + 1 = strayScraper.pageLimit ∧
      strayScraper.item (.ofPage "") .start 0 = some (.ok ⟨.ofPage "", []⟩)) ∧
    (∀ m, 1 < m → strayScraper.item (.ofPage "") .start m = none) ∧
    ∀ m, 0 < m → strayScraper.targetAt (.ofPage "") .start m = none := by
  have hpage : strayScraper.item (.ofPage "") .start 0 = some (.ok ⟨.ofPage "", []⟩) := by
    with_unfolding_all rfl
  obtain ⟨data, -, -, hitems, htargets⟩ := last_page rfl hpage
  exact ⟨⟨rfl, hpage⟩, hitems, fun m hm => (htargets m hm).1⟩

/-- A walk that has told as many pages as the limit allows may still tell a failure. -/
theorem failure_past_limit :
    ¬ ∀ (r : RestScraper Payload) (start : Url) (s : RestState), 0 < r.pageLimit →
      (∀ n, n < r.pageLimit → ∃ page, r.item start s n = some (.ok page)) →
      ∀ n, r.pageLimit ≤ n → r.item start s n = none := by
  intro hclean
  have hpages : ∀ n, n < strayScraper.pageLimit →
      ∃ page, strayScraper.item (.ofPage "") .start n = some (.ok page) := by
    intro n hn
    obtain rfl : n = 0 := Nat.lt_one_iff.1 hn
    exact ⟨⟨.ofPage "", []⟩, by with_unfolding_all rfl⟩
  have hnone := hclean strayScraper (.ofPage "") .start Nat.one_pos hpages 1 (Nat.le_refl 1)
  have hfailure : strayScraper.item (.ofPage "") .start 1 =
      some (.error (.invalidUrl "http://[" .invalidIpv6)) := by with_unfolding_all rfl
  rw [hfailure] at hnone
  cases hnone

end RestScraper

end Harvest
