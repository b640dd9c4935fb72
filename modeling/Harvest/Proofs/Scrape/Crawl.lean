import Harvest.Scrape.Crawl
import Harvest.Proofs.Scrape.Rest

/-!
# Walks through pages

`RestScraper.walk` is the place of a walk after so many calls of `next`, `target` the url that a call
requests, and `item` what it tells. As long as there is a next url, every call so far has told a page
(`Crawl.Valid`). A walk that has told anything but a page is `Finished`: from then on it tells nothing and
requests nothing. `crawl_orderly` collects what holds of every walk.
-/

namespace Harvest

namespace RestScraper

variable {δ : Type} (r : RestScraper δ)

/-! ## One call -/

/-- The url that the next call requests. -/
def target (c : Crawl) : Option Url :=
  if c.pending.isSome || r.limitReached c.fetched then none else c.next

/-- The walk has ended: it tells nothing more. -/
def Finished (c : Crawl) : Prop :=
  c.pending = none ∧ (c.next = none ∨ r.limitReached c.fetched = true)

variable {r}

theorem target_eq_some_iff {c : Crawl} {url : Url} :
    r.target c = some url ↔
      c.pending = none ∧ r.limitReached c.fetched = false ∧ c.next = some url := by
  unfold target
  cases c.pending <;> cases r.limitReached c.fetched <;> simp

theorem next_of_pending {c : Crawl} {e : ScrapeError} (h : c.pending = some e) (s : RestState) :
    r.next c s = (some (.error e), ⟨none, c.fetched, none⟩, s) := by
  rw [next, h]

theorem next_of_finished {c : Crawl} (h : r.Finished c) (s : RestState) :
    r.next c s = (none, c, s) := by
  obtain ⟨hpending, hend⟩ := h
  rw [next, hpending]
  cases hlimit : r.limitReached c.fetched with
  | true => rfl
  | false =>
    rw [hlimit] at hend
    rw [hend.resolve_right Bool.false_ne_true]
    rfl

theorem next_of_target {c : Crawl} {url : Url} (h : r.target c = some url) (s : RestState) :
    r.next c s = r.visit c url s := by
  obtain ⟨hpending, hlimit, hnext⟩ := target_eq_some_iff.1 h
  rw [next, hpending, hlimit, hnext]
  rfl

theorem target_of_finished {c : Crawl} (h : r.Finished c) : r.target c = none := by
  obtain ⟨hpending, hend⟩ := h
  rw [target, hpending, Option.isSome_none, Bool.false_or]
  rcases hend with hnext | hlimit
  · rw [hnext, ite_self]
  · rw [if_pos hlimit]

theorem target_of_pending {c : Crawl} {e : ScrapeError} (h : c.pending = some e) :
    r.target c = none := by
  rw [target, h]
  rfl

/-- A call tells a failure that is pending, or nothing, or requests a url. -/
theorem call_cases (c : Crawl) :
    (∃ e, c.pending = some e) ∨ r.Finished c ∨ ∃ url, r.target c = some url := by
  cases hpending : c.pending with
  | some e => exact Or.inl ⟨e, rfl⟩
  | none =>
    right
    cases hlimit : r.limitReached c.fetched with
    | true => exact Or.inl ⟨hpending, Or.inr hlimit⟩
    | false =>
      cases hnext : c.next with
      | none => exact Or.inl ⟨hpending, Or.inl hnext⟩
      | some url => exact Or.inr ⟨url, target_eq_some_iff.2 ⟨hpending, hlimit, hnext⟩⟩

theorem visit_state (c : Crawl) (url : Url) (s : RestState) :
    (r.visit c url s).2.2 = (r.page url s).2 := by
  unfold visit
  rcases r.page url s with ⟨e | ⟨rows, next⟩, s'⟩ <;> rfl

theorem visit_of_error {c : Crawl} {url : Url} {s : RestState} {e : ScrapeError}
    (h : (r.page url s).1 = .error e) :
    r.visit c url s =
      (if e.isExhausted then none else some (.error e), { c with next := none },
        (r.page url s).2) := by
  unfold visit
  rcases hpage : r.page url s with ⟨result, s'⟩
  rw [hpage] at h
  change result = _ at h
  subst h
  rfl

theorem visit_of_ok {c : Crawl} {url : Url} {s : RestState} {rows : Rows}
    {next : Except ScrapeError String} (h : (r.page url s).1 = .ok (rows, next)) :
    r.visit c url s =
      (some (.ok ⟨url, rows⟩), c.after (Crawl.resolve url next), (r.page url s).2) := by
  unfold visit
  rcases hpage : r.page url s with ⟨result, s'⟩
  rw [hpage] at h
  change result = _ at h
  subst h
  rfl

/-- A call makes a request for the url it requests, and no other. -/
theorem next_history (c : Crawl) (s : RestState) :
    (r.next c s).2.2.history =
      s.history ++ (r.target c).toList.map fun url => .get url.toText := by
  rcases r.call_cases c with ⟨e, he⟩ | hfin | ⟨url, hurl⟩
  · rw [next_of_pending he, target_of_pending he]
    exact (List.append_nil _).symm
  · rw [next_of_finished hfin, target_of_finished hfin]
    exact (List.append_nil _).symm
  · rw [next_of_target hurl, visit_state, page_history, hurl]
    rfl

/-- A call that does not tell a page ends the walk. -/
theorem finished_of_no_page {c : Crawl} {s : RestState}
    (h : ∀ page, (r.next c s).1 ≠ some (.ok page)) : r.Finished (r.next c s).2.1 := by
  rcases r.call_cases c with ⟨e, he⟩ | hfin | ⟨url, hurl⟩
  · rw [next_of_pending he]
    exact ⟨rfl, Or.inl rfl⟩
  · rw [next_of_finished hfin]
    exact hfin
  · rw [next_of_target hurl] at h ⊢
    cases hpage : (r.page url s).1 with
    | error e =>
      rw [visit_of_error hpage]
      exact ⟨(target_eq_some_iff.1 hurl).1, Or.inl rfl⟩
    | ok found =>
      obtain ⟨rows, next⟩ := found
      rw [visit_of_ok hpage] at h
      exact absurd rfl (h ⟨url, rows⟩)

/-! ## The state of a walk -/

variable (r) in
/-- What holds of a walk after `n` calls: if the next call requests a url, all of them have told a page;
a pending failure is a real one and comes last. -/
structure Valid (n : Nat) (c : Crawl) : Prop where
  fetched : ∀ url, r.target c = some url → c.fetched = n
  pending : ∀ e, c.pending = some e → c.next = none ∧ e.isExhausted = false

theorem Valid.of_finished {c : Crawl} (h : r.Finished c) (n : Nat) : r.Valid n c := by
  refine ⟨fun url hurl => ?_, fun e he => ?_⟩
  · rw [target_of_finished h] at hurl
    cases hurl
  · rw [h.1] at he
    cases he

theorem Valid.start (url : Url) : r.Valid 0 (.start url) := by
  refine ⟨fun _ _ => rfl, fun e he => ?_⟩
  cases he

theorem Valid.after {n : Nat} {c : Crawl} (h : c.fetched = n) (next : Except ScrapeError Url) :
    r.Valid (n + 1) (c.after next) := by
  cases next with
  | ok url =>
    refine ⟨fun _ _ => congrArg (· + 1) h, fun e he => ?_⟩
    cases he
  | error e =>
    refine ⟨fun _ _ => congrArg (· + 1) h, fun e' he => ⟨rfl, ?_⟩⟩
    change (if e.isExhausted then none else some e) = some e' at he
    split at he
    · cases he
    · next hreal =>
      cases he
      exact Bool.eq_false_iff.2 hreal

/-- One call keeps a walk valid. -/
theorem Valid.next {n : Nat} {c : Crawl} (h : r.Valid n c) (s : RestState) :
    r.Valid (n + 1) (r.next c s).2.1 := by
  rcases r.call_cases c with ⟨e, he⟩ | hfin | ⟨url, hurl⟩
  · rw [next_of_pending he]
    exact .of_finished ⟨rfl, Or.inl rfl⟩ (n + 1)
  · rw [next_of_finished hfin]
    exact .of_finished hfin (n + 1)
  · rw [next_of_target hurl]
    cases hpage : (r.page url s).1 with
    | error e =>
      have hfin : r.Finished { c with next := none } :=
        ⟨(target_eq_some_iff.1 hurl).1, Or.inl rfl⟩
      rw [visit_of_error hpage]
      exact .of_finished hfin (n + 1)
    | ok found =>
      obtain ⟨rows, next⟩ := found
      rw [visit_of_ok hpage]
      exact .after (h.fetched url hurl) _

/-- A valid walk never tells that a result set has come to its end. -/
theorem Valid.item_real {n : Nat} {c : Crawl} (h : r.Valid n c) {s : RestState} {e : ScrapeError}
    (he : (r.next c s).1 = some (.error e)) : e.isExhausted = false := by
  rcases r.call_cases c with ⟨e', he'⟩ | hfin | ⟨url, hurl⟩
  · rw [next_of_pending he'] at he
    cases he
    exact (h.pending e he').2
  · rw [next_of_finished hfin] at he
    cases he
  · rw [next_of_target hurl] at he
    cases hpage : (r.page url s).1 with
    | error e' =>
      rw [visit_of_error hpage] at he
      change (if e'.isExhausted then none else some (Except.error e')) = some (.error e) at he
      split at he
      · cases he
      · next hreal =>
        cases he
        exact Bool.eq_false_iff.2 hreal
    | ok found =>
      obtain ⟨rows, next⟩ := found
      rw [visit_of_ok hpage] at he
      cases he

/-! ## Runs -/

variable (r) (start : Url) (s : RestState)

/-- The place and the state of a walk after so many calls. -/
def walk : Nat → Crawl × RestState
  | 0 => (.start start, s)
  | n + 1 => (r.next (walk n).1 (walk n).2).2

/-- What the call after `n` calls tells. -/
def item (n : Nat) : Option CrawlItem :=
  (r.next (r.walk start s n).1 (r.walk start s n).2).1

/-- The url that the call after `n` calls requests. -/
def targetAt (n : Nat) : Option Url :=
  r.target (r.walk start s n).1

/-- The requests made before the call after `n` calls. -/
def historyAt (n : Nat) : History :=
  (r.walk start s n).2.history

variable {r start s}

theorem walk_succ (n : Nat) :
    r.walk start s (n + 1) = (r.next (r.walk start s n).1 (r.walk start s n).2).2 := rfl

theorem walk_valid (n : Nat) : r.Valid n (r.walk start s n).1 := by
  induction n with
  | zero => exact .start start
  | succ n ih => exact ih.next _

theorem historyAt_succ (n : Nat) :
    r.historyAt start s (n + 1) =
      r.historyAt start s n ++ (r.targetAt start s n).toList.map fun url => .get url.toText :=
  next_history _ _

/-- Once a call has not told a page, the walk stands still. -/
theorem walk_of_no_page {n : Nat} (h : ∀ page, r.item start s n ≠ some (.ok page)) {m : Nat}
    (hm : n < m) :
    r.Finished (r.walk start s m).1 ∧ r.walk start s m = r.walk start s (n + 1) := by
  induction m with
  | zero => exact absurd hm (Nat.not_lt_zero n)
  | succ m ih =>
    rcases Nat.lt_succ_iff_lt_or_eq.1 hm with hlt | rfl
    · obtain ⟨hfin, hsame⟩ := ih hlt
      have hstep : r.walk start s (m + 1) = r.walk start s m := by
        rw [walk_succ, next_of_finished hfin]
      rw [hstep]
      exact ⟨hfin, hsame⟩
    · exact ⟨finished_of_no_page h, rfl⟩

/-! ## The page behind a target -/

theorem limitReached_eq_false_iff {n : Nat} :
    r.limitReached n = false ↔ r.pageLimit = 0 ∨ n < r.pageLimit := by
  simp only [limitReached, Bool.and_eq_false_iff, decide_eq_false_iff_not, Nat.not_lt,
    Nat.le_zero, Nat.not_le]

/-- The calls before one that requests a url have all told a page. -/
theorem fetched_of_targetAt {n : Nat} {url : Url} (h : r.targetAt start s n = some url) :
    (r.walk start s n).1.fetched = n :=
  (walk_valid n).fetched url h

theorem lt_pageLimit_of_targetAt {n : Nat} {url : Url} (h : r.targetAt start s n = some url)
    (hlimit : 0 < r.pageLimit) : n < r.pageLimit := by
  have hreached := (target_eq_some_iff.1 h).2.1
  rw [fetched_of_targetAt h, limitReached_eq_false_iff] at hreached
  exact hreached.resolve_left (Nat.ne_of_gt hlimit)

theorem item_of_page_error {n : Nat} {url : Url} {e : ScrapeError}
    (h : r.targetAt start s n = some url)
    (hpage : (r.page url (r.walk start s n).2).1 = .error e) :
    r.item start s n = if e.isExhausted then none else some (.error e) := by
  rw [item, next_of_target h, visit_of_error hpage]

theorem walk_of_page_ok {n : Nat} {url : Url} {rows : Rows} {next : Except ScrapeError String}
    (h : r.targetAt start s n = some url)
    (hpage : (r.page url (r.walk start s n).2).1 = .ok (rows, next)) :
    r.item start s n = some (.ok ⟨url, rows⟩) ∧
      (r.walk start s (n + 1)).1 = (r.walk start s n).1.after (Crawl.resolve url next) := by
  rw [item, walk_succ, next_of_target h, visit_of_ok hpage]
  exact ⟨rfl, rfl⟩

/-- Only a page that has been fetched and finished is told. -/
theorem page_of_item {n : Nat} {page : RestPage} (h : r.item start s n = some (.ok page)) :
    r.targetAt start s n = some page.url ∧
      ∃ next, (r.page page.url (r.walk start s n).2).1 = .ok (page.rows, next) := by
  rcases r.call_cases (r.walk start s n).1 with ⟨e, he⟩ | hfin | ⟨url, hurl⟩
  · rw [item, next_of_pending he] at h
    cases h
  · rw [item, next_of_finished hfin] at h
    cases h
  · cases hpage : (r.page url (r.walk start s n).2).1 with
    | error e =>
      rw [item_of_page_error hurl hpage] at h
      split at h <;> cases h
    | ok found =>
      obtain ⟨rows, next⟩ := found
      rw [(walk_of_page_ok hurl hpage).1] at h
      cases h
      exact ⟨hurl, next, hpage⟩

/-- A url is requested only where the page before has led to it. -/
theorem page_of_targetAt_succ {n : Nat} {url : Url} (h : r.targetAt start s (n + 1) = some url) :
    ∃ last rows next, r.targetAt start s n = some last ∧
      (r.page last (r.walk start s n).2).1 = .ok (rows, next) ∧
      Crawl.resolve last next = .ok url := by
  have hitem : ∃ page, r.item start s n = some (.ok page) := by
    by_contra hnone
    have hfin := (walk_of_no_page (fun page hp => hnone ⟨page, hp⟩) (Nat.lt_succ_self n)).1
    rw [targetAt, target_of_finished hfin] at h
    cases h
  obtain ⟨page, hpage⟩ := hitem
  obtain ⟨hlast, next, hok⟩ := page_of_item hpage
  refine ⟨page.url, page.rows, next, hlast, hok, ?_⟩
  have hnext := (target_eq_some_iff.1 h).2.2
  rw [(walk_of_page_ok hlast hok).2] at hnext
  cases hresolve : Crawl.resolve page.url next with
  | error e => rw [hresolve] at hnext; cases hnext
  | ok url' =>
    rw [hresolve] at hnext
    cases hnext
    rfl

theorem resolve_eq_ok_iff {url url' : Url} {next : Except ScrapeError String} :
    Crawl.resolve url next = .ok url' ↔ ∃ reference, next = .ok reference ∧
      url.join reference = .ok url' := by
  cases next with
  | error e => simp [Crawl.resolve]
  | ok reference =>
    change (url.join reference).mapError (ScrapeError.invalidUrl reference) = .ok url' ↔ _
    cases hjoin : url.join reference with
    | error fault => simp [Except.mapError, hjoin]
    | ok joined => simp [Except.mapError, hjoin]

/-- No more requests are made than the page limit allows. -/
theorem historyAt_length_le (hlimit : 0 < r.pageLimit) (n : Nat) :
    (r.historyAt start s n).length ≤ s.history.length + min n r.pageLimit := by
  induction n with
  | zero => exact Nat.le_add_right _ _
  | succ n ih =>
    rw [historyAt_succ, List.length_append, List.length_map]
    cases htarget : r.targetAt start s n with
    | none =>
      rw [Option.toList_none, List.length_nil]
      omega
    | some url =>
      have hlt := lt_pageLimit_of_targetAt htarget hlimit
      rw [Option.toList_some, List.length_singleton]
      omega

/-! ## The law of walks -/

variable (r start s)

/-- What a walk through pages is like. A call that tells a failure or nothing is one that tells no page. -/
structure Orderly : Prop where
  /-- After a failure or nothing, nothing more is told, and nothing is done. -/
  ends : ∀ n m, (∀ page, r.item start s n ≠ some (.ok page)) → n < m →
    r.item start s m = none ∧ r.targetAt start s m = none ∧
      r.walk start s m = r.walk start s (n + 1)
  /-- The end of a result set is not told as a failure. -/
  real : ∀ n e, r.item start s n = some (.error e) → e.isExhausted = false
  /-- The one request that a call makes, if it makes any, is for its target. -/
  requests : ∀ n, r.historyAt start s (n + 1) =
    r.historyAt start s n ++ (r.targetAt start s n).toList.map fun url => .get url.toText
  /-- All requests together keep to the page limit. -/
  limited : 0 < r.pageLimit → ∀ n,
    (r.historyAt start s n).length ≤ s.history.length + r.pageLimit
  first : r.targetAt start s 0 = some start
  /-- A later target is where the page before leads to. -/
  follows : ∀ n url', r.targetAt start s (n + 1) = some url' → ∃ url data reference,
    r.targetAt start s n = some url ∧ r.Reads (r.historyAt start s n) url data ∧
      r.nextUrl url data = .ok reference ∧ url.join reference = .ok url'
  /-- A page that leads on is followed, up to the page limit. -/
  goesOn : ∀ n url data rows reference url', r.targetAt start s n = some url →
    r.Reads (r.historyAt start s n) url data → r.finishedRows data = .ok rows →
    r.nextUrl url data = .ok reference → url.join reference = .ok url' →
    (r.pageLimit = 0 ∨ n + 1 < r.pageLimit) → r.targetAt start s (n + 1) = some url'
  /-- A page holds the url that was requested and all rows in their order, each of them finished. -/
  page : ∀ n page, r.item start s n = some (.ok page) → ∃ data raw,
    r.targetAt start s n = some page.url ∧ r.Reads (r.historyAt start s n) page.url data ∧
      r.rows data = .ok raw ∧ List.Forall₂ (fun row done => r.row row = .ok done) raw page.rows
  /-- A page with a row that cannot be finished is not told. -/
  whole : ∀ n url data raw row e, r.targetAt start s n = some url →
    r.Reads (r.historyAt start s n) url data → r.rows data = .ok raw → row ∈ raw →
    r.row row = .error e → ∀ page, r.item start s n ≠ some (.ok page)
  /-- A page is told whatever comes of the next url. -/
  kept : ∀ n url data raw rows, r.targetAt start s n = some url →
    r.Reads (r.historyAt start s n) url data → r.rows data = .ok raw →
    List.Forall₂ (fun row done => r.row row = .ok done) raw rows →
    r.item start s n = some (.ok ⟨url, rows⟩)
  /-- Where there is no next url, the call after the page tells why, unless this is just the end of the
  result set. This goes for the last page within the limit as for any other. -/
  reason : ∀ n url data rows e, r.targetAt start s n = some url →
    r.Reads (r.historyAt start s n) url data → r.finishedRows data = .ok rows →
    Crawl.resolve url (r.nextUrl url data) = .error e →
    r.item start s (n + 1) = if e.isExhausted then none else some (.error e)
  /-- A page that cannot be had is told as a failure, unless this is just the end. -/
  fails : ∀ n url e, r.targetAt start s n = some url →
    (r.page url (r.walk start s n).2).1 = .error e →
    r.item start s n = if e.isExhausted then none else some (.error e)

variable {r start s}

theorem page_of_reads {n : Nat} {url : Url} {data : δ} {rows : Rows}
    (hreads : r.Reads (r.historyAt start s n) url data) (hrows : r.finishedRows data = .ok rows) :
    (r.page url (r.walk start s n).2).1 = .ok (rows, r.nextUrl url data) :=
  page_eq_ok_iff.2 ⟨data, hreads, hrows, rfl⟩

/-- Where a page leads to no url, the next call tells the failure or nothing. -/
theorem item_of_resolve_error {n : Nat} {url : Url} {data : δ} {rows : Rows} {e : ScrapeError}
    (htarget : r.targetAt start s n = some url)
    (hreads : r.Reads (r.historyAt start s n) url data) (hrows : r.finishedRows data = .ok rows)
    (he : Crawl.resolve url (r.nextUrl url data) = .error e) :
    r.item start s (n + 1) = if e.isExhausted then none else some (.error e) := by
  have hwalk := (walk_of_page_ok htarget (page_of_reads hreads hrows)).2
  rw [he] at hwalk
  rw [item, hwalk]
  split
  · next hend =>
    have hfin : r.Finished ((r.walk start s n).1.after (.error e)) := ⟨if_pos hend, Or.inl rfl⟩
    rw [next_of_finished hfin]
  · next hreal =>
    have hpending : ((r.walk start s n).1.after (.error e)).pending = some e := if_neg hreal
    rw [next_of_pending hpending]

/-- **Every walk is orderly**: pages, then at most one failure, then nothing. -/
theorem crawl_orderly (r : RestScraper δ) (start : Url) (s : RestState) : r.Orderly start s where
  ends n m h hm := by
    obtain ⟨hfin, hsame⟩ := walk_of_no_page h hm
    exact ⟨by rw [item, next_of_finished hfin], target_of_finished hfin, hsame⟩
  real n e he := (walk_valid n).item_real he
  requests := historyAt_succ
  limited hlimit n :=
    Nat.le_trans (historyAt_length_le hlimit n) (Nat.add_le_add_left (Nat.min_le_right _ _) _)
  first := by
    have hlimit : r.limitReached 0 = false := limitReached_eq_false_iff.2 (by omega)
    exact target_eq_some_iff.2 ⟨rfl, hlimit, rfl⟩
  follows n url' h := by
    obtain ⟨url, rows, next, htarget, hpage, hresolve⟩ := page_of_targetAt_succ h
    obtain ⟨data, hreads, -, rfl⟩ := page_eq_ok_iff.1 hpage
    obtain ⟨reference, hreference, hjoin⟩ := resolve_eq_ok_iff.1 hresolve
    exact ⟨url, data, reference, htarget, hreads, hreference, hjoin⟩
  goesOn n url data rows reference url' htarget hreads hrows hreference hjoin hlimit := by
    have hwalk := (walk_of_page_ok htarget (page_of_reads hreads hrows)).2
    rw [resolve_eq_ok_iff.2 ⟨reference, hreference, hjoin⟩] at hwalk
    rw [targetAt, hwalk]
    refine target_eq_some_iff.2 ⟨rfl, ?_, rfl⟩
    change r.limitReached ((r.walk start s n).1.fetched + 1) = false
    rw [fetched_of_targetAt htarget]
    exact limitReached_eq_false_iff.2 hlimit
  page n page h := by
    obtain ⟨htarget, next, hpage⟩ := page_of_item h
    obtain ⟨data, hreads, hrows, -⟩ := page_eq_ok_iff.1 hpage
    obtain ⟨raw, hraw, hdone⟩ := finishedRows_eq_ok_iff.1 hrows
    exact ⟨data, raw, htarget, hreads, hraw, hdone⟩
  whole n url data raw row e htarget hreads hraw hrow hfail page hitem := by
    obtain ⟨htarget', next, hpage⟩ := page_of_item hitem
    rw [htarget] at htarget'
    cases htarget'
    obtain ⟨data', hreads', hrows, -⟩ := page_eq_ok_iff.1 hpage
    cases hreads.unique hreads'
    obtain ⟨raw', hraw', hdone⟩ := finishedRows_eq_ok_iff.1 hrows
    rw [hraw] at hraw'
    cases hraw'
    obtain ⟨done, hok⟩ := exists_of_forall₂ hdone hrow
    rw [hfail] at hok
    cases hok
  kept n url data raw rows htarget hreads hraw hdone :=
    (walk_of_page_ok htarget
      (page_of_reads hreads (finishedRows_eq_ok_iff.2 ⟨raw, hraw, hdone⟩))).1
  reason n url data rows e htarget hreads hrows he := item_of_resolve_error htarget hreads hrows he
  fails n url e htarget he := item_of_page_error htarget he

end RestScraper

end Harvest
