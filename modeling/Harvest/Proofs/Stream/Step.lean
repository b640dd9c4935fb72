import Mathlib.Data.List.Induction
import Harvest.Stream.Pool

/-!
# The changes of a pool

`Change` lists what can happen to a pool, each time with the condition for it and the pool afterwards,
and `step?_eq_some_iff` says that the steps of a pool are these changes and no others. All that is
invariant under steps is proved by cases on `Change`, and carried over to all that a list of steps leads
to (`follow?`) by `follow?_induction`.
-/

namespace Harvest

variable {σ : Type}

/-- Whether a step is a move of a worker. -/
def PoolStep.IsOf (w : Nat) : PoolStep σ → Prop
  | .work v _ => v = w
  | _ => False

/-- The url that a step subscribes to. -/
def PoolStep.subscribed? : PoolStep σ → Option String
  | .subscribe url => some url
  | _ => none

/-- A scraper to which every url is an empty page. -/
def Scraper.blank : Scraper Unit where
  scrapeUrl := fun _ => .of (.ok [])
  nextUrl := fun _ _ => .of (.error .noNextUrl)
  rows := fun _ => .of (.ok [])
  parseRow := fun row => .of (.ok row)

namespace Pool

variable {s : Scraper σ} {p q r : Pool σ} {e : PoolStep σ}

/-! ## Changes -/

/-- What a step leads to. -/
inductive Change (s : Scraper σ) (p : Pool σ) : PoolStep σ → Pool σ → Prop where
  | refuse {url : String} (closed : p.accepting = false ∨ p.isDeserted = true) :
    Change s p (.add url) p
  | accept {url : String} (accepting : p.accepting = true) (manned : p.isDeserted = false)
    (room : p.queue.length < p.capacity) : Change s p (.add url)
      { p with
        queue := p.queue ++ [⟨p.accepted.length, url⟩]
        accepted := p.accepted ++ [⟨p.accepted.length, url⟩] }
  | subscribe {url : String} : Change s p (.subscribe url) (p.subscribe url).2
  | announce {n : Nat} (entered : n ∈ p.announcing) :
    Change s p (.announce n)
      { p with announcing := p.announcing.erase n, workers := p.workers.map Worker.wake }
  | hangUp {n : Nat} (listening : p.listening n = true) :
    Change s p (.hangUp n) (p.setStatus n .hungUp)
  | close (apart : p.closing = none) : Change s p .close p.close
  | giveUp {awaited : List Nat} (closing : p.closing = some awaited) :
    Change s p .giveUp { p with closing := none }
  | joined {awaited : List Nat} (closing : p.closing = some awaited)
    (ended : ∀ w ∈ awaited, p.hasEnded w = true) : Change s p .joined { p with closing := none }
  | pick {w : Nat} {task : Task} {more : List Task} (worker : p.workers[w]? = some .idle)
    (front : p.queue = task :: more) :
    Change s p (.work w .pick) ({ p with queue := more }.setWorker w (.fetching task))
  | stop {w : Nat} (worker : p.workers[w]? = some .idle) (closed : p.accepting = false)
    (empty : p.queue = []) : Change s p (.work w .stop) (p.setWorker w .stopped)
  | fetchFailed {w : Nat} {task : Task} {error : ScrapeError} {scraping : σ}
    (worker : p.workers[w]? = some (.fetching task))
    (fetched : s.scrapeUrl task.url p.scraping = (.error error, scraping)) :
    Change s p (.work w .fetch)
      ({ p with scraping := scraping }.setWorker w (.scraped task (.error error)))
  | fetched {w : Nat} {task : Task} {bytes : List UInt8} {scraping : σ}
    (worker : p.workers[w]? = some (.fetching task))
    (fetched : s.scrapeUrl task.url p.scraping = (.ok bytes, scraping)) :
    Change s p (.work w .fetch) ({ p with scraping := scraping }.setWorker w (.reading task bytes))
  | fetchCrashed {w : Nat} {task : Task} {scraping : σ}
    (worker : p.workers[w]? = some (.fetching task)) :
    Change s p (.work w (.crash scraping)) ({ p with scraping := scraping }.finish w task .crashed)
  | read {w : Nat} {task : Task} {bytes : List UInt8} {outcome : Outcome} {scraping : σ}
    (worker : p.workers[w]? = some (.reading task bytes))
    (rows : s.rows bytes p.scraping = (outcome, scraping)) :
    Change s p (.work w .read)
      ({ p with scraping := scraping }.setWorker w (.scraped task outcome))
  | readCrashed {w : Nat} {task : Task} {bytes : List UInt8} {scraping : σ}
    (worker : p.workers[w]? = some (.reading task bytes)) :
    Change s p (.work w (.crash scraping)) ({ p with scraping := scraping }.finish w task .crashed)
  | deadlineSet {w : Nat} {task : Task} {outcome : Outcome} {now deadline : Nat}
    (worker : p.workers[w]? = some (.scraped task outcome))
    (told : p.patience.deadline? now = some deadline) :
    Change s p (.work w (.setDeadline now)) (p.setWorker w (.publishing task outcome .arming))
  | failed {w : Nat} {task : Task} {outcome : Outcome} {now : Nat}
    (worker : p.workers[w]? = some (.scraped task outcome))
    (untold : p.patience.deadline? now = none) :
    Change s p (.work w (.setDeadline now)) (p.abandon w task)
  | arm {w : Nat} {task : Task} {outcome : Outcome}
    (worker : p.workers[w]? = some (.publishing task outcome .arming)) :
    Change s p (.work w .arm) (p.setWorker w (.publishing task outcome (.scanning false)))
  | found {w : Nat} {task : Task} {outcome : Outcome} {woken : Bool} {n : Nat} {rest : Subscribers}
    (worker : p.workers[w]? = some (.publishing task outcome (.scanning woken)))
    (taken : p.subscribers.take p.listening task.url = (some n, rest)) :
    Change s p (.work w .take)
      ({ p with subscribers := rest }.setWorker w (.publishing task outcome (.sending woken n)))
  | nobody {w : Nat} {task : Task} {outcome : Outcome} {woken : Bool} {rest : Subscribers}
    (worker : p.workers[w]? = some (.publishing task outcome (.scanning woken)))
    (taken : p.subscribers.take p.listening task.url = (none, rest)) :
    Change s p (.work w .take)
      ({ p with subscribers := rest }.setWorker w (.publishing task outcome (.waiting woken)))
  | sent {w : Nat} {task : Task} {outcome : Outcome} {woken : Bool} {n : Nat}
    (worker : p.workers[w]? = some (.publishing task outcome (.sending woken n)))
    (listening : p.listening n = true) :
    Change s p (.work w .send)
      ((p.setStatus n (.received outcome)).finish w task (.delivered n))
  | refused {w : Nat} {task : Task} {outcome : Outcome} {woken : Bool} {n : Nat}
    (worker : p.workers[w]? = some (.publishing task outcome (.sending woken n)))
    (gone : p.listening n = false) :
    Change s p (.work w .send) (p.setWorker w (.publishing task outcome (.scanning woken)))
  | wake {w : Nat} {task : Task} {outcome : Outcome}
    (worker : p.workers[w]? = some (.publishing task outcome (.waiting true))) :
    Change s p (.work w .wake) (p.setWorker w (.publishing task outcome .arming))
  | expire {w : Nat} {task : Task} {outcome : Outcome}
    (worker : p.workers[w]? = some (.publishing task outcome (.waiting false))) :
    Change s p (.work w .expire) (p.finish w task .expired)

theorem Change.step? (h : Change s p e q) : p.step? s e = some q := by
  cases h with
  | refuse closed => rcases closed with closed | closed <;> simp [Pool.step?, add?, closed]
  | accept accepting manned room => simp [Pool.step?, add?, accepting, manned, room]
  | subscribe => rfl
  | announce entered => simp [Pool.step?, announce?, entered]
  | hangUp listening => simp [Pool.step?, hangUp?, listening]
  | close apart => simp [Pool.step?, apart]
  | giveUp closing => simp [Pool.step?, giveUp?, closing]
  | joined closing ended =>
    simp only [Pool.step?, join?, closing, Option.bind_some]
    exact if_pos (List.all_eq_true.2 ended)
  | pick worker front => simp [Pool.step?, worker, move?, front]
  | stop worker closed empty => simp [Pool.step?, worker, move?, closed, empty]
  | fetchFailed worker fetched => simp [Pool.step?, worker, move?, fetchFor, fetched]
  | fetched worker fetched => simp [Pool.step?, worker, move?, fetchFor, fetched]
  | fetchCrashed worker => simp [Pool.step?, worker, move?]
  | read worker rows => simp [Pool.step?, worker, move?, readFor, rows]
  | readCrashed worker => simp [Pool.step?, worker, move?]
  | deadlineSet worker told => simp [Pool.step?, worker, move?, publishFrom, told]
  | failed worker untold => simp [Pool.step?, worker, move?, publishFrom, untold]
  | arm worker => simp [Pool.step?, worker, move?]
  | found worker taken => simp [Pool.step?, worker, move?, takeFor, taken]
  | nobody worker taken => simp [Pool.step?, worker, move?, takeFor, taken]
  | sent worker listening => simp [Pool.step?, worker, move?, sendTo, listening]
  | refused worker gone => simp [Pool.step?, worker, move?, sendTo, gone]
  | wake worker => simp [Pool.step?, worker, move?]
  | expire worker => simp [Pool.step?, worker, move?]

/-- A worker moves only from where its move is possible. -/
theorem change_of_move? {w : Nat} {worker : Worker} {move : Move σ}
    (hworker : p.workers[w]? = some worker) (h : p.move? s w worker move = some q) :
    Change s p (.work w move) q := by
  unfold move? at h
  split at h
  · split at h
    · cases h
    · next hfront =>
      cases h
      exact .pick hworker hfront
  · split at h
    · next hclosed =>
      cases h
      simp only [Bool.and_eq_true, Bool.not_eq_true', List.isEmpty_iff] at hclosed
      exact .stop hworker hclosed.1 hclosed.2
    · cases h
  · cases h
    unfold fetchFor
    split
    · next hfetched => exact .fetchFailed hworker hfetched
    · next hfetched => exact .fetched hworker hfetched
  · cases h
    exact .fetchCrashed hworker
  · cases h
    exact .read hworker rfl
  · cases h
    exact .readCrashed hworker
  · cases h
    unfold publishFrom
    split
    · next htold => exact .deadlineSet hworker htold
    · next huntold => exact .failed hworker huntold
  · cases h
    exact .arm hworker
  · cases h
    unfold takeFor
    split
    · next htaken => exact .found hworker htaken
    · next htaken => exact .nobody hworker htaken
  · cases h
    unfold sendTo
    split
    · next hlistening => exact .sent hworker hlistening
    · next hgone => exact .refused hworker (Bool.not_eq_true _ ▸ hgone)
  · cases h
    exact .wake hworker
  · cases h
    exact .expire hworker
  · cases h

theorem change_of_step? (h : p.step? s e = some q) : Change s p e q := by
  cases e with
  | add url =>
    simp only [Pool.step?, add?, Option.map_eq_some_iff] at h
    obtain ⟨⟨accepted, after⟩, hadd, rfl⟩ := h
    split at hadd
    · next hclosed =>
      cases hadd
      exact .refuse (by simpa using hclosed)
    · next hopen =>
      simp only [Bool.or_eq_true, Bool.not_eq_true', not_or, Bool.not_eq_false,
        Bool.not_eq_true] at hopen
      split at hadd
      · next hroom =>
        cases hadd
        exact .accept hopen.1 hopen.2 hroom
      · cases hadd
  | subscribe url =>
    cases h
    exact .subscribe
  | announce n =>
    simp only [Pool.step?, announce?] at h
    split at h
    · next hentered =>
      cases h
      exact .announce (by simpa using hentered)
    · cases h
  | hangUp n =>
    simp only [Pool.step?, hangUp?] at h
    split at h
    · next hlistening =>
      cases h
      exact .hangUp hlistening
    · cases h
  | close =>
    simp only [Pool.step?] at h
    split at h
    · next happart =>
      cases h
      exact .close (Option.isNone_iff_eq_none.1 happart)
    · cases h
  | giveUp =>
    obtain ⟨awaited, hclosing, rfl⟩ := Option.map_eq_some_iff.1 h
    exact .giveUp hclosing
  | joined =>
    obtain ⟨awaited, hclosing, hjoin⟩ := Option.bind_eq_some_iff.1 h
    split at hjoin
    · next hended =>
      cases hjoin
      exact .joined hclosing (List.all_eq_true.1 hended)
    · cases hjoin
  | work w move =>
    obtain ⟨worker, hworker, hmove⟩ := Option.bind_eq_some_iff.1 h
    exact change_of_move? hworker hmove

/-- The steps of a pool are its changes. -/
theorem step?_eq_some_iff : p.step? s e = some q ↔ Change s p e q :=
  ⟨change_of_step?, Change.step?⟩

/-! ## Lists of steps -/

/-- The pool after steps one after the other, if all of them are possible. -/
def follow? (s : Scraper σ) : Pool σ → List (PoolStep σ) → Option (Pool σ)
  | p, [] => some p
  | p, e :: more => (p.step? s e).bind fun q => q.follow? s more

theorem follow?_cons (e : PoolStep σ) (more : List (PoolStep σ)) :
    p.follow? s (e :: more) = (p.step? s e).bind fun q => q.follow? s more := rfl

theorem follow?_append (steps more : List (PoolStep σ)) :
    p.follow? s (steps ++ more) = (p.follow? s steps).bind fun q => q.follow? s more := by
  induction steps generalizing p with
  | nil => rfl
  | cons e rest ih =>
    rw [List.cons_append, follow?_cons, follow?_cons, Option.bind_assoc]
    exact congrArg _ (funext fun q => ih)

theorem follow?_concat {steps : List (PoolStep σ)} (h : p.follow? s steps = some q)
    (he : Change s q e r) : p.follow? s (steps ++ [e]) = some r := by
  rw [follow?_append, h, Option.bind_some, follow?_cons, he.step?]
  rfl

/-- What holds of a pool and is kept by every change holds after all steps. -/
theorem follow?_induction {motive : List (PoolStep σ) → Pool σ → Prop} (start : motive [] p)
    (step : ∀ steps q e r, p.follow? s steps = some q → motive steps q → Change s q e r →
      motive (steps ++ [e]) r)
    {steps : List (PoolStep σ)} (h : p.follow? s steps = some q) : motive steps q := by
  induction steps using List.reverseRecOn generalizing q with
  | nil =>
    cases h
    exact start
  | append_singleton before e ih =>
    rw [follow?_append] at h
    obtain ⟨mid, hmid, hlast⟩ := Option.bind_eq_some_iff.1 h
    rw [follow?_cons] at hlast
    obtain ⟨_, hstep, hnil⟩ := Option.bind_eq_some_iff.1 hlast
    cases hnil
    exact step before mid e _ hmid (ih hmid) (change_of_step? hstep)

/-! ## Where workers are -/

theorem getElem?_set_cases {workers : List Worker} {v w : Nat} {worker other : Worker}
    (h : (workers.set v worker)[w]? = some other) :
    v = w ∧ worker = other ∨ v ≠ w ∧ workers[w]? = some other := by
  rw [List.getElem?_set] at h
  split at h
  · next he =>
    split at h
    · exact Or.inl ⟨he, Option.some.inj h⟩
    · cases h
  · next hne => exact Or.inr ⟨hne, h⟩

theorem getElem?_set_of_ne {workers : List Worker} {v w : Nat} {worker other : Worker}
    (h : workers[w]? = some other) (hne : v ≠ w) : (workers.set v worker)[w]? = some other := by
  rw [List.getElem?_set_ne hne, h]

theorem getElem?_map_wake {workers : List Worker} {w : Nat} {worker : Worker}
    (h : (workers.map Worker.wake)[w]? = some worker) :
    ∃ old, workers[w]? = some old ∧ old.wake = worker := by
  rwa [List.getElem?_map, Option.map_eq_some_iff] at h

theorem wake_eq_publishing {worker : Worker} {task : Task} {outcome : Outcome} {stage : Stage}
    (h : worker.wake = .publishing task outcome stage) :
    ∃ before, worker = .publishing task outcome before ∧ before.wake = stage := by
  cases worker with
  | publishing _ _ before =>
    cases h
    exact ⟨before, rfl, rfl⟩
  | _ => cases h

/-! ## Who listens -/

theorem listening_eq_true {n : Nat} :
    p.listening n = true ↔ ∃ url, p.subscriptions[n]? = some ⟨url, .listening⟩ := by
  unfold listening
  cases p.subscriptions[n]? with
  | none => simp
  | some subscription =>
    obtain ⟨url, status⟩ := subscription
    cases status <;> simp [Subscription.isListening]

theorem getElem?_setStatus (n m : Nat) (status : SubscriptionStatus) :
    (p.setStatus n status).subscriptions[m]? =
      (p.subscriptions[m]?).map fun t => if n = m then { t with status := status } else t := by
  unfold setStatus
  rw [List.getElem?_modify]
  rfl

theorem getElem?_subscribe (url : String) (m : Nat) :
    (p.subscribe url).2.subscriptions[m]? =
      if m = p.subscriptions.length then some ⟨url, .listening⟩ else p.subscriptions[m]? := by
  change (p.subscriptions ++ [_])[m]? = _
  split
  · next hm => rw [hm, List.getElem?_concat_length]
  · next hm =>
    by_cases hlt : m < p.subscriptions.length
    · rw [List.getElem?_append_left hlt]
    · rw [List.getElem?_eq_none (by simp; omega), List.getElem?_eq_none (by omega)]

/-- A subscription keeps its url, and it changes only while it waits for its outcome. -/
theorem Change.subscription_kept (h : Change s p e q) {n : Nat} {t : Subscription}
    (hn : p.subscriptions[n]? = some t) :
    ∃ status, q.subscriptions[n]? = some ⟨t.url, status⟩ ∧
      (t.isListening = false → status = t.status) := by
  have hset : ∀ m status, p.listening m = true →
      ∃ after, (p.setStatus m status).subscriptions[n]? = some ⟨t.url, after⟩ ∧
        (t.isListening = false → after = t.status) := by
    intro m status hm
    rw [getElem?_setStatus, hn, Option.map_some]
    by_cases hmn : m = n
    · subst hmn
      refine ⟨status, by rw [if_pos rfl], fun hquiet => ?_⟩
      rw [listening, hn, Option.map_some, Option.getD_some, hquiet] at hm
      cases hm
    · exact ⟨t.status, by rw [if_neg hmn], fun _ => rfl⟩
  cases h with
  | subscribe =>
    have hlt : n < p.subscriptions.length := (List.getElem?_eq_some_iff.1 hn).1
    rw [getElem?_subscribe, if_neg (Nat.ne_of_lt hlt)]
    exact ⟨t.status, hn, fun _ => rfl⟩
  | hangUp hlistening => exact hset _ _ hlistening
  | sent worker hlistening => exact hset _ _ hlistening
  | _ => exact ⟨t.status, hn, fun _ => rfl⟩

theorem map_url_setStatus (n : Nat) (status : SubscriptionStatus) :
    (p.setStatus n status).subscriptions.map Subscription.url =
      p.subscriptions.map Subscription.url := by
  refine List.ext_getElem? fun m => ?_
  rw [List.getElem?_map, List.getElem?_map, getElem?_setStatus, Option.map_map]
  congr 1
  funext t
  dsimp only [Function.comp]
  split <;> rfl

/-- Subscriptions are numbered by the steps that they come from. -/
theorem subscriptions_follow {patience : Patience} {workers : Nat} {scraping : σ}
    {steps : List (PoolStep σ)} (h : (startWith patience workers scraping).follow? s steps = some p) :
    p.subscriptions.map Subscription.url = steps.filterMap PoolStep.subscribed? := by
  refine follow?_induction (motive := fun steps p =>
    p.subscriptions.map Subscription.url = steps.filterMap PoolStep.subscribed?) rfl ?_ h
  intro steps q e r _ hq hchange
  rw [List.filterMap_append, ← hq]
  cases hchange with
  | subscribe => exact List.map_append
  | hangUp | sent => exact (map_url_setStatus _ _).trans (List.append_nil _).symm
  | _ => exact (List.append_nil _).symm

theorem listening_setStatus {n m : Nat} {status : SubscriptionStatus}
    (hstatus : status ≠ .listening) :
    (p.setStatus n status).listening m = true ↔ n ≠ m ∧ p.listening m = true := by
  simp only [listening_eq_true, getElem?_setStatus, Option.map_eq_some_iff]
  constructor
  · rintro ⟨url, t, ht, heq⟩
    by_cases hnm : n = m
    · rw [if_pos hnm] at heq
      exact absurd (congrArg Subscription.status heq) hstatus
    · rw [if_neg hnm] at heq
      exact ⟨hnm, url, ht.trans (congrArg some heq)⟩
  · rintro ⟨hnm, url, hm⟩
    exact ⟨url, _, hm, if_neg hnm⟩

/-- Nobody begins to listen but by subscribing. -/
theorem Change.listening_before (h : Change s p e q) {n : Nat} (hn : q.listening n = true) :
    p.listening n = true ∨ ∃ url, e = .subscribe url ∧ n = p.subscriptions.length := by
  cases h with
  | @subscribe url =>
    rw [listening_eq_true] at hn ⊢
    obtain ⟨url', hn⟩ := hn
    rw [getElem?_subscribe] at hn
    split at hn
    · next heq => exact Or.inr ⟨url, rfl, heq⟩
    · exact Or.inl ⟨url', hn⟩
  | hangUp => exact Or.inl ((listening_setStatus (by nofun)).1 hn).2
  | @sent w task outcome woken m =>
    change (p.setStatus m (.received outcome)).listening n = true at hn
    exact Or.inl ((listening_setStatus (by nofun)).1 hn).2
  | _ => exact Or.inl hn

end Pool

end Harvest
