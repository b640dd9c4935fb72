import Harvest.Proofs.Stream.Tasks
import Harvest.Proofs.Stream.Turns

/-!
# Who gets which outcome

A worker publishes what the scraper has made of the url of its task (`Made`): what it fetched at one
moment and, if that went well, the rows that it found in it later on. Whoever receives an outcome has
subscribed to the url of the task, and nobody else receives anything for that task (`Honest`).
`handed_over` puts this together with the order in which subscribers are served.
-/

namespace Harvest

/-- The subscriber who got the outcome of a task. -/
def Fate.subscriber? : Fate → Option Nat
  | .delivered n => some n
  | _ => none

namespace Pool

variable {σ : Type} {s : Scraper σ} {p q origin : Pool σ} {e : PoolStep σ} {steps more : List (PoolStep σ)}

/-! ## What the scraper has made of a url -/

/-- A worker has fetched the url of a task, and has not done anything since. -/
def Fetched (s : Scraper σ) (origin : Pool σ) (steps : List (PoolStep σ)) (w : Nat) (task : Task)
    (result : Except ScrapeError (List UInt8)) : Prop :=
  ∃ before since q, steps = before ++ .work w .fetch :: since ∧ origin.follow? s before = some q ∧
    q.workers[w]? = some (.fetching task) ∧ (s.scrapeUrl task.url q.scraping).1 = result ∧
    ∀ e ∈ since, ¬ e.IsOf w

/-- In the course of the steps a worker has fetched the url of a task without success, or has taken the
rows out of what it had fetched. -/
def Made (s : Scraper σ) (origin : Pool σ) (steps : List (PoolStep σ)) (task : Task)
    (outcome : Outcome) : Prop :=
  (∃ before after w error, steps = before ++ after ∧
    Fetched s origin before w task (.error error) ∧ outcome = .error error) ∨
  ∃ before after w q bytes, steps = before ++ .work w .read :: after ∧
    Fetched s origin before w task (.ok bytes) ∧ origin.follow? s before = some q ∧
    q.workers[w]? = some (.reading task bytes) ∧ (s.rows bytes q.scraping).1 = outcome

theorem Fetched.append {w : Nat} {task : Task} {result : Except ScrapeError (List UInt8)}
    (h : Fetched s origin steps w task result) (he : ¬ e.IsOf w) :
    Fetched s origin (steps ++ [e]) w task result := by
  obtain ⟨before, since, q, rfl, hq, hw, hresult, hsince⟩ := h
  refine ⟨before, since ++ [e], q, by simp, hq, hw, hresult, fun e' he' => ?_⟩
  rcases List.mem_append.1 he' with he' | he'
  · exact hsince e' he'
  · rwa [List.mem_singleton.1 he']

theorem Made.append {task : Task} {outcome : Outcome} (h : Made s origin steps task outcome)
    (more : List (PoolStep σ)) : Made s origin (steps ++ more) task outcome := by
  rcases h with ⟨before, after, w, error, rfl, h⟩ | ⟨before, after, w, q, bytes, rfl, h⟩
  · exact Or.inl ⟨before, after ++ more, w, error, by simp, h⟩
  · exact Or.inr ⟨before, after ++ more, w, q, bytes, by simp, h⟩

/-! ## What a step does to tasks -/

theorem Change.reading_before (h : Change s p e q) {w : Nat} {task : Task} {bytes : List UInt8}
    (hw : q.workers[w]? = some (.reading task bytes)) :
    p.workers[w]? = some (.reading task bytes) ∧ ¬ e.IsOf w ∨
      e = .work w .fetch ∧ p.workers[w]? = some (.fetching task) ∧
        (s.scrapeUrl task.url p.scraping).1 = .ok bytes := by
  cases h with
  | refuse | accept | subscribe | hangUp | close | giveUp | joined => exact Or.inl ⟨hw, id⟩
  | announce =>
    obtain ⟨worker, hworker, hwake⟩ := getElem?_map_wake hw
    cases worker with
    | reading =>
      cases hwake
      exact Or.inl ⟨hworker, id⟩
    | _ => cases hwake
  | fetched worker hfetched =>
    rcases getElem?_set_cases hw with ⟨rfl, hworker⟩ | ⟨hne, hw⟩
    · cases hworker
      exact Or.inr ⟨rfl, worker, by rw [hfetched]⟩
    · exact Or.inl ⟨hw, hne⟩
  | pick | stop | fetchFailed | fetchCrashed | read | readCrashed | deadlineSet | failed | arm | found
  | nobody | sent | refused | wake | expire =>
    rcases getElem?_set_cases hw with ⟨-, hworker⟩ | ⟨hne, hw⟩
    · cases hworker
    · exact Or.inl ⟨hw, hne⟩

/-- A worker has the outcome that it has had before, or of what it has just fetched or read. -/
theorem Change.scraped_before (h : Change s p e q) {w : Nat} {task : Task} {outcome : Outcome}
    (hw : q.workers[w]? = some (.scraped task outcome)) :
    p.workers[w]? = some (.scraped task outcome) ∨
      (∃ error, e = .work w .fetch ∧ p.workers[w]? = some (.fetching task) ∧
        (s.scrapeUrl task.url p.scraping).1 = .error error ∧ outcome = .error error) ∨
      ∃ bytes, e = .work w .read ∧ p.workers[w]? = some (.reading task bytes) ∧
        (s.rows bytes p.scraping).1 = outcome := by
  cases h with
  | refuse | accept | subscribe | hangUp | close | giveUp | joined => exact Or.inl hw
  | announce =>
    obtain ⟨worker, hworker, hwake⟩ := getElem?_map_wake hw
    cases worker with
    | scraped =>
      cases hwake
      exact Or.inl hworker
    | _ => cases hwake
  | fetchFailed worker hfetched =>
    rcases getElem?_set_cases hw with ⟨rfl, hworker⟩ | ⟨-, hw⟩
    · cases hworker
      exact Or.inr (Or.inl ⟨_, rfl, worker, by rw [hfetched], rfl⟩)
    · exact Or.inl hw
  | read worker hrows =>
    rcases getElem?_set_cases hw with ⟨rfl, hworker⟩ | ⟨-, hw⟩
    · cases hworker
      exact Or.inr (Or.inr ⟨_, rfl, worker, by rw [hrows]⟩)
    · exact Or.inl hw
  | pick | stop | fetched | fetchCrashed | readCrashed | deadlineSet | failed | arm | found | nobody
  | sent | refused | wake | expire =>
    rcases getElem?_set_cases hw with ⟨-, hworker⟩ | ⟨-, hw⟩
    · cases hworker
    · exact Or.inl hw

/-- A worker publishes what it has published before, or the outcome for which it has just set the
deadline. -/
theorem Change.publishing_before (h : Change s p e q) {w : Nat} {task : Task} {outcome : Outcome}
    {stage : Stage} (hw : q.workers[w]? = some (.publishing task outcome stage)) :
    (∃ stage, p.workers[w]? = some (.publishing task outcome stage)) ∨
      p.workers[w]? = some (.scraped task outcome) := by
  cases h with
  | refuse | accept | subscribe | hangUp | close | giveUp | joined => exact Or.inl ⟨stage, hw⟩
  | announce =>
    obtain ⟨worker, hworker, hwake⟩ := getElem?_map_wake hw
    obtain ⟨before, rfl, -⟩ := wake_eq_publishing hwake
    exact Or.inl ⟨before, hworker⟩
  | deadlineSet worker =>
    rcases getElem?_set_cases hw with ⟨rfl, hworker⟩ | ⟨-, hw⟩
    · cases hworker
      exact Or.inr worker
    · exact Or.inl ⟨stage, hw⟩
  | arm worker | found worker | nobody worker | refused worker | wake worker =>
    rcases getElem?_set_cases hw with ⟨rfl, hworker⟩ | ⟨-, hw⟩
    · cases hworker
      exact Or.inl ⟨_, worker⟩
    · exact Or.inl ⟨stage, hw⟩
  | pick | stop | fetchFailed | fetched | fetchCrashed | read | readCrashed | failed | sent | expire =>
    rcases getElem?_set_cases hw with ⟨-, hworker⟩ | ⟨-, hw⟩
    · cases hworker
    · exact Or.inl ⟨stage, hw⟩

/-- A worker that publishes keeps the task with the outcome until it is delivered or the time is up. -/
theorem Change.publishing_kept (h : Change s p e q) {w : Nat} {task : Task} {outcome : Outcome}
    {stage : Stage} (hw : p.workers[w]? = some (.publishing task outcome stage)) :
    (∃ stage, q.workers[w]? = some (.publishing task outcome stage)) ∨
      (∃ n, e = .work w .send ∧ (task, .delivered n) ∈ q.finished) ∨
      e = .work w .expire ∧ stage = .waiting false := by
  have hlt : w < p.workers.length := (List.getElem?_eq_some_iff.1 hw).1
  -- what a worker goes on to, if it is the one that moves
  have hset : ∀ {v : Nat} {old new : Worker}, p.workers[v]? = some old →
      (old = .publishing task outcome stage → ∃ stage', new = .publishing task outcome stage') →
      ∃ stage', (p.workers.set v new)[w]? = some (.publishing task outcome stage') := by
    intro v old new hold hnew
    by_cases hv : v = w
    · subst hv
      rw [hw] at hold
      obtain ⟨stage', rfl⟩ := hnew (Option.some.inj hold).symm
      exact ⟨stage', List.getElem?_set_self hlt⟩
    · exact ⟨stage, getElem?_set_of_ne hw hv⟩
  cases h with
  | refuse | accept | subscribe | hangUp | close | giveUp | joined => exact Or.inl ⟨stage, hw⟩
  | announce =>
    refine Or.inl ⟨stage.wake, ?_⟩
    change (p.workers.map Worker.wake)[w]? = _
    rw [List.getElem?_map, hw]
    rfl
  | @sent v task' outcome' woken n worker listening =>
    by_cases hv : v = w
    · subst hv
      rw [hw] at worker
      cases worker
      exact Or.inr (Or.inl ⟨n, rfl, List.mem_append_right _ List.mem_cons_self⟩)
    · exact Or.inl ⟨stage, getElem?_set_of_ne hw hv⟩
  | @expire v task' outcome' worker =>
    by_cases hv : v = w
    · subst hv
      rw [hw] at worker
      cases worker
      exact Or.inr (Or.inr ⟨rfl, rfl⟩)
    · exact Or.inl ⟨stage, getElem?_set_of_ne hw hv⟩
  | arm worker | found worker | nobody worker | refused worker | wake worker =>
    exact Or.inl (hset worker fun he => by cases he; exact ⟨_, rfl⟩)
  | pick worker | stop worker | fetchFailed worker | fetched worker | fetchCrashed worker
  | read worker | readCrashed worker | deadlineSet worker | failed worker =>
    exact Or.inl (hset worker fun he => nomatch he)

theorem Change.finished_kept (h : Change s p e q) : p.finished <+: q.finished := by
  cases h with
  | fetchCrashed | readCrashed | failed | sent | expire => exact List.prefix_append _ _
  | _ => exact List.prefix_rfl

/-- A subscriber receives an outcome only from the worker that holds the subscriber. -/
theorem Change.received_before (h : Change s p e q) {n : Nat} {url : String} {outcome : Outcome}
    (hn : q.subscriptions[n]? = some ⟨url, .received outcome⟩) :
    p.subscriptions[n]? = some ⟨url, .received outcome⟩ ∨
      ∃ (w : Nat) (task : Task) (woken : Bool),
        p.workers[w]? = some (.publishing task outcome (.sending woken n)) ∧
        (∃ status, p.subscriptions[n]? = some ⟨url, status⟩) ∧ (task, .delivered n) ∈ q.finished := by
  cases h with
  | subscribe =>
    rw [getElem?_subscribe] at hn
    split at hn
    · cases hn
    · exact Or.inl hn
  | @hangUp m listening =>
    rw [getElem?_setStatus, Option.map_eq_some_iff] at hn
    obtain ⟨t, ht, hn⟩ := hn
    split at hn
    · cases hn
    · exact Or.inl (ht.trans (congrArg some hn))
  | @sent w task outcome' woken m worker listening =>
    change (p.setStatus m (.received outcome')).subscriptions[n]? = _ at hn
    rw [getElem?_setStatus, Option.map_eq_some_iff] at hn
    obtain ⟨t, ht, hn⟩ := hn
    split at hn
    · next hm =>
      subst hm
      cases hn
      exact Or.inr ⟨w, task, woken, worker, ⟨t.status, ht⟩,
        List.mem_append_right _ List.mem_cons_self⟩
    · exact Or.inl (ht.trans (congrArg some hn))
  | _ => exact Or.inl hn

/-! ## Deliveries -/

/-- The tasks whose outcomes were delivered, with the subscribers who got them. -/
def deliveries (p : Pool σ) : List (Task × Nat) :=
  p.finished.filterMap fun f => f.2.subscriber?.map fun n => (f.1, n)

theorem mem_deliveries {task : Task} {n : Nat} :
    (task, n) ∈ p.deliveries ↔ (task, .delivered n) ∈ p.finished := by
  unfold deliveries
  rw [List.mem_filterMap]
  constructor
  · rintro ⟨⟨task', fate⟩, hmem, heq⟩
    cases fate with
    | delivered m =>
      cases heq
      exact hmem
    | _ => cases heq
  · exact fun hmem => ⟨_, hmem, rfl⟩

theorem deliveries_fst_sublist (p : Pool σ) :
    (p.deliveries.map Prod.fst).Sublist (p.finished.map Prod.fst) := by
  unfold deliveries
  induction p.finished with
  | nil => exact List.Sublist.slnil
  | cons f rest ih =>
    obtain ⟨task, fate⟩ := f
    cases fate with
    | delivered n => exact ih.cons_cons task
    | _ => exact ih.cons task

/-- A step delivers at most one outcome, to a subscriber who listens. -/
theorem Change.deliveries_eq (h : Change s p e q) :
    q.deliveries = p.deliveries ∨
      ∃ (w : Nat) (task : Task) (outcome : Outcome) (woken : Bool) (n : Nat), p.workers[w]? =
          some (.publishing task outcome (.sending woken n)) ∧ p.listening n = true ∧
        q.subscriptions = (p.setStatus n (.received outcome)).subscriptions ∧
        q.deliveries = p.deliveries ++ [(task, n)] := by
  cases h with
  | @sent w task outcome woken n worker listening =>
    exact Or.inr ⟨w, task, outcome, woken, n, worker, listening, rfl, List.filterMap_append⟩
  | fetchCrashed | readCrashed | failed | expire =>
    exact Or.inl (List.filterMap_append.trans (List.append_nil _))
  | _ => exact Or.inl rfl

/-- Whatever a worker holds was made of the url of its task, and whatever a subscriber has received was
delivered, once, and made of the url that was subscribed to. -/
structure Honest (s : Scraper σ) (origin : Pool σ) (steps : List (PoolStep σ)) (p : Pool σ) : Prop where
  reading : ∀ {w : Nat} {task : Task} {bytes : List UInt8},
    p.workers[w]? = some (.reading task bytes) → Fetched s origin steps w task (.ok bytes)
  scraped : ∀ {w : Nat} {task : Task} {outcome : Outcome},
    p.workers[w]? = some (.scraped task outcome) → Made s origin steps task outcome
  publishing : ∀ {w : Nat} {task : Task} {outcome : Outcome} {stage : Stage},
    p.workers[w]? = some (.publishing task outcome stage) → Made s origin steps task outcome
  received : ∀ {n : Nat} {url : String} {outcome : Outcome},
    p.subscriptions[n]? = some ⟨url, .received outcome⟩ →
      ∃ task, (task, n) ∈ p.deliveries ∧ task.url = url ∧ Made s origin steps task outcome
  delivered : ∀ {task : Task} {n : Nat}, (task, n) ∈ p.deliveries →
    ∃ outcome, p.subscriptions[n]? = some ⟨task.url, .received outcome⟩
  once : (p.deliveries.map Prod.snd).Nodup

theorem Honest.step (hp : Honest s origin steps p) (hseated : p.Seated)
    (hsteps : origin.follow? s steps = some p) (h : Change s p e q) :
    Honest s origin (steps ++ [e]) q where
  reading := by
    intro w task bytes hw
    rcases h.reading_before hw with ⟨hw, he⟩ | ⟨rfl, hfetching, hbytes⟩
    · exact (hp.reading hw).append he
    · exact ⟨steps, [], p, rfl, hsteps, hfetching, hbytes, fun e he => absurd he List.not_mem_nil⟩
  scraped := by
    intro w task outcome hw
    rcases h.scraped_before hw with
      hw | ⟨error, rfl, hfetching, herror, rfl⟩ | ⟨bytes, rfl, hreading, hrows⟩
    · exact (hp.scraped hw).append _
    · refine Or.inl ⟨steps ++ [.work w .fetch], [], w, error, (List.append_nil _).symm, ?_, rfl⟩
      exact ⟨steps, [], p, rfl, hsteps, hfetching, herror, fun e he => absurd he List.not_mem_nil⟩
    · exact Or.inr ⟨steps, [], w, p, bytes, rfl, hp.reading hreading, hsteps, hreading, hrows⟩
  publishing := by
    intro w task outcome stage hw
    rcases h.publishing_before hw with ⟨stage', hw⟩ | hw
    · exact (hp.publishing hw).append _
    · exact (hp.scraped hw).append _
  received := by
    intro n url outcome hn
    rcases h.received_before hn with hn | ⟨w, task, woken, hw, ⟨status, hstatus⟩, hmem⟩
    · obtain ⟨task, hmem, hurl, hmade⟩ := hp.received hn
      exact ⟨task, mem_deliveries.2 (h.finished_kept.subset (mem_deliveries.1 hmem)), hurl,
        hmade.append _⟩
    · obtain ⟨⟨status', hstatus'⟩, -⟩ := hseated.held ⟨outcome, woken, hw⟩
      rw [hstatus] at hstatus'
      cases hstatus'
      exact ⟨task, mem_deliveries.2 hmem, rfl, (hp.publishing hw).append _⟩
  delivered := by
    intro task n hmem
    have hold : (task, n) ∈ p.deliveries →
        ∃ outcome, q.subscriptions[n]? = some ⟨task.url, .received outcome⟩ := by
      intro hmem
      obtain ⟨outcome, hn⟩ := hp.delivered hmem
      obtain ⟨status, hstatus, hsame⟩ := h.subscription_kept hn
      exact ⟨outcome, by rw [hstatus, hsame rfl]⟩
    rcases h.deliveries_eq with heq | ⟨w, task', outcome, woken, m, hw, hlistening, hsubs, heq⟩
    · exact hold (heq ▸ hmem)
    · rw [heq, List.mem_append, List.mem_singleton] at hmem
      rcases hmem with hmem | hmem
      · exact hold hmem
      · cases hmem
        obtain ⟨⟨status, hstatus⟩, -⟩ := hseated.held ⟨outcome, woken, hw⟩
        refine ⟨outcome, ?_⟩
        rw [hsubs, getElem?_setStatus, hstatus, Option.map_some, if_pos rfl]
  once := by
    rcases h.deliveries_eq with heq | ⟨w, task, outcome, woken, n, hw, hlistening, -, heq⟩
    · exact heq ▸ hp.once
    · rw [heq, List.map_append]
      refine List.nodup_append.2 ⟨hp.once, by simp, ?_⟩
      rintro m hm _ hn rfl
      rw [List.map_singleton, List.mem_singleton] at hn
      subst hn
      -- whoever has received something does not listen any more
      obtain ⟨⟨task', m⟩, hmem, rfl⟩ := List.mem_map.1 hm
      obtain ⟨outcome', hreceived⟩ := hp.delivered hmem
      obtain ⟨url, hlistening⟩ := listening_eq_true.1 hlistening
      rw [hreceived] at hlistening
      cases hlistening

theorem honest_follow {patience : Patience} {workers : Nat} {scraping : σ}
    (h : (startWith patience workers scraping).follow? s steps = some p) :
    Honest s (startWith patience workers scraping) steps p := by
  refine follow?_induction (motive := fun steps p => Honest s (startWith patience workers scraping) steps p)
    ?_ (fun steps q e r hsteps hq hchange => hq.step (Seated.of_follow hsteps) hsteps hchange) h
  have hidle : ∀ (w : Nat) (worker : Worker),
      (startWith patience workers scraping).workers[w]? = some worker → worker = .idle := by
    intro w worker hw
    exact List.eq_of_mem_replicate (List.mem_of_getElem? hw)
  exact
    { reading := fun hw => nomatch hidle _ _ hw
      scraped := fun hw => nomatch hidle _ _ hw
      publishing := fun hw => nomatch hidle _ _ hw
      received := fun hn => nomatch hn
      delivered := fun hmem => absurd hmem List.not_mem_nil
      once := List.nodup_nil }

/-! ## Handing over -/

/-- A worker that looks for a subscriber takes out the first of those who await the outcome, and waits
if there is nobody. -/
def Offers (s : Scraper σ) (p : Pool σ) (w : Nat) (task : Task) (outcome : Outcome) (woken : Bool) :
    Prop :=
  ∃ q, p.step? s (.work w .take) = some q ∧
    ((∃ n, IsLeast (p.awaiting task.url) n ∧ (∀ url, n ∉ q.subscribers.queue url) ∧
        q.workers[w]? = some (.publishing task outcome (.sending woken n))) ∨
      p.awaiting task.url = ∅ ∧ q.workers[w]? = some (.publishing task outcome (.waiting woken)))

theorem Seated.offers (hp : p.Seated) {w : Nat} {task : Task} {outcome : Outcome} {woken : Bool}
    (hw : p.workers[w]? = some (.publishing task outcome (.scanning woken))) :
    Offers s p w task outcome woken := by
  have hlt : w < p.workers.length := (List.getElem?_eq_some_iff.1 hw).1
  cases htake : p.subscribers.take p.listening task.url with
  | mk found rest =>
    cases found with
    | none =>
      exact ⟨_, (Change.nobody hw htake).step?,
        Or.inr ⟨hp.no_turn htake, List.getElem?_set_self hlt⟩⟩
    | some n =>
      exact ⟨_, (Change.found hw htake).step?,
        Or.inl ⟨n, hp.turn htake, (hp.taken htake).2, List.getElem?_set_self hlt⟩⟩

/-- What has become of an outcome that was received does not change. -/
theorem received_follow {n : Nat} {url : String} {outcome : Outcome}
    (hn : p.subscriptions[n]? = some ⟨url, .received outcome⟩) (h : p.follow? s steps = some q) :
    q.subscriptions[n]? = some ⟨url, .received outcome⟩ := by
  refine follow?_induction
    (motive := fun _ q => q.subscriptions[n]? = some ⟨url, .received outcome⟩) hn ?_ h
  intro _ q e r _ hq hchange
  obtain ⟨status, hstatus, hsame⟩ := hchange.subscription_kept hq
  rw [hstatus, hsame rfl]

/-- How a pool hands over outcomes, after some steps from its start. -/
structure Handover (s : Scraper σ) (origin : Pool σ) (steps : List (PoolStep σ)) (p : Pool σ) : Prop where
  /-- Subscribers are numbered as they come. -/
  urls : p.subscriptions.map Subscription.url = steps.filterMap PoolStep.subscribed?
  /-- No subscriber gets two outcomes. -/
  subscribers : (p.deliveries.map Prod.snd).Nodup
  /-- No task has its outcome delivered twice. -/
  tasks : (p.deliveries.map Prod.fst).Nodup
  received : ∀ n url outcome, p.subscriptions[n]? = some ⟨url, .received outcome⟩ →
    (∃ task, (task, n) ∈ p.deliveries ∧ task.url = url ∧ Made s origin steps task outcome) ∧
      ∀ more q, p.follow? s more = some q →
        q.subscriptions[n]? = some ⟨url, .received outcome⟩
  delivered : ∀ task n, (task, n) ∈ p.deliveries →
    ∃ outcome, p.subscriptions[n]? = some ⟨task.url, .received outcome⟩
  /-- No subscriber is with two workers. -/
  alone : ∀ v w task other n, p.Holds v task n → p.Holds w other n → v = w
  /-- The first who awaits the outcome is served first. -/
  offered : ∀ w task outcome woken,
    p.workers[w]? = some (.publishing task outcome (.scanning woken)) → Offers s p w task outcome woken
  /-- What a subscriber refuses, having hung up, is offered again. -/
  refused : ∀ w task outcome woken n,
    p.workers[w]? = some (.publishing task outcome (.sending woken n)) → p.listening n = false →
      ∃ q, p.step? s (.work w .send) = some q ∧
        q = p.setWorker w (.publishing task outcome (.scanning woken)) ∧
        Offers s q w task outcome woken
  /-- An outcome stays with the worker until it is delivered or the time is up. -/
  kept : ∀ w task outcome stage e q, p.workers[w]? = some (.publishing task outcome stage) →
    p.step? s e = some q →
      (∃ stage, q.workers[w]? = some (.publishing task outcome stage)) ∨
        (∃ n, e = .work w .send ∧ (task, n) ∈ q.deliveries) ∨
        e = .work w .expire ∧ stage = .waiting false

theorem handed_over {patience : Patience} {workers : Nat} {scraping : σ}
    (h : (startWith patience workers scraping).follow? s steps = some p) :
    Handover s (startWith patience workers scraping) steps p := by
  have hhonest := honest_follow h
  have hseated := Seated.of_follow h
  constructor
  case urls => exact subscriptions_follow h
  case subscribers => exact hhonest.once
  case tasks => exact (deliveries_fst_sublist p).nodup (conserved_follow h).finished_nodup
  case received =>
    exact fun n url outcome hn => ⟨hhonest.received hn, fun more q hq => received_follow hn hq⟩
  case delivered => exact fun task n hmem => hhonest.delivered hmem
  case alone => exact fun v w task other n hv hw => hseated.alone hv hw
  case offered => exact fun w task outcome woken hw => hseated.offers hw
  case refused =>
    intro w task outcome woken n hw hgone
    have hchange := Change.refused (s := s) hw hgone
    refine ⟨_, hchange.step?, rfl, (hseated.step (ascending_follow h) hchange).offers ?_⟩
    exact List.getElem?_set_self (List.getElem?_eq_some_iff.1 hw).1
  case kept =>
    intro w task outcome stage e q hw hstep
    rcases (change_of_step? hstep).publishing_kept hw with hstay | ⟨n, he, hmem⟩ | hexpire
    · exact Or.inl hstay
    · exact Or.inr (Or.inl ⟨n, he, mem_deliveries.2 hmem⟩)
    · exact Or.inr (Or.inr hexpire)

/-- The first of two subscribers hangs up after having been taken out. -/
def lateHangUp : List (PoolStep Unit) :=
  [.subscribe "a", .announce 0, .subscribe "a", .announce 1, .add "a", .work 0 .pick, .work 0 .fetch,
    .work 0 .read, .work 0 (.setDeadline 0), .work 0 .arm, .work 0 .take, .hangUp 0, .work 0 .send,
    .work 0 .take, .work 0 .send]

theorem handed_over_lateHangUp :
    ∃ p, (start 1 ()).follow? Scraper.blank lateHangUp = some p ∧
      p.deliveries = [(⟨0, "a"⟩, 1)] ∧ p.subscriptions[0]? = some ⟨"a", .hungUp⟩ ∧
      p.subscriptions[1]? = some ⟨"a", .received (.ok [])⟩ ∧
      Handover Scraper.blank (start 1 ()) lateHangUp p :=
  ⟨_, rfl, rfl, rfl, rfl, handed_over rfl⟩

end Pool

end Harvest
