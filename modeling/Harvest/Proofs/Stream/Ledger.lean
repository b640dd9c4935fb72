import Mathlib.Data.Multiset.AddSub
import Harvest.Proofs.Stream.Endings
import Harvest.Proofs.Stream.Tasks

/-!
# The ledger of a pool

`reports` goes through the steps of a run and collects what each of them does to tasks: which url it
accepts (`admissions`), which task it gives to which worker (`pickups`), and for which task it calls the
scraper (`calls`). `ledger_balances` compares these entries with what the pool holds at the end: tasks are
picked in the order in which they were accepted, the scraper is called once for each of them, and every
task is in the queue, with a worker, or finished. A scraper that breaks down costs one task and no worker; a
deadline that the clock cannot tell costs both. `Closed` says what is left when nobody has given up closing
the pool, and `tasks_left_behind` shows what may be left otherwise.
-/

namespace Harvest

namespace Worker

/-- The task that the scraper has not been called for yet. -/
def fetching? : Worker → Option Task
  | .fetching task => some task
  | _ => none

/-- The task that is being scraped. -/
def scraping? : Worker → Option Task
  | .fetching task => some task
  | .reading task _ => some task
  | _ => none

/-- The task whose outcome is being published. -/
def publishing? : Worker → Option Task
  | .scraped task _ => some task
  | .publishing task _ _ => some task
  | _ => none

end Worker

namespace Pool

variable {σ α : Type} {s : Scraper σ} {p q origin : Pool σ} {e : PoolStep σ} {steps : List (PoolStep σ)}

/-! ## Entries -/

/-- What the steps of a run report, one after the other. -/
def reports (s : Scraper σ) (report : Pool σ → PoolStep σ → List α) : Pool σ → List (PoolStep σ) → List α
  | _, [] => []
  | p, e :: more => report p e ++ ((p.step? s e).map fun q => reports s report q more).getD []

/-- The url that is accepted. -/
def admissions (p : Pool σ) : PoolStep σ → List String
  | .add url => if (p.add? url).any Prod.fst then [url] else []
  | _ => []

/-- The worker that takes a task from the queue, with the task. -/
def pickups (p : Pool σ) : PoolStep σ → List (Nat × Task)
  | .work w .pick => (p.queue.take 1).map fun task => (w, task)
  | _ => []

/-- The worker for which the scraper is called, with the task. A scraper that breaks down at once has been
called too. -/
def calls (p : Pool σ) : PoolStep σ → List (Nat × Task)
  | .work w .fetch => entry w
  | .work w (.crash _) => entry w
  | _ => []
where
  /-- The entry for a worker that is about to call the scraper. -/
  entry (w : Nat) : List (Nat × Task) :=
    (((p.workers[w]?).bind Worker.fetching?).map fun task => (w, task)).toList

/-- The tasks that are being scraped. -/
def scrapingTasks (p : Pool σ) : List Task :=
  p.workers.filterMap Worker.scraping?

/-- The tasks whose outcomes are being published. -/
def publishingTasks (p : Pool σ) : List Task :=
  p.workers.filterMap Worker.publishing?

theorem reports_concat (report : Pool σ → PoolStep σ → List α) (h : origin.follow? s steps = some p)
    (e : PoolStep σ) : origin.reports s report (steps ++ [e]) =
      origin.reports s report steps ++ report p e := by
  induction steps generalizing origin with
  | nil =>
    cases h
    rw [List.nil_append, reports, reports]
    cases p.step? s e <;> simp [reports]
  | cons first rest ih =>
    rw [follow?_cons] at h
    obtain ⟨mid, hmid, hrest⟩ := Option.bind_eq_some_iff.1 h
    rw [List.cons_append, reports, reports, hmid, Option.map_some, Option.map_some, Option.getD_some,
      Option.getD_some, ih hrest, List.append_assoc]

/-! ## The ledger agrees with the pool -/

/-- What the entries say about the accepted tasks and about the calls that are still to come. -/
structure Booked (s : Scraper σ) (origin : Pool σ) (steps : List (PoolStep σ)) (p : Pool σ) : Prop where
  urls : origin.reports s admissions steps = p.accepted.map Task.url
  order : p.accepted = (origin.reports s pickups steps).map Prod.snd ++ p.queue
  holder : ∀ w task, p.workers[w]? = some (.fetching task) → (w, task) ∈ origin.reports s pickups steps
  caller : ∀ x ∈ origin.reports s calls steps, x ∈ origin.reports s pickups steps
  count : ∀ task, ((origin.reports s calls steps).map Prod.snd).count task +
    (p.workers.filterMap Worker.fetching?).count task =
      ((origin.reports s pickups steps).map Prod.snd).count task

theorem Booked.of_start (patience : Patience) (workers : Nat) (scraping : σ) :
    Booked s (startWith patience workers scraping) [] (startWith patience workers scraping) where
  urls := rfl
  order := rfl
  holder := by
    intro w task hw
    cases List.eq_of_mem_replicate (List.mem_of_getElem? hw)
  caller := by
    intro x hx
    cases hx
  count := by
    intro task
    have hidle : (startWith patience workers scraping).workers.filterMap Worker.fetching? = [] := by
      unfold startWith
      rw [List.filterMap_replicate_of_none rfl]
    rw [hidle]
    rfl

/-- A step without an entry, after which the same workers are about to call the scraper. -/
theorem Booked.quiet (hp : Booked s origin steps p) (hsteps : origin.follow? s steps = some p)
    (hadmitted : p.admissions e = []) (hpicked : p.pickups e = []) (hcalled : p.calls e = [])
    (haccepted : q.accepted = p.accepted) (hqueue : q.queue = p.queue)
    (hholder : ∀ (w : Nat) (task : Task), q.workers[w]? = some (.fetching task) →
      p.workers[w]? = some (.fetching task))
    (hcount : ∀ task, (q.workers.filterMap Worker.fetching?).count task =
      (p.workers.filterMap Worker.fetching?).count task) :
    Booked s origin (steps ++ [e]) q := by
  have hreports : ∀ {α : Type} (report : Pool σ → PoolStep σ → List α), report p e = [] →
      origin.reports s report (steps ++ [e]) = origin.reports s report steps := by
    intro α report hnone
    rw [reports_concat report hsteps, hnone, List.append_nil]
  constructor
  · rw [hreports _ hadmitted, haccepted, hp.urls]
  · rw [hreports _ hpicked, haccepted, hqueue]
    exact hp.order
  · rw [hreports _ hpicked]
    exact fun w task hw => hp.holder w task (hholder w task hw)
  · rw [hreports _ hpicked, hreports _ hcalled]
    exact hp.caller
  · intro task
    rw [hreports _ hpicked, hreports _ hcalled, hcount]
    exact hp.count task

/-- A worker goes on that was not about to call the scraper and is not so now. -/
theorem Booked.turn (hp : Booked s origin steps p) (hsteps : origin.follow? s steps = some p) {w : Nat}
    {worker other : Worker} (hw : p.workers[w]? = some worker)
    (hworkers : q.workers = p.workers.set w other) (hbefore : worker.fetching? = none)
    (hafter : other.fetching? = none) (hadmitted : p.admissions e = []) (hpicked : p.pickups e = [])
    (hcalled : p.calls e = []) (haccepted : q.accepted = p.accepted) (hqueue : q.queue = p.queue) :
    Booked s origin (steps ++ [e]) q := by
  refine hp.quiet hsteps hadmitted hpicked hcalled haccepted hqueue ?_ ?_
  · intro v task hv
    rw [hworkers] at hv
    rcases getElem?_set_cases hv with ⟨-, rfl⟩ | ⟨-, hv⟩
    · cases hafter
    · exact hv
  · intro task
    have hset := count_filterMap_set Worker.fetching? hw other task
    rw [hbefore, hafter] at hset
    rw [hworkers]
    simpa using hset

/-- A worker calls the scraper for the task that it has picked. -/
theorem Booked.call (hp : Booked s origin steps p) (hsteps : origin.follow? s steps = some p) {w : Nat}
    {task : Task} {other : Worker} (hw : p.workers[w]? = some (.fetching task))
    (hworkers : q.workers = p.workers.set w other) (hafter : other.fetching? = none)
    (hadmitted : p.admissions e = []) (hpicked : p.pickups e = []) (hcalled : p.calls e = calls.entry p w)
    (haccepted : q.accepted = p.accepted) (hqueue : q.queue = p.queue) :
    Booked s origin (steps ++ [e]) q := by
  have hentry : p.calls e = [(w, task)] := by
    rw [hcalled, calls.entry, hw]
    rfl
  constructor
  · rw [reports_concat _ hsteps, hadmitted, List.append_nil, haccepted, hp.urls]
  · rw [reports_concat _ hsteps, hpicked, List.append_nil, haccepted, hqueue]
    exact hp.order
  · intro v t hv
    rw [reports_concat _ hsteps, hpicked, List.append_nil]
    rw [hworkers] at hv
    rcases getElem?_set_cases hv with ⟨-, rfl⟩ | ⟨-, hv⟩
    · cases hafter
    · exact hp.holder v t hv
  · intro x hx
    rw [reports_concat _ hsteps, hpicked, List.append_nil]
    rw [reports_concat _ hsteps, hentry, List.mem_append, List.mem_singleton] at hx
    rcases hx with hx | rfl
    · exact hp.caller x hx
    · exact hp.holder w task hw
  · intro t
    have hset := count_filterMap_set Worker.fetching? hw other t
    have hcalls := hp.count t
    have hbefore : (Worker.fetching? (.fetching task)).toList = [task] := rfl
    rw [hafter, hbefore] at hset
    rw [reports_concat _ hsteps, reports_concat _ hsteps, hpicked, hentry, hworkers, List.append_nil,
      List.map_append, List.count_append]
    simp only [Option.toList_none, List.count_nil, List.map_cons, List.map_nil] at hset ⊢
    omega

/-- A task joins the queue. -/
theorem Booked.admit (hp : Booked s origin steps p) (hsteps : origin.follow? s steps = some p)
    {task : Task} (hadmitted : p.admissions e = [task.url]) (hpicked : p.pickups e = [])
    (hcalled : p.calls e = []) (haccepted : q.accepted = p.accepted ++ [task])
    (hqueue : q.queue = p.queue ++ [task]) (hworkers : q.workers = p.workers) :
    Booked s origin (steps ++ [e]) q := by
  constructor
  · rw [reports_concat _ hsteps, hadmitted, hp.urls, haccepted, List.map_append]
    rfl
  · rw [reports_concat _ hsteps, hpicked, List.append_nil, haccepted, hqueue, ← List.append_assoc,
      ← hp.order]
  · rw [reports_concat _ hsteps, hpicked, List.append_nil, hworkers]
    exact hp.holder
  · rw [reports_concat _ hsteps, reports_concat _ hsteps, hpicked, hcalled, List.append_nil,
      List.append_nil]
    exact hp.caller
  · intro t
    rw [reports_concat _ hsteps, reports_concat _ hsteps, hpicked, hcalled, List.append_nil,
      List.append_nil, hworkers]
    exact hp.count t

/-- A worker picks the first task of the queue. -/
theorem Booked.pick (hp : Booked s origin steps p) (hsteps : origin.follow? s steps = some p) {w : Nat}
    {task : Task} (hw : p.workers[w]? = some .idle)
    (hworkers : q.workers = p.workers.set w (.fetching task)) (hadmitted : p.admissions e = [])
    (hpicked : p.pickups e = [(w, task)]) (hcalled : p.calls e = [])
    (haccepted : q.accepted = p.accepted) (hqueue : p.queue = task :: q.queue) :
    Booked s origin (steps ++ [e]) q := by
  constructor
  · rw [reports_concat _ hsteps, hadmitted, List.append_nil, haccepted]
    exact hp.urls
  · rw [reports_concat _ hsteps, hpicked, List.map_append, List.append_assoc, haccepted, hp.order,
      hqueue]
    rfl
  · intro v t hv
    rw [reports_concat _ hsteps, hpicked, List.mem_append]
    rw [hworkers] at hv
    rcases getElem?_set_cases hv with ⟨rfl, hworker⟩ | ⟨-, hv⟩
    · cases hworker
      exact Or.inr List.mem_cons_self
    · exact Or.inl (hp.holder v t hv)
  · intro x hx
    rw [reports_concat _ hsteps, hcalled, List.append_nil] at hx
    rw [reports_concat _ hsteps]
    exact List.mem_append_left _ (hp.caller x hx)
  · intro t
    have hset := count_filterMap_set Worker.fetching? hw (.fetching task) t
    have hcalls := hp.count t
    have hidle : (Worker.fetching? .idle).toList = [] := rfl
    have hfetching : (Worker.fetching? (.fetching task)).toList = [task] := rfl
    rw [hidle, hfetching, List.count_nil] at hset
    rw [reports_concat _ hsteps, reports_concat _ hsteps, hpicked, hcalled, hworkers, List.append_nil,
      List.map_append, List.count_append]
    change _ + _ = _ + [task].count t
    omega

theorem Booked.step (hp : Booked s origin steps p) (hsteps : origin.follow? s steps = some p)
    (h : Change s p e q) : Booked s origin (steps ++ [e]) q := by
  cases h with
  | @refuse url closed =>
    have hadmitted : p.admissions (.add url) = [] := by
      rcases closed with closed | closed <;> simp [admissions, add?, closed]
    exact hp.quiet hsteps hadmitted rfl rfl rfl rfl (fun _ _ hw => hw) fun _ => rfl
  | @accept url accepting manned room =>
    have hadmitted : p.admissions (.add url) = [url] := by
      simp [admissions, add?, accepting, manned, room]
    exact hp.admit hsteps hadmitted rfl rfl rfl rfl rfl
  | subscribe | hangUp | close | giveUp | joined =>
    exact hp.quiet hsteps rfl rfl rfl rfl rfl (fun _ _ hw => hw) fun _ => rfl
  | announce =>
    refine hp.quiet hsteps rfl rfl rfl rfl rfl ?_ ?_
    · intro w task hw
      obtain ⟨worker, hworker, hwake⟩ := getElem?_map_wake hw
      cases worker <;> cases hwake
      exact hworker
    · intro task
      rw [List.filterMap_map]
      congr 2
      funext worker
      cases worker <;> rfl
  | @pick w task more worker front =>
    have hpicked : p.pickups (.work w .pick) = [(w, task)] := by simp [pickups, front]
    exact hp.pick hsteps worker rfl rfl hpicked rfl rfl front
  | @readCrashed w task bytes scraping worker =>
    have hcalled : p.calls (.work w (.crash scraping)) = [] := by
      rw [calls, calls.entry, worker]
      rfl
    exact hp.turn hsteps worker rfl rfl rfl rfl rfl hcalled rfl rfl
  | fetchFailed worker | fetched worker | fetchCrashed worker =>
    exact hp.call hsteps worker rfl rfl rfl rfl rfl rfl rfl
  | stop worker | read worker | deadlineSet worker | failed worker | arm worker | found worker
  | nobody worker | sent worker | refused worker | wake worker | expire worker =>
    exact hp.turn hsteps worker rfl rfl rfl rfl rfl rfl rfl rfl

theorem booked_follow {patience : Patience} {workers : Nat} {scraping : σ}
    (h : (startWith patience workers scraping).follow? s steps = some p) :
    Booked s (startWith patience workers scraping) steps p :=
  follow?_induction (motive := fun steps p => Booked s (startWith patience workers scraping) steps p)
    (.of_start patience workers scraping) (fun _ _ _ _ hsteps hq hchange => hq.step hsteps hchange) h

/-! ## Balance -/

/-- A worker with a task scrapes it or publishes its outcome. -/
theorem active_perm (p : Pool σ) : p.active.Perm (p.scrapingTasks ++ p.publishingTasks) := by
  unfold active scrapingTasks publishingTasks
  induction p.workers with
  | nil => exact .refl _
  | cons worker rest ih =>
    cases worker with
    | fetching task | reading task => exact ih.cons task
    | scraped task | publishing task => exact (ih.cons task).trans List.perm_middle.symm
    | idle | stopped | failed => exact ih

theorem Conserved.places_perm (hp : p.Conserved) :
    (p.queue ++ p.scrapingTasks ++ p.publishingTasks ++ p.finished.map Prod.fst).Perm p.accepted := by
  have hactive := (p.active_perm.append_left p.queue).append_right (p.finished.map Prod.fst)
  rw [← List.append_assoc] at hactive
  exact hactive.symm.trans hp.perm

theorem Booked.calls_perm (hp : Booked s origin steps p) :
    ((origin.reports s calls steps).map Prod.snd ++ p.workers.filterMap Worker.fetching?).Perm
      ((origin.reports s pickups steps).map Prod.snd) := by
  rw [List.perm_iff_count]
  intro task
  rw [List.count_append]
  exact hp.count task

/-- A scraper that breaks down costs one task, and the worker goes on. -/
theorem crash_eq {w : Nat} {scraping : σ} (h : p.step? s (.work w (.crash scraping)) = some q) :
    ∃ task, (p.workers[w]?).bind Worker.scraping? = some task ∧
      q = { p with scraping := scraping }.finish w task .crashed ∧ q.workers[w]? = some .idle := by
  have hidle : ∀ {worker : Worker}, p.workers[w]? = some worker →
      (p.workers.set w .idle)[w]? = some .idle :=
    fun hw => List.getElem?_set_self (List.getElem?_eq_some_iff.1 hw).1
  cases change_of_step? h with
  | @fetchCrashed _ task _ worker => exact ⟨task, by rw [worker]; rfl, rfl, hidle worker⟩
  | @readCrashed _ task bytes _ worker => exact ⟨task, by rw [worker]; rfl, rfl, hidle worker⟩

/-- A worker that cannot set a deadline takes one task along. -/
theorem failure_eq {w now : Nat} (h : p.step? s (.work w (.setDeadline now)) = some q)
    (hnone : p.patience.deadline? now = none) :
    ∃ task, (p.workers[w]?).bind Worker.publishing? = some task ∧ q = p.abandon w task := by
  cases change_of_step? h with
  | deadlineSet _ told =>
    rw [hnone] at told
    cases told
  | @failed _ task outcome _ worker => exact ⟨task, by rw [worker]; rfl, rfl⟩

/-- What closing a pool leaves behind, if nobody has given up waiting for the workers. -/
structure Closed (s : Scraper σ) (patience : Patience) (origin : Pool σ) (steps : List (PoolStep σ))
    (p : Pool σ) : Prop where
  deserted : p.isDeserted = true
  tasks : (p.queue ++ p.finished.map Prod.fst).Perm p.accepted
  /-- The scraper has been called once for each task that is finished. -/
  called : ((origin.reports s calls steps).map Prod.snd).Perm (p.finished.map Prod.fst)
  /-- If a task is left in the queue, then all workers have broken down. -/
  left : p.queue ≠ [] → ∀ worker ∈ p.workers, worker = .failed
  /-- If the clock can tell all deadlines, then no task is left and no worker has broken down. -/
  complete : (∀ w now, .work w (.setDeadline now) ∈ steps → patience.deadline? now ≠ none) →
    p.queue = [] ∧ (∀ worker ∈ p.workers, worker = .stopped) ∧
      ∀ f ∈ p.finished, f.2.isAbandoned = false

/-- How the entries of a run and what a pool holds agree. -/
structure Balance (s : Scraper σ) (patience : Patience) (workers : Nat) (origin : Pool σ)
    (steps : List (PoolStep σ)) (p : Pool σ) : Prop where
  /-- Each url that was accepted is queued, being scraped, being published, or finished. -/
  urls : (origin.reports s admissions steps : Multiset String) =
    p.queue.map Task.url + p.scrapingTasks.map Task.url + p.publishingTasks.map Task.url +
      p.finished.map fun f => f.1.url
  /-- No task is in two places, or in one place twice. -/
  apart : (p.queue ++ p.scrapingTasks ++ p.publishingTasks ++ p.finished.map Prod.fst).Nodup
  /-- Tasks leave the queue in the order in which they were accepted. -/
  order : p.accepted = (origin.reports s pickups steps).map Prod.snd ++ p.queue
  /-- No task is taken by two workers, or by one worker twice. -/
  taken : ((origin.reports s pickups steps).map Prod.snd).Nodup
  /-- The scraper is called for a task by the worker that has taken it. -/
  caller : ∀ x ∈ origin.reports s calls steps, x ∈ origin.reports s pickups steps
  /-- For each task that was taken the scraper has been called once, or is about to be. -/
  called : ((origin.reports s calls steps).map Prod.snd ++ p.workers.filterMap Worker.fetching?).Perm
    ((origin.reports s pickups steps).map Prod.snd)
  busy : p.scrapingTasks.length + p.publishingTasks.length ≤ max 1 workers
  crash : ∀ w scraping q, p.step? s (.work w (.crash scraping)) = some q →
    ∃ task, (p.workers[w]?).bind Worker.scraping? = some task ∧
      q = { p with scraping := scraping }.finish w task .crashed ∧ q.workers[w]? = some .idle
  /-- A worker breaks down when the clock cannot tell the deadline, and one task goes with it. -/
  failure : ∀ w now q, p.step? s (.work w (.setDeadline now)) = some q →
    patience.deadline? now = none →
      ∃ task, (p.workers[w]?).bind Worker.publishing? = some task ∧ q = p.abandon w task
  /-- For each task that was abandoned a worker has broken down, and for no other reason. -/
  failures : Failures patience steps p
  /-- A worker stops only when there is nothing left to do. -/
  ends : p.EndsLast
  /-- When all workers have ended nothing is accepted, taken or finished any more. -/
  deserted : p.isDeserted = true → ∀ more q, p.follow? s more = some q →
    q.isDeserted = true ∧ q.queue = p.queue ∧ q.finished = p.finished ∧
      ∀ url, q.add? url = some (false, q)
  /-- Once somebody has begun to close the pool no url is accepted. -/
  refused : .close ∈ steps → ∀ more q, p.follow? s more = some q →
    ∀ url, q.add? url = some (false, q)
  /-- Closing a pool ends when the workers that are waited for have ended. -/
  joined : ∀ q, p.step? s .joined = some q → ∀ awaited, p.closing = some awaited →
    ∀ w ∈ awaited, q.hasEnded w = true
  closed : ∀ q, p.step? s .joined = some q → .giveUp ∉ steps →
    Closed s patience origin (steps ++ [.joined]) q

theorem filterMap_of_deserted (hp : p.isDeserted = true) (f : Worker → Option Task)
    (hstopped : f .stopped = none) (hfailed : f .failed = none) : p.workers.filterMap f = [] := by
  refine List.filterMap_eq_nil_iff.2 fun worker hworker => ?_
  have hended := isDeserted_iff.1 hp worker hworker
  cases worker with
  | stopped => exact hstopped
  | failed => exact hfailed
  | _ => cases hended

theorem Closed.of_deserted {patience : Patience} {workers : Nat} {scraping : σ}
    (h : (startWith patience workers scraping).follow? s steps = some p) (hp : p.isDeserted = true) :
    Closed s patience (startWith patience workers scraping) steps p := by
  have hbooked := booked_follow h
  have hfailures := failures_follow h
  have hends := endsLast_follow h
  have htasks : (p.queue ++ p.finished.map Prod.fst).Perm p.accepted := by
    have hplaces := (conserved_follow h).places_perm
    rwa [scrapingTasks, publishingTasks, filterMap_of_deserted hp _ rfl rfl,
      filterMap_of_deserted hp _ rfl rfl, List.append_nil, List.append_nil] at hplaces
  have hstopped : p.queue ≠ [] → ∀ worker ∈ p.workers, worker ≠ .stopped := by
    rintro hqueue _ hworker rfl
    obtain ⟨w, hw⟩ := List.getElem?_of_mem hworker
    exact hqueue (hends w hw).2
  constructor
  case deserted => exact hp
  case tasks => exact htasks
  case called =>
    have hcalls := hbooked.calls_perm
    rw [filterMap_of_deserted hp _ rfl rfl, List.append_nil] at hcalls
    rw [hbooked.order] at htasks
    exact hcalls.trans ((List.perm_append_left_iff _).1 (htasks.trans List.perm_append_comm)).symm
  case left =>
    intro hqueue worker hworker
    have hended := isDeserted_iff.1 hp worker hworker
    cases worker with
    | stopped => exact absurd rfl (hstopped hqueue _ hworker)
    | failed => rfl
    | _ => cases hended
  case complete =>
    intro htold
    have hall : ∀ worker ∈ p.workers, worker = .stopped := by
      intro worker hworker
      have hended := isDeserted_iff.1 hp worker hworker
      cases worker with
      | stopped => rfl
      | failed =>
        obtain ⟨w, hw⟩ := List.getElem?_of_mem hworker
        obtain ⟨now, hmem, hnone⟩ := hfailures.reason w hw
        exact absurd hnone (htold w now hmem)
      | _ => cases hended
    refine ⟨?_, hall, fun f hf => ?_⟩
    · -- there is a worker, and it has stopped
      have hpos : 0 < p.workers.length := by
        have hlength := workers_length_follow h
        omega
      by_contra hqueue
      have hworker := List.getElem_mem hpos
      exact hstopped hqueue _ hworker (hall _ hworker)
    · have hnone : p.workers.countP Worker.hasFailed = 0 :=
        List.countP_eq_zero.2 fun worker hworker => by rw [hall worker hworker]; exact Bool.false_ne_true
      exact Bool.eq_false_iff.2 (List.countP_eq_zero.1 (hfailures.count.symm.trans hnone) f hf)

theorem ledger_balances {patience : Patience} {workers : Nat} {scraping : σ}
    (h : (startWith patience workers scraping).follow? s steps = some p) :
    Balance s patience workers (startWith patience workers scraping) steps p := by
  have hconserved := conserved_follow h
  have hbooked := booked_follow h
  have hlength := workers_length_follow h
  have hplaces := hconserved.places_perm
  constructor
  case urls =>
    have hurls := hplaces.map Task.url
    rw [hbooked.urls, ← Multiset.coe_eq_coe.2 hurls]
    simp only [List.map_append, List.map_map, ← Multiset.coe_add]
    rfl
  case apart => exact hplaces.nodup_iff.2 hconserved.accepted_nodup
  case order => exact hbooked.order
  case taken =>
    have hnodup := hconserved.accepted_nodup
    rw [hbooked.order] at hnodup
    exact (List.nodup_append.1 hnodup).1
  case caller => exact hbooked.caller
  case called => exact hbooked.calls_perm
  case busy =>
    have hactive := p.active_perm.length_eq
    have hle : p.active.length ≤ p.workers.length := List.length_filterMap_le _ _
    rw [List.length_append] at hactive
    omega
  case crash => exact fun w scraping q hq => crash_eq hq
  case failure => exact fun w now q hq hnone => failure_eq hq (patience_follow h ▸ hnone)
  case failures => exact failures_follow h
  case ends => exact endsLast_follow h
  case deserted =>
    intro hp more q hq
    obtain ⟨hdeserted, hqueue, hfinished⟩ := deserted_follow hp hq
    exact ⟨hdeserted, hqueue, hfinished, add?_of_deserted hdeserted⟩
  case refused =>
    exact fun hclose more q hq => add?_of_closed (closed_follow (closed_of_mem h hclose) hq)
  case joined =>
    intro q hq awaited hawaited w hw
    cases change_of_step? hq with
    | joined closing ended =>
      rw [closing] at hawaited
      cases hawaited
      exact ended w hw
  case closed =>
    intro q hq hnever
    have hchange := change_of_step? hq
    exact .of_deserted (follow?_concat h hchange)
      ((watched_follow h).deserted hnever hchange)

/-- The same url twice: the scraper breaks down at the first, and nobody wants the second. -/
def brokenScrape : List (PoolStep Unit) :=
  [.add "a", .work 0 .pick, .add "a", .work 0 (.crash ()), .work 0 .pick, .close, .work 0 .fetch,
    .work 0 .read, .work 0 (.setDeadline 0), .work 0 .arm, .work 0 .take, .work 0 .expire,
    .work 0 .stop, .joined]

theorem ledger_balances_brokenScrape :
    ∃ p, (start 1 ()).follow? Scraper.blank brokenScrape = some p ∧ p.isDeserted = true ∧
      p.finished = [(⟨0, "a"⟩, .crashed), (⟨1, "a"⟩, .expired)] ∧
      (start 1 ()).reports Scraper.blank admissions brokenScrape = ["a", "a"] ∧
      Balance Scraper.blank .usual 1 (start 1 ()) brokenScrape p :=
  ⟨_, rfl, rfl, rfl, rfl, @ledger_balances Unit Scraper.blank _ brokenScrape .usual 1 () rfl⟩

/-- The longest timeout that there is, of 64 bits of seconds, by the usual clock. -/
def endless : Patience :=
  { Patience.usual with timeout := 18446744073709551615999999999 }

/-- Somebody waits for the first of two urls, and the worker cannot set the deadline. -/
def lostDeadline : List (PoolStep Unit) :=
  [.subscribe "a", .announce 0, .add "a", .work 0 .pick, .add "b", .work 0 .fetch, .work 0 .read,
    .work 0 (.setDeadline 0)]

/-- Somebody gives up closing the pool while a url is being scraped, and closes it again. -/
def hastyClose : List (PoolStep Unit) :=
  [.add "a", .work 0 .pick, .close, .giveUp, .close, .joined]

/-- With an endless timeout the only worker breaks down: the first url is neither delivered, dropped nor
lost to the scraper though its subscriber listens, and nobody ever takes the second one. And closing a
pool for the second time ends while a worker is running. -/
theorem tasks_left_behind :
    (∃ p, (startWith endless 1 ()).follow? Scraper.blank lostDeadline = some p ∧
      (startWith endless 1 ()).reports Scraper.blank admissions lostDeadline = ["a", "b"] ∧
      p.queue = [⟨1, "b"⟩] ∧ p.scrapingTasks = [] ∧ p.publishingTasks = [] ∧
      p.finished = [(⟨0, "a"⟩, .abandoned)] ∧ p.listening 0 = true ∧ p.accepting = true ∧
      ∀ more q, p.follow? Scraper.blank more = some q →
        q.queue = [⟨1, "b"⟩] ∧ q.finished = [(⟨0, "a"⟩, .abandoned)] ∧
          q.add? "c" = some (false, q)) ∧
      ∃ p, (start 1 ()).follow? Scraper.blank hastyClose = some p ∧
        (start 1 ()).reports Scraper.blank admissions hastyClose = ["a"] ∧
        p.closing = none ∧ p.scrapingTasks = [⟨0, "a"⟩] ∧ p.finished = [] := by
  refine ⟨⟨_, rfl, rfl, rfl, rfl, rfl, rfl, rfl, rfl, fun more q hq => ?_⟩, _, rfl, rfl, rfl, rfl, rfl⟩
  obtain ⟨hdeserted, hqueue, hfinished⟩ := deserted_follow rfl hq
  exact ⟨hqueue, hfinished, add?_of_deserted hdeserted "c"⟩

end Pool

end Harvest
