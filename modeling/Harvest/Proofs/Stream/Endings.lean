import Harvest.Proofs.Stream.Step

/-!
# How workers end

A worker stops only when nothing is left to do (`EndsLast`). It breaks down when the clock cannot tell the
deadline of what it has to publish, and that task goes with it (`Failures`). Closing a pool waits for
all workers (`Watched`), as long as nobody gives up in the meantime: the workers that were waited for until
then are not waited for again. When all workers have ended nothing changes any more
(`Change.deserted_kept`).
-/

namespace Harvest

/-- Whether a worker has broken down. -/
def Worker.hasFailed : Worker → Bool
  | .failed => true
  | _ => false

/-- Whether the worker of a task broke down. -/
def Fate.isAbandoned : Fate → Bool
  | .abandoned => true
  | _ => false

namespace Pool

variable {σ : Type} {s : Scraper σ} {p q : Pool σ} {e : PoolStep σ} {steps : List (PoolStep σ)}

/-! ## What stays -/

theorem Change.workers_length (h : Change s p e q) : q.workers.length = p.workers.length := by
  cases h with
  | refuse | accept | subscribe | hangUp | close | giveUp | joined => rfl
  | announce => exact List.length_map _
  | pick | stop | fetchFailed | fetched | fetchCrashed | read | readCrashed | deadlineSet | failed | arm
  | found | nobody | sent | refused | wake | expire => exact List.length_set

theorem workers_length_follow {patience : Patience} {workers : Nat} {scraping : σ}
    (h : (startWith patience workers scraping).follow? s steps = some p) :
    p.workers.length = max 1 workers :=
  follow?_induction (motive := fun _ p => p.workers.length = max 1 workers) List.length_replicate
    (fun _ _ _ _ _ hq hchange => hchange.workers_length.trans hq) h

theorem Change.patience_eq (h : Change s p e q) : q.patience = p.patience := by
  cases h <;> rfl

theorem patience_follow {patience : Patience} {workers : Nat} {scraping : σ}
    (h : (startWith patience workers scraping).follow? s steps = some p) : p.patience = patience :=
  follow?_induction (motive := fun _ p => p.patience = patience) rfl
    (fun _ _ _ _ _ hq hchange => hchange.patience_eq.trans hq) h

/-! ## Workers that stop -/

/-- A worker has stopped only when no url is accepted any more and none is left. -/
def EndsLast (p : Pool σ) : Prop :=
  ∀ w : Nat, p.workers[w]? = some .stopped → p.accepting = false ∧ p.queue = []

theorem EndsLast.step (hp : p.EndsLast) (h : Change s p e q) : q.EndsLast := by
  intro w hw
  cases h with
  | refuse | subscribe | hangUp | giveUp | joined => exact hp w hw
  | accept accepting =>
    rw [(hp w hw).1] at accepting
    cases accepting
  | announce =>
    obtain ⟨worker, hworker, hwake⟩ := getElem?_map_wake hw
    cases worker <;> cases hwake
    exact hp w hworker
  | close => exact ⟨rfl, (hp w hw).2⟩
  | pick worker front =>
    rcases getElem?_set_cases hw with ⟨-, hworker⟩ | ⟨-, hw⟩
    · cases hworker
    · rw [(hp w hw).2] at front
      cases front
  | stop worker closed empty => exact ⟨closed, empty⟩
  | fetchFailed | fetched | fetchCrashed | read | readCrashed | deadlineSet | failed | arm | found
  | nobody | sent | refused | wake | expire =>
    rcases getElem?_set_cases hw with ⟨-, hworker⟩ | ⟨-, hw⟩
    · cases hworker
    · exact hp w hw

theorem endsLast_follow {patience : Patience} {workers : Nat} {scraping : σ}
    (h : (startWith patience workers scraping).follow? s steps = some p) : p.EndsLast := by
  refine follow?_induction (motive := fun _ p => p.EndsLast) ?_
    (fun _ _ _ _ _ hq hchange => hq.step hchange) h
  intro w hw
  cases List.eq_of_mem_replicate (List.mem_of_getElem? hw)

/-! ## Workers that break down -/

/-- The tasks that were abandoned and the workers that broke down over them. -/
structure Failures (patience : Patience) (steps : List (PoolStep σ)) (p : Pool σ) : Prop where
  count : p.workers.countP Worker.hasFailed = p.finished.countP fun f => f.2.isAbandoned
  reason : ∀ w, p.workers[w]? = some .failed →
    ∃ now, .work w (.setDeadline now) ∈ steps ∧ patience.deadline? now = none

/-- A worker that changes is counted with those that it belongs to now. -/
theorem countP_set_add (f : Worker → Bool) {workers : List Worker} {w : Nat} {worker : Worker}
    (h : workers[w]? = some worker) (other : Worker) :
    (workers.set w other).countP f + (f worker).toNat = workers.countP f + (f other).toNat := by
  induction workers generalizing w with
  | nil => cases h
  | cons first rest ih =>
    cases w with
    | zero =>
      cases h
      rw [List.set_cons_zero, List.countP_cons, List.countP_cons]
      cases f worker <;> cases f other <;> rfl
    | succ w =>
      have hrest := ih h
      rw [List.set_cons_succ, List.countP_cons, List.countP_cons]
      omega

theorem Failures.kept {patience : Patience} (hp : Failures patience steps p)
    (hcount : q.workers.countP Worker.hasFailed = p.workers.countP Worker.hasFailed)
    (hfailed : ∀ w : Nat, q.workers[w]? = some .failed → p.workers[w]? = some .failed)
    (hfinished : (q.finished.countP fun f => f.2.isAbandoned) =
      p.finished.countP fun f => f.2.isAbandoned) : Failures patience (steps ++ [e]) q where
  count := by rw [hcount, hfinished, hp.count]
  reason := by
    intro w hw
    obtain ⟨now, hmem, hnone⟩ := hp.reason w (hfailed w hw)
    exact ⟨now, List.mem_append_left _ hmem, hnone⟩

/-- A worker goes on that had not broken down and has not done so now. -/
theorem Failures.turn {patience : Patience} (hp : Failures patience steps p) {w : Nat}
    {worker other : Worker} (hw : p.workers[w]? = some worker)
    (hworkers : q.workers = p.workers.set w other) (hbefore : worker.hasFailed = false)
    (hafter : other.hasFailed = false)
    (hfinished : (q.finished.countP fun f => f.2.isAbandoned) =
      p.finished.countP fun f => f.2.isAbandoned) : Failures patience (steps ++ [e]) q := by
  refine hp.kept ?_ ?_ hfinished
  · have hset := countP_set_add Worker.hasFailed hw other
    rw [hbefore, hafter] at hset
    rw [hworkers]
    exact hset
  · intro v hv
    rw [hworkers] at hv
    rcases getElem?_set_cases hv with ⟨-, rfl⟩ | ⟨-, hv⟩
    · cases hafter
    · exact hv

theorem Failures.step {patience : Patience} (hp : Failures patience steps p)
    (hpatience : p.patience = patience) (h : Change s p e q) : Failures patience (steps ++ [e]) q := by
  have hfinish : ∀ (task : Task) (fate : Fate), fate.isAbandoned = false →
      ((p.finished ++ [(task, fate)]).countP fun f => f.2.isAbandoned) =
        p.finished.countP fun f => f.2.isAbandoned := by
    intro task fate hfate
    rw [List.countP_append, List.countP_singleton, hfate]
    rfl
  cases h with
  | refuse | accept | subscribe | hangUp | close | giveUp | joined =>
    exact hp.kept rfl (fun _ hw => hw) rfl
  | announce =>
    refine hp.kept ?_ ?_ rfl
    · rw [List.countP_map]
      congr 1
      funext worker
      cases worker <;> rfl
    · intro w hw
      obtain ⟨worker, hworker, hwake⟩ := getElem?_map_wake hw
      cases worker <;> cases hwake
      exact hworker
  | pick worker | stop worker | fetchFailed worker | fetched worker | read worker | deadlineSet worker
  | arm worker | found worker | nobody worker | refused worker | wake worker =>
    exact hp.turn worker rfl rfl rfl rfl
  | fetchCrashed worker | readCrashed worker | sent worker | expire worker =>
    exact hp.turn worker rfl rfl rfl (hfinish _ _ rfl)
  | @failed w task outcome now worker untold =>
    constructor
    · have hset := countP_set_add Worker.hasFailed worker .failed
      change (p.workers.set w .failed).countP _ = (p.finished ++ [(task, Fate.abandoned)]).countP _
      rw [List.countP_append, ← hp.count]
      exact hset
    · intro v hv
      rcases getElem?_set_cases hv with ⟨rfl, -⟩ | ⟨-, hv⟩
      · exact ⟨now, List.mem_append_right _ List.mem_cons_self, hpatience ▸ untold⟩
      · obtain ⟨before, hmem, hnone⟩ := hp.reason v hv
        exact ⟨before, List.mem_append_left _ hmem, hnone⟩

theorem failures_follow {patience : Patience} {workers : Nat} {scraping : σ}
    (h : (startWith patience workers scraping).follow? s steps = some p) :
    Failures patience steps p := by
  refine follow?_induction (motive := fun steps p => Failures patience steps p) ⟨?_, ?_⟩
    (fun _ _ _ _ hsteps hq hchange => hq.step (patience_follow hsteps) hchange) h
  · exact List.countP_eq_zero.2 fun worker hworker => by
      rw [List.eq_of_mem_replicate hworker]
      exact Bool.false_ne_true
  · intro w hw
    cases List.eq_of_mem_replicate (List.mem_of_getElem? hw)

/-! ## Closing -/

theorem Change.closed_kept (h : Change s p e q) (hp : p.accepting = false) : q.accepting = false := by
  cases h with
  | close => rfl
  | _ => exact hp

theorem closed_follow (hp : p.accepting = false) (h : p.follow? s steps = some q) :
    q.accepting = false :=
  follow?_induction (motive := fun _ q => q.accepting = false) hp
    (fun _ _ _ _ _ hq hchange => hchange.closed_kept hq) h

/-- A pool that somebody has begun to close accepts no urls. -/
theorem closed_of_mem (h : p.follow? s steps = some q) (hclose : .close ∈ steps) :
    q.accepting = false := by
  obtain ⟨before, after, rfl⟩ := List.append_of_mem hclose
  rw [follow?_append] at h
  obtain ⟨mid, -, hrest⟩ := Option.bind_eq_some_iff.1 h
  rw [follow?_cons] at hrest
  obtain ⟨next, hnext, hafter⟩ := Option.bind_eq_some_iff.1 hrest
  cases change_of_step? hnext
  exact closed_follow (p := mid.close) rfl hafter

theorem add?_of_closed (hp : p.accepting = false) (url : String) : p.add? url = some (false, p) := by
  simp [add?, hp]

theorem hasEnded_iff {w : Nat} :
    p.hasEnded w = true ↔ ∀ worker, p.workers[w]? = some worker → worker.hasEnded = true := by
  unfold hasEnded
  cases p.workers[w]? <;> simp

/-- A worker that has ended does not go on. -/
theorem Change.hasEnded_kept (h : Change s p e q) {w : Nat} (hw : p.hasEnded w = true) :
    q.hasEnded w = true := by
  have hset : ∀ {v : Nat} {worker other : Worker}, p.workers[v]? = some worker →
      worker.hasEnded = false → ∀ after, (p.workers.set v other)[w]? = some after →
        after.hasEnded = true := by
    intro v worker other hv hruns after hafter
    rcases getElem?_set_cases hafter with ⟨rfl, -⟩ | ⟨-, hafter⟩
    · rw [hasEnded_iff.1 hw _ hv] at hruns
      cases hruns
    · exact hasEnded_iff.1 hw _ hafter
  cases h with
  | refuse | accept | subscribe | hangUp | close | giveUp | joined => exact hw
  | announce =>
    refine hasEnded_iff.2 fun after hafter => ?_
    obtain ⟨worker, hworker, rfl⟩ := getElem?_map_wake hafter
    have hended := hasEnded_iff.1 hw _ hworker
    cases worker with
    | publishing => cases hended
    | _ => exact hended
  | pick worker | stop worker | fetchFailed worker | fetched worker | fetchCrashed worker | read worker
  | readCrashed worker | deadlineSet worker | failed worker | arm worker | found worker | nobody worker
  | sent worker | refused worker | wake worker | expire worker =>
    exact hasEnded_iff.2 (hset worker rfl)

/-- Each worker will be waited for, is being waited for, or has ended, unless somebody gave up. -/
structure Watched (steps : List (PoolStep σ)) (p : Pool σ) : Prop where
  handles : p.closing ≠ none → p.handles = []
  workers : .giveUp ∉ steps → ∀ w < p.workers.length,
    w ∈ p.handles ∨ w ∈ p.closing.getD [] ∨ p.hasEnded w = true

theorem Watched.step (hp : Watched steps p) (h : Change s p e q) : Watched (steps ++ [e]) q := by
  have hbefore : .giveUp ∉ steps ++ [e] → ∀ w < q.workers.length,
      w ∈ p.handles ∨ w ∈ p.closing.getD [] ∨ q.hasEnded w = true := by
    intro hnever w hw
    have hsteps : .giveUp ∉ steps := fun hmem => hnever (List.mem_append_left _ hmem)
    exact (hp.workers hsteps w (h.workers_length ▸ hw)).imp_right (Or.imp_right h.hasEnded_kept)
  cases h with
  | close apart =>
    refine ⟨fun _ => rfl, fun hnever w hw => Or.inr ?_⟩
    rcases hbefore hnever w hw with hw | hw | hw
    · exact Or.inl hw
    · rw [apart] at hw
      cases hw
    · exact Or.inr hw
  | giveUp closing =>
    exact ⟨fun hnone => absurd rfl hnone,
      fun hnever => absurd (List.mem_append_right _ List.mem_cons_self) hnever⟩
  | joined closing ended =>
    refine ⟨fun hnone => absurd rfl hnone, fun hnever w hw => ?_⟩
    rcases hbefore hnever w hw with hw | hw | hw
    · exact Or.inl hw
    · rw [closing] at hw
      exact Or.inr (Or.inr (ended w hw))
    · exact Or.inr (Or.inr hw)
  | _ => exact ⟨hp.handles, hbefore⟩

theorem watched_follow {patience : Patience} {workers : Nat} {scraping : σ}
    (h : (startWith patience workers scraping).follow? s steps = some p) : Watched steps p := by
  refine follow?_induction (motive := fun steps p => Watched steps p) ⟨fun _ => ?_, ?_⟩
    (fun _ _ _ _ _ hq hchange => hq.step hchange) h
  · contradiction
  · intro _ w hw
    rw [show (startWith patience workers scraping).workers.length = max 1 workers from
      List.length_replicate] at hw
    exact Or.inl (List.mem_range.2 hw)

/-! ## Pools without workers -/

theorem isDeserted_iff : p.isDeserted = true ↔ ∀ worker ∈ p.workers, worker.hasEnded = true :=
  List.all_eq_true

/-- Closing ends when all workers have ended, unless somebody gave up. -/
theorem Watched.deserted (hp : Watched steps p) (hnever : .giveUp ∉ steps)
    (h : Change s p .joined q) : q.isDeserted = true := by
  cases h with
  | joined closing ended =>
    refine isDeserted_iff.2 fun worker hworker => ?_
    obtain ⟨w, hw⟩ := List.getElem?_of_mem hworker
    have hended : p.hasEnded w = true := by
      rcases hp.workers hnever w (List.getElem?_eq_some_iff.1 hw).1 with hmem | hmem | hended
      · rw [hp.handles (by rw [closing]; exact Option.some_ne_none _)] at hmem
        cases hmem
      · rw [closing] at hmem
        exact ended w hmem
      · exact hended
    exact hasEnded_iff.1 hended _ hw

/-- When all workers have ended nobody takes what the queue holds. -/
theorem Change.deserted_kept (h : Change s p e q) (hp : p.isDeserted = true) :
    q.isDeserted = true ∧ q.queue = p.queue ∧ q.finished = p.finished := by
  have hended : ∀ {w : Nat} {worker : Worker}, p.workers[w]? = some worker →
      worker.hasEnded = true := fun hw => isDeserted_iff.1 hp _ (List.mem_of_getElem? hw)
  cases h with
  | refuse | subscribe | hangUp | close | giveUp | joined => exact ⟨hp, rfl, rfl⟩
  | accept accepting manned =>
    rw [hp] at manned
    cases manned
  | announce =>
    refine ⟨isDeserted_iff.2 fun worker hworker => ?_, rfl, rfl⟩
    obtain ⟨old, hold, rfl⟩ := List.mem_map.1 hworker
    have hold := isDeserted_iff.1 hp old hold
    cases old with
    | publishing => cases hold
    | _ => exact hold
  | pick worker | stop worker | fetchFailed worker | fetched worker | fetchCrashed worker | read worker
  | readCrashed worker | deadlineSet worker | failed worker | arm worker | found worker | nobody worker
  | sent worker | refused worker | wake worker | expire worker => cases hended worker

theorem deserted_follow (hp : p.isDeserted = true) (h : p.follow? s steps = some q) :
    q.isDeserted = true ∧ q.queue = p.queue ∧ q.finished = p.finished := by
  refine follow?_induction (motive := fun _ q => q.isDeserted = true ∧ q.queue = p.queue ∧
    q.finished = p.finished) ⟨hp, rfl, rfl⟩ ?_ h
  rintro _ q e r _ ⟨hq, hqueue, hfinished⟩ hchange
  obtain ⟨hr, hqueue', hfinished'⟩ := hchange.deserted_kept hq
  exact ⟨hr, hqueue'.trans hqueue, hfinished'.trans hfinished⟩

theorem add?_of_deserted (hp : p.isDeserted = true) (url : String) : p.add? url = some (false, p) := by
  simp [add?, hp]

end Pool

end Harvest
