import Mathlib.Data.List.Count
import Mathlib.Data.List.Nodup
import Mathlib.Data.List.Perm.Basic
import Harvest.Proofs.Stream.Step

/-!
# Where tasks are

Every task that was accepted is in one place: in the queue, with a worker, or among those that are
finished (`Conserved`). As accepted tasks have different numbers, none of them is in two places or in one
place twice.
-/

namespace Harvest.Pool

variable {σ : Type} {s : Scraper σ} {p q : Pool σ} {e : PoolStep σ}

/-- The tasks that workers are at. -/
def active (p : Pool σ) : List Task :=
  p.workers.filterMap Worker.task?

/-- Each accepted task is in one place, and its number is the place that it was accepted in. -/
structure Conserved (p : Pool σ) : Prop where
  count : ∀ task, p.queue.count task + p.active.count task + (p.finished.map Prod.fst).count task =
    p.accepted.count task
  numbers : p.accepted.map Task.number = List.range p.accepted.length

/-! ## Workers that change -/

/-- A worker that changes takes along the task that it had and brings the one that it has now. -/
theorem count_filterMap_set (f : Worker → Option Task) {workers : List Worker} {w : Nat}
    {worker : Worker} (h : workers[w]? = some worker) (other : Worker) (task : Task) :
    ((workers.set w other).filterMap f).count task + (f worker).toList.count task =
      (workers.filterMap f).count task + (f other).toList.count task := by
  have hcons : ∀ (first : Worker) (rest : List Worker),
      ((first :: rest).filterMap f).count task =
        (f first).toList.count task + (rest.filterMap f).count task := by
    intro first rest
    rw [List.filterMap_cons]
    cases f first with
    | none => simp
    | some t => rw [Option.toList_some, ← List.count_append, List.singleton_append]
  induction workers generalizing w with
  | nil => cases h
  | cons first rest ih =>
    cases w with
    | zero =>
      cases h
      rw [List.set_cons_zero, hcons, hcons]
      omega
    | succ w =>
      have hrest := ih h
      rw [List.set_cons_succ, hcons, hcons]
      omega

theorem filterMap_wake (workers : List Worker) :
    (workers.map Worker.wake).filterMap Worker.task? = workers.filterMap Worker.task? := by
  rw [List.filterMap_map]
  congr 1
  funext worker
  cases worker <;> rfl

/-- A worker that stays with its task moves no task. -/
theorem Conserved.turn (hp : p.Conserved) {w : Nat} {worker other : Worker}
    (hw : p.workers[w]? = some worker) (hworkers : q.workers = p.workers.set w other)
    (htask : other.task? = worker.task?) (hqueue : q.queue = p.queue)
    (hfinished : q.finished = p.finished) (haccepted : q.accepted = p.accepted) :
    q.Conserved where
  count := by
    intro task
    have hactive : q.active.count task = p.active.count task := by
      have hset := count_filterMap_set Worker.task? hw other task
      rw [htask] at hset
      rw [active, active, hworkers]
      omega
    rw [hqueue, hactive, hfinished, haccepted]
    exact hp.count task
  numbers := haccepted ▸ hp.numbers

/-- A worker that ends its task moves that task to the finished ones. -/
theorem Conserved.finish (hp : p.Conserved) {w : Nat} {worker other : Worker} {ended : Task}
    {fate : Fate} (hw : p.workers[w]? = some worker) (htask : worker.task? = some ended)
    (hworkers : q.workers = p.workers.set w other) (hfree : other.task? = none)
    (hqueue : q.queue = p.queue) (hfinished : q.finished = p.finished ++ [(ended, fate)])
    (haccepted : q.accepted = p.accepted) : q.Conserved where
  count := by
    intro task
    have hset := count_filterMap_set Worker.task? hw other task
    have hcount := hp.count task
    rw [htask, hfree, Option.toList_some, Option.toList_none, List.count_nil] at hset
    rw [active] at hcount ⊢
    rw [hworkers, hqueue, hfinished, haccepted, List.map_append, List.count_append, List.map_cons,
      List.map_nil]
    dsimp only
    omega
  numbers := haccepted ▸ hp.numbers

theorem Conserved.step (hp : p.Conserved) (h : Change s p e q) : q.Conserved := by
  cases h with
  | refuse | subscribe | hangUp | close | giveUp | joined => exact ⟨hp.count, hp.numbers⟩
  | @accept url accepting manned room =>
    refine ⟨fun task => ?_, ?_⟩
    · have hcount := hp.count task
      change (p.queue ++ [_]).count task + p.active.count task + (p.finished.map Prod.fst).count task =
        (p.accepted ++ [_]).count task
      rw [List.count_append, List.count_append]
      omega
    · change (p.accepted ++ [_]).map Task.number = List.range (p.accepted ++ [_]).length
      rw [List.map_append, hp.numbers, List.length_append, List.length_singleton, List.range_succ]
      rfl
  | announce entered =>
    refine ⟨fun task => ?_, hp.numbers⟩
    have hcount := hp.count task
    rw [active] at hcount ⊢
    rw [filterMap_wake]
    exact hcount
  | @pick w task more worker front =>
    refine ⟨fun other => ?_, hp.numbers⟩
    have hset := count_filterMap_set Worker.task? worker (.fetching task) other
    have hcount := hp.count other
    rw [front, ← List.singleton_append, List.count_append] at hcount
    rw [active] at hcount ⊢
    change more.count other + ((p.workers.set w (.fetching task)).filterMap Worker.task?).count other +
      (p.finished.map Prod.fst).count other = p.accepted.count other
    have hidle : (Worker.task? .idle).toList.count other = 0 := rfl
    have hfetching : (Worker.task? (.fetching task)).toList = [task] := rfl
    rw [hfetching] at hset
    omega
  | stop worker | fetchFailed worker | fetched worker | read worker | deadlineSet worker | arm worker
  | found worker | nobody worker | refused worker | wake worker =>
    exact hp.turn worker rfl rfl rfl rfl rfl
  | fetchCrashed worker | readCrashed worker | failed worker | sent worker | expire worker =>
    exact hp.finish worker rfl rfl rfl rfl rfl rfl

theorem conserved_start (patience : Patience) (workers : Nat) (scraping : σ) :
    (startWith patience workers scraping).Conserved where
  count := by
    intro task
    have hactive : (startWith patience workers scraping).active = [] := by
      unfold active startWith
      rw [List.filterMap_replicate_of_none rfl]
    rw [hactive]
    rfl
  numbers := rfl

theorem conserved_follow {patience : Patience} {workers : Nat} {scraping : σ} {steps : List (PoolStep σ)}
    (h : (startWith patience workers scraping).follow? s steps = some p) : p.Conserved :=
  follow?_induction (motive := fun _ p => p.Conserved) (conserved_start patience workers scraping)
    (fun _ _ _ _ _ hq hchange => hq.step hchange) h

/-! ## No task is in two places -/

theorem Conserved.perm (hp : p.Conserved) :
    (p.queue ++ p.active ++ p.finished.map Prod.fst).Perm p.accepted := by
  rw [List.perm_iff_count]
  intro task
  rw [List.count_append, List.count_append]
  exact hp.count task

theorem Conserved.accepted_nodup (hp : p.Conserved) : p.accepted.Nodup :=
  List.Nodup.of_map Task.number (hp.numbers ▸ List.nodup_range)

/-- No task is finished twice. -/
theorem Conserved.finished_nodup (hp : p.Conserved) : (p.finished.map Prod.fst).Nodup :=
  (List.nodup_append.1 (hp.perm.nodup_iff.2 hp.accepted_nodup)).2.1

end Harvest.Pool
