import Harvest.Proofs.Stream.Queues

/-!
# Wake-ups

A worker that waits for subscribers has looked for them before, and it got ready to be woken up before
it looked. So a subscriber whom it has missed must have come since then, and has still to be announced
(`Attentive`): once that is done the worker looks again. An outcome is dropped only by a worker that
nobody has woken up since it looked and found nobody (`Waits`).
-/

namespace Harvest.Pool

variable {σ : Type} {s : Scraper σ} {p q : Pool σ} {e : PoolStep σ}

/-! ## Nobody is missed -/

/-- A worker that nobody has woken up has waited before, or has just found nobody. -/
theorem Change.waiting_before (h : Change s p e q) {w : Nat} {task : Task} {outcome : Outcome}
    (hw : q.workers[w]? = some (.publishing task outcome (.waiting false))) :
    p.workers[w]? = some (.publishing task outcome (.waiting false)) ∧ ¬ e.IsOf w ∧
        (∀ n, e ≠ .announce n) ∨
      e = .work w .take ∧ p.workers[w]? = some (.publishing task outcome (.scanning false)) ∧
        p.subscribers.take p.listening task.url = (none, q.subscribers) := by
  cases h with
  | refuse | accept | subscribe | hangUp | close | giveUp | joined =>
    exact Or.inl ⟨hw, id, fun n he => nomatch he⟩
  | announce =>
    -- whoever waits has been woken up
    obtain ⟨worker, -, hwake⟩ := getElem?_map_wake hw
    obtain ⟨stage, -, hstage⟩ := wake_eq_publishing hwake
    cases stage <;> cases hstage
  | @nobody v task' outcome' woken rest worker taken =>
    rcases getElem?_set_cases hw with ⟨rfl, hworker⟩ | ⟨hne, hw⟩
    · cases hworker
      exact Or.inr ⟨rfl, worker, taken⟩
    · exact Or.inl ⟨hw, hne, fun n he => nomatch he⟩
  | pick | stop | fetchFailed | fetched | fetchCrashed | read | readCrashed | deadlineSet | failed | arm
  | found | sent | refused | wake | expire =>
    rcases getElem?_set_cases hw with ⟨-, hworker⟩ | ⟨hne, hw⟩
    · cases hworker
    · exact Or.inl ⟨hw, hne, fun n he => nomatch he⟩

/-- A subscriber who has been entered is announced by a step of its own. -/
theorem Change.announcing_kept (h : Change s p e q) {n : Nat} (hn : n ∈ p.announcing) :
    n ∈ q.announcing ∨ e = .announce n := by
  cases h with
  | subscribe => exact Or.inl (List.mem_append_left _ hn)
  | @announce m entered =>
    by_cases hm : n = m
    · exact Or.inr (by rw [hm])
    · exact Or.inl ((List.mem_erase_of_ne hm).2 hn)
  | _ => exact Or.inl hn

/-- Whom a waiting worker has missed is still to be announced. -/
def Attentive (p : Pool σ) : Prop :=
  ∀ {w : Nat} {task : Task} {outcome : Outcome} {n : Nat},
    p.workers[w]? = some (.publishing task outcome (.waiting false)) →
    n ∈ p.subscribers.queue task.url → p.listening n = true → n ∈ p.announcing

theorem Attentive.step (hp : p.Attentive) (hasc : p.subscribers.Ascending) (h : Change s p e q) :
    q.Attentive := by
  intro w task outcome n hw hn hlistening
  rcases h.waiting_before hw with ⟨hw, -, hquiet⟩ | ⟨rfl, -, htake⟩
  · -- the worker has waited before: either it has missed `n` before, or `n` has just come
    rcases h.queue_before hasc hn with hn | ⟨rfl, rfl⟩
    · rcases h.listening_before hlistening with hlistening | ⟨url, rfl, rfl⟩
      · exact (h.announcing_kept (hp hw hn hlistening)).resolve_right (hquiet n)
      · cases h
        exact List.mem_append_right _ List.mem_cons_self
    · cases h
      exact List.mem_append_right _ List.mem_cons_self
  · -- the worker has just looked: nobody is left in the queue
    rw [(Subscribers.take_none htake).2, if_pos rfl] at hn
    exact absurd hn List.not_mem_nil

theorem attentive_follow {patience : Patience} {workers : Nat} {scraping : σ} {steps : List (PoolStep σ)}
    (h : (startWith patience workers scraping).follow? s steps = some p) : p.Attentive :=
  follow?_induction (motive := fun _ p => p.Attentive) (fun _ hn _ => absurd hn List.not_mem_nil)
    (fun _ _ _ _ hsteps hq hchange => hq.step (ascending_follow hsteps) hchange) h

/-! ## Who is still to be announced -/

/-- The subscribers who are still to be announced are those who have been entered and whose
announcement is not among the steps. -/
structure Announced (steps : List (PoolStep σ)) (p : Pool σ) : Prop where
  nodup : p.announcing.Nodup
  lt : ∀ {n : Nat}, PoolStep.announce n ∈ steps → n < p.subscriptions.length
  mem_iff : ∀ {n : Nat},
    n ∈ p.announcing ↔ n < p.subscriptions.length ∧ PoolStep.announce n ∉ steps

theorem Announced.other {steps : List (PoolStep σ)} (hp : p.Announced steps)
    (hannouncing : q.announcing = p.announcing)
    (hlength : q.subscriptions.length = p.subscriptions.length) (he : ∀ n, e ≠ .announce n) :
    q.Announced (steps ++ [e]) := by
  have hmem : ∀ n, PoolStep.announce n ∈ steps ++ [e] ↔ PoolStep.announce n ∈ steps := by
    intro n
    rw [List.mem_append, List.mem_singleton]
    exact or_iff_left fun h => he n h.symm
  refine ⟨hannouncing ▸ hp.nodup, fun {n} hn => ?_, fun {n} => ?_⟩
  · rw [hlength]
    exact hp.lt ((hmem n).1 hn)
  · rw [hannouncing, hlength, hmem, hp.mem_iff]

theorem Announced.step {steps : List (PoolStep σ)} (hp : p.Announced steps) (h : Change s p e q) :
    q.Announced (steps ++ [e]) := by
  cases h with
  | @subscribe url =>
    have hnew : p.subscriptions.length ∉ p.announcing := fun hn =>
      absurd (hp.mem_iff.1 hn).1 (lt_irrefl _)
    have hlength : (p.subscribe url).2.subscriptions.length = p.subscriptions.length + 1 :=
      List.length_append
    have hstep : ∀ n, PoolStep.announce n ∈ steps ++ [.subscribe url] ↔ .announce n ∈ steps := by
      intro n
      rw [List.mem_append, List.mem_singleton]
      exact or_iff_left fun he => nomatch he
    have hadded : ∀ n, n ∈ (p.subscribe url).2.announcing ↔
        n ∈ p.announcing ∨ n = p.subscriptions.length := by
      intro n
      change n ∈ p.announcing ++ [_] ↔ _
      rw [List.mem_append, List.mem_singleton]
    refine ⟨List.nodup_append.2 ⟨hp.nodup, by simp, ?_⟩, fun {n} hn => ?_, fun {n} => ?_⟩
    · rintro m hm _ hm' rfl
      rw [List.mem_singleton.1 hm'] at hm
      exact hnew hm
    · have hlt := hp.lt ((hstep n).1 hn)
      omega
    · rw [hadded, hlength, hstep, hp.mem_iff]
      constructor
      · rintro (⟨hlt, hn⟩ | he)
        · exact ⟨by omega, hn⟩
        · exact ⟨by omega, fun hn => absurd (hp.lt hn) (by omega)⟩
      · rintro ⟨hlt, hn⟩
        by_cases he : n = p.subscriptions.length
        · exact Or.inr he
        · exact Or.inl ⟨by omega, hn⟩
  | @announce m entered =>
    refine ⟨hp.nodup.erase m, fun {n} hn => ?_, fun {n} => ?_⟩
    · rw [List.mem_append, List.mem_singleton] at hn
      rcases hn with hn | hn
      · exact hp.lt hn
      · cases hn
        exact (hp.mem_iff.1 entered).1
    · change n ∈ p.announcing.erase m ↔ n < p.subscriptions.length ∧ _
      rw [hp.nodup.mem_erase_iff, hp.mem_iff, List.mem_append, List.mem_singleton, not_or,
        PoolStep.announce.injEq]
      tauto
  | hangUp | sent =>
    exact hp.other rfl (List.length_modify _ _ _) fun n he => nomatch he
  | _ => exact hp.other rfl rfl fun n he => nomatch he

theorem announced_follow {patience : Patience} {workers : Nat} {scraping : σ} {steps : List (PoolStep σ)}
    (h : (startWith patience workers scraping).follow? s steps = some p) : p.Announced steps :=
  follow?_induction (motive := fun steps p => p.Announced steps)
    ⟨List.nodup_nil, fun hn => absurd hn List.not_mem_nil, fun {n} => by simp [startWith]⟩
    (fun _ _ _ _ _ hq hchange => hq.step hchange) h

/-! ## Dropped outcomes -/

/-- A worker has looked for subscribers, found nobody, and waited ever since; nobody has woken it up. -/
def Waits (s : Scraper σ) (origin : Pool σ) (steps : List (PoolStep σ)) (w : Nat) (task : Task)
    (outcome : Outcome) : Prop :=
  ∃ before between q, steps = before ++ .work w .take :: between ∧
    origin.follow? s before = some q ∧
    q.workers[w]? = some (.publishing task outcome (.scanning false)) ∧
    (∀ n ∈ q.subscribers.queue task.url, q.listening n = false) ∧
    ∀ e ∈ between, ¬ e.IsOf w ∧ ∀ n, e ≠ .announce n

theorem waits_follow {patience : Patience} {workers : Nat} {scraping : σ} {steps : List (PoolStep σ)}
    (h : (startWith patience workers scraping).follow? s steps = some p) {w : Nat} {task : Task}
    {outcome : Outcome} (hw : p.workers[w]? = some (.publishing task outcome (.waiting false))) :
    Waits s (startWith patience workers scraping) steps w task outcome := by
  refine follow?_induction (motive := fun steps p =>
    p.workers[w]? = some (.publishing task outcome (.waiting false)) →
      Waits s (startWith patience workers scraping) steps w task outcome) ?_ ?_ h hw
  · intro hw
    change (List.replicate _ Worker.idle)[w]? = _ at hw
    cases List.eq_of_mem_replicate (List.mem_of_getElem? hw)
  · intro steps q e r hsteps ih hchange hw
    rcases hchange.waiting_before hw with ⟨hw, hother, hquiet⟩ | ⟨rfl, hscan, htake⟩
    · obtain ⟨before, between, mid, rfl, hmid, hscan, hnobody, hbetween⟩ := ih hw
      refine ⟨before, between ++ [e], mid, by simp, hmid, hscan, hnobody, fun e' he' => ?_⟩
      rcases List.mem_append.1 he' with he' | he'
      · exact hbetween e' he'
      · rw [List.mem_singleton.1 he']
        exact ⟨hother, hquiet⟩
    · exact ⟨steps, [], q, rfl, hsteps, hscan, (Subscribers.take_none htake).1,
        fun e' he' => absurd he' List.not_mem_nil⟩

/-- An outcome is dropped only by a worker that waits and has not been woken up. -/
theorem Change.expired_before (h : Change s p e q) {task : Task}
    (hq : (task, Fate.expired) ∈ q.finished) :
    (task, Fate.expired) ∈ p.finished ∨
      ∃ w outcome, e = .work w .expire ∧
        p.workers[w]? = some (.publishing task outcome (.waiting false)) := by
  have hfinish : ∀ task' fate, (task, Fate.expired) ∈ p.finished ++ [(task', fate)] →
      (task, Fate.expired) ∈ p.finished ∨ task = task' ∧ fate = .expired := by
    intro task' fate hmem
    rw [List.mem_append, List.mem_singleton, Prod.mk.injEq] at hmem
    exact hmem.imp_right fun he => ⟨he.1, he.2.symm⟩
  cases h with
  | @expire w task' outcome worker =>
    rcases hfinish _ _ hq with hq | ⟨rfl, -⟩
    · exact Or.inl hq
    · exact Or.inr ⟨w, outcome, rfl, worker⟩
  | fetchCrashed | readCrashed | failed | sent =>
    exact Or.inl ((hfinish _ _ hq).resolve_right fun he => nomatch he.2)
  | _ => exact Or.inl hq

theorem expired_follow {patience : Patience} {workers : Nat} {scraping : σ} {steps : List (PoolStep σ)}
    (h : (startWith patience workers scraping).follow? s steps = some p) {task : Task}
    (hp : (task, Fate.expired) ∈ p.finished) :
    ∃ waited after w outcome, steps = waited ++ .work w .expire :: after ∧
      Waits s (startWith patience workers scraping) waited w task outcome := by
  refine follow?_induction (motive := fun steps p => (task, Fate.expired) ∈ p.finished →
    ∃ waited after w outcome, steps = waited ++ .work w .expire :: after ∧
      Waits s (startWith patience workers scraping) waited w task outcome) ?_ ?_ h hp
  · intro hp
    cases hp
  · intro steps q e r hsteps ih hchange hr
    rcases hchange.expired_before hr with hq | ⟨w, outcome, rfl, hw⟩
    · obtain ⟨waited, after, w, outcome, rfl, hwaits⟩ := ih hq
      exact ⟨waited, after ++ [e], w, outcome, by simp, hwaits⟩
    · exact ⟨steps, [], w, outcome, rfl, waits_follow hsteps hw⟩

/-- A subscriber who waits in the queue of a worker that has looked and has not been woken up is still
to be announced; the announcement wakes the worker up, and the worker looks again. An outcome is dropped
only by a worker that has looked and found nobody, and that nobody has woken up since. -/
theorem wakeups_arrive {patience : Patience} {workers : Nat} {scraping : σ} {steps : List (PoolStep σ)}
    (h : (startWith patience workers scraping).follow? s steps = some p) :
    (∀ w task outcome n, p.workers[w]? = some (.publishing task outcome (.waiting false)) →
      n ∈ p.subscribers.queue task.url → p.listening n = true →
        n < p.subscriptions.length ∧ PoolStep.announce n ∉ steps ∧
        ∃ q r, p.step? s (.announce n) = some q ∧
          q.workers[w]? = some (.publishing task outcome (.waiting true)) ∧
          q.step? s (.work w .wake) = some r ∧
          r.workers[w]? = some (.publishing task outcome .arming)) ∧
      ∀ task, (task, Fate.expired) ∈ p.finished →
        ∃ waited after w outcome, steps = waited ++ .work w .expire :: after ∧
          Waits s (startWith patience workers scraping) waited w task outcome := by
  refine ⟨fun w task outcome n hw hn hlistening => ?_, fun task hp => expired_follow h hp⟩
  have hentered := attentive_follow h hw hn hlistening
  obtain ⟨hlt, hannounce⟩ := (announced_follow h).mem_iff.1 hentered
  refine ⟨hlt, hannounce, ?_⟩
  have hannounced := Change.announce (s := s) hentered
  have hwoken : (p.workers.map Worker.wake)[w]? =
      some (.publishing task outcome (.waiting true)) := by
    rw [List.getElem?_map, hw]
    rfl
  have hwake := Change.wake (s := s)
    (p := { p with announcing := p.announcing.erase n, workers := p.workers.map Worker.wake }) hwoken
  refine ⟨_, _, hannounced.step?, hwoken, hwake.step?, ?_⟩
  exact List.getElem?_set_self (List.getElem?_eq_some_iff.1 hwoken).1

/-- A worker drops what nobody has subscribed to, and misses the one who comes after it has looked. -/
def lateSubscription : List (PoolStep Unit) :=
  [.add "a", .work 0 .pick, .work 0 .fetch, .work 0 .read, .work 0 (.setDeadline 0), .work 0 .arm,
    .work 0 .take, .work 0 .expire, .add "a", .work 0 .pick, .work 0 .fetch, .work 0 .read,
    .work 0 (.setDeadline 0), .work 0 .arm, .work 0 .take, .subscribe "a"]

theorem wakeups_arrive_lateSubscription :
    ∃ p, (start 1 ()).follow? Scraper.blank lateSubscription = some p ∧
      p.workers[0]? = some (.publishing ⟨1, "a"⟩ (.ok []) (.waiting false)) ∧
      p.subscribers.queue "a" = [0] ∧ p.listening 0 = true ∧
      PoolStep.announce 0 ∉ lateSubscription ∧
      ∃ waited after w outcome, lateSubscription = waited ++ .work w .expire :: after ∧
        Waits Scraper.blank (start 1 ()) waited w ⟨0, "a"⟩ outcome := by
  refine ⟨_, rfl, rfl, rfl, rfl, ?_, ?_⟩
  · have hmissed := (@wakeups_arrive Unit Scraper.blank _ .usual 1 () lateSubscription rfl).1
    exact (hmissed 0 ⟨1, "a"⟩ (.ok []) 0 rfl (by decide) rfl).2.1
  · have hdropped := (@wakeups_arrive Unit Scraper.blank _ .usual 1 () lateSubscription rfl).2
    exact hdropped ⟨0, "a"⟩ (by decide)

end Harvest.Pool
