import Harvest.Proofs.Stream.Step
import Harvest.Proofs.Stream.Subscribers

/-!
# Queues and those who leave them

Nobody gets into a queue of subscribers but by subscribing, and whoever listens leaves it only to be held
by a worker that is about to send an outcome. A worker lets a subscriber go only when the subscriber does
not listen any more.
-/

namespace Harvest.Pool

variable {σ : Type} {s : Scraper σ} {p q : Pool σ} {e : PoolStep σ}

/-! ## Who is in the queues -/

theorem Change.ascending (h : Change s p e q) (hp : p.subscribers.Ascending) :
    q.subscribers.Ascending := by
  cases h with
  | subscribe => exact hp.add _ _ _
  | @found w task outcome woken n rest worker taken =>
    have hrest := hp.take p.listening task.url
    rw [taken] at hrest
    exact hrest
  | @nobody w task outcome woken rest worker taken =>
    have hrest := hp.take p.listening task.url
    rw [taken] at hrest
    exact hrest
  | _ => exact hp

/-- Nobody gets into a queue but by subscribing. -/
theorem Change.queue_before (h : Change s p e q) (hp : p.subscribers.Ascending) {url : String}
    {n : Nat} (hn : n ∈ q.subscribers.queue url) :
    n ∈ p.subscribers.queue url ∨ e = .subscribe url ∧ n = p.subscriptions.length := by
  cases h with
  | @subscribe url' =>
    change n ∈ (p.subscribers.add p.listening url' p.subscriptions.length).queue url at hn
    rw [Subscribers.queue_add hp, List.mem_append] at hn
    rcases hn with hn | hn
    · exact Or.inl (List.mem_of_mem_filter hn)
    · split at hn
      · next he => exact Or.inr ⟨by rw [he], List.mem_singleton.1 hn⟩
      · cases hn
  | @found w task outcome woken m rest worker taken =>
    obtain ⟨-, gone, behind, hqueue, -, hrest⟩ := Subscribers.take_some taken
    change n ∈ rest.queue url at hn
    rw [hrest] at hn
    split at hn
    · next he =>
      rw [← he, hqueue]
      exact Or.inl (List.mem_append_right _ (List.mem_cons_of_mem _ hn))
    · exact Or.inl hn
  | @nobody w task outcome woken rest worker taken =>
    obtain ⟨-, hrest⟩ := Subscribers.take_none taken
    change n ∈ rest.queue url at hn
    rw [hrest] at hn
    split at hn
    · cases hn
    · exact Or.inl hn
  | _ => exact Or.inl hn

theorem ascending_follow {patience : Patience} {workers : Nat} {scraping : σ} {steps : List (PoolStep σ)}
    (h : (startWith patience workers scraping).follow? s steps = some p) : p.subscribers.Ascending :=
  follow?_induction (motive := fun _ p => p.subscribers.Ascending) Subscribers.ascending_empty
    (fun _ _ _ _ _ hq hchange => hchange.ascending hq) h

/-! ## Who is held -/

/-- A worker has taken out a subscriber for a task. -/
def Holds (p : Pool σ) (w : Nat) (task : Task) (n : Nat) : Prop :=
  ∃ outcome woken, p.workers[w]? = some (.publishing task outcome (.sending woken n))

theorem Change.holds_before (h : Change s p e q) {w : Nat} {task : Task} {n : Nat}
    (hw : q.Holds w task n) :
    p.Holds w task n ∨ e = .work w .take ∧
      p.subscribers.take p.listening task.url = (some n, q.subscribers) := by
  obtain ⟨outcome, woken, hw⟩ := hw
  cases h with
  | refuse | accept | subscribe | hangUp | close | giveUp | joined =>
    exact Or.inl ⟨outcome, woken, hw⟩
  | announce =>
    obtain ⟨worker, hworker, hwake⟩ := getElem?_map_wake hw
    obtain ⟨stage, rfl, hstage⟩ := wake_eq_publishing hwake
    cases stage with
    | sending woken' m =>
      cases hstage
      exact Or.inl ⟨outcome, woken', hworker⟩
    | _ => cases hstage
  | @found v task' outcome' woken' m rest worker taken =>
    rcases getElem?_set_cases hw with ⟨rfl, hworker⟩ | ⟨-, hw⟩
    · cases hworker
      exact Or.inr ⟨rfl, taken⟩
    · exact Or.inl ⟨outcome, woken, hw⟩
  | pick | stop | fetchFailed | fetched | fetchCrashed | read | readCrashed | deadlineSet | failed | arm
  | nobody | sent | refused | wake | expire =>
    rcases getElem?_set_cases hw with ⟨-, hworker⟩ | ⟨-, hw⟩
    · cases hworker
    · exact Or.inl ⟨outcome, woken, hw⟩

/-- A worker lets a subscriber go only by sending, after which the subscriber does not listen. -/
theorem Change.holds_kept (h : Change s p e q) {w : Nat} {task : Task} {n : Nat}
    (hw : p.Holds w task n) : q.Holds w task n ∨ q.listening n = false := by
  obtain ⟨outcome, woken, hw⟩ := hw
  -- another worker's move leaves this one alone, and this one can only send
  have hset : ∀ {v : Nat} {old other : Worker}, p.workers[v]? = some old →
      (∀ woken', old ≠ .publishing task outcome (.sending woken' n)) →
      (p.workers.set v other)[w]? = some (.publishing task outcome (.sending woken n)) := by
    intro v old other hold hne
    refine getElem?_set_of_ne hw ?_
    rintro rfl
    rw [hw] at hold
    exact hne woken (Option.some.inj hold).symm
  cases h with
  | refuse | accept | subscribe | hangUp | close | giveUp | joined =>
    exact Or.inl ⟨outcome, woken, hw⟩
  | announce =>
    refine Or.inl ⟨outcome, true, ?_⟩
    change (p.workers.map Worker.wake)[w]? = _
    rw [List.getElem?_map, hw]
    rfl
  | @sent v task' outcome' woken' m worker listening =>
    by_cases hv : v = w
    · subst hv
      rw [hw] at worker
      cases worker
      refine Or.inr (Bool.eq_false_iff.2 fun hn => ?_)
      change (p.setStatus n (.received outcome)).listening n = true at hn
      exact ((listening_setStatus (by nofun)).1 hn).1 rfl
    · exact Or.inl ⟨outcome, woken, getElem?_set_of_ne hw hv⟩
  | @refused v task' outcome' woken' m worker gone =>
    by_cases hv : v = w
    · subst hv
      rw [hw] at worker
      cases worker
      exact Or.inr gone
    · exact Or.inl ⟨outcome, woken, getElem?_set_of_ne hw hv⟩
  | pick worker | stop worker | fetchFailed worker | fetched worker | fetchCrashed worker
  | read worker | readCrashed worker | deadlineSet worker | failed worker | arm worker | found worker
  | nobody worker | wake worker | expire worker => exact Or.inl ⟨outcome, woken, hset worker fun _ he => nomatch he⟩

/-- Who listens leaves a queue only to be held by a worker. -/
theorem Change.queue_kept (h : Change s p e q) (hp : p.subscribers.Ascending) {url : String} {n : Nat}
    (hn : n ∈ p.subscribers.queue url) (hlistening : p.listening n = true) :
    n ∈ q.subscribers.queue url ∨ ∃ w task, q.Holds w task n := by
  cases h with
  | @subscribe url' =>
    left
    change n ∈ (p.subscribers.add p.listening url' p.subscriptions.length).queue url
    rw [Subscribers.queue_add hp, List.mem_append, List.mem_filter]
    exact Or.inl ⟨hn, hlistening⟩
  | @found w task outcome woken m rest worker taken =>
    obtain ⟨-, gone, behind, hqueue, hgone, hrest⟩ := Subscribers.take_some taken
    change n ∈ rest.queue url ∨ _
    rw [hrest]
    by_cases hurl : task.url = url
    · rw [if_pos hurl]
      rw [← hurl, hqueue, List.mem_append, List.mem_cons] at hn
      rcases hn with hn | rfl | hn
      · rw [hgone n hn] at hlistening
        cases hlistening
      · refine Or.inr ⟨w, task, outcome, woken, ?_⟩
        exact List.getElem?_set_self (List.getElem?_eq_some_iff.1 worker).1
      · exact Or.inl hn
    · rw [if_neg hurl]
      exact Or.inl hn
  | @nobody w task outcome woken rest worker taken =>
    obtain ⟨hnone, hrest⟩ := Subscribers.take_none taken
    left
    change n ∈ rest.queue url
    rw [hrest]
    by_cases hurl : task.url = url
    · rw [hnone n (hurl ▸ hn)] at hlistening
      cases hlistening
    · rwa [if_neg hurl]
  | _ => exact Or.inl hn

end Harvest.Pool
