import Mathlib.Data.Set.Basic
import Mathlib.Order.Bounds.Defs
import Harvest.Proofs.Stream.Queues

/-!
# Whose turn it is

A subscriber who listens is in the queue of the url, or a worker has taken out the subscriber and is
about to send an outcome (`Seated`). The queues are in the order of subscription, so whoever is taken out
is the first of those who listen and have not been taken out by another worker (`Seated.turn`).
-/

namespace Harvest.Pool

variable {σ : Type} {s : Scraper σ} {p q : Pool σ} {e : PoolStep σ}

/-- The subscribers of a url who listen and whom no worker has taken out. -/
def awaiting (p : Pool σ) (url : String) : Set Nat :=
  {n | p.subscriptions[n]? = some ⟨url, .listening⟩ ∧ ∀ w task, ¬ p.Holds w task n}

/-! ## Where subscribers are -/

/-- Where subscribers are: in the queue of their url, in the order of subscription, or with a worker. -/
structure Seated (p : Pool σ) : Prop where
  inOrder : ∀ url, (p.subscribers.queue url).Pairwise (· < ·)
  queued : ∀ {url : String} {n : Nat}, n ∈ p.subscribers.queue url →
    ∃ status, p.subscriptions[n]? = some ⟨url, status⟩
  held : ∀ {w : Nat} {task : Task} {n : Nat}, p.Holds w task n →
    (∃ status, p.subscriptions[n]? = some ⟨task.url, status⟩) ∧
      ∀ url, n ∉ p.subscribers.queue url
  alone : ∀ {v w : Nat} {task other : Task} {n : Nat}, p.Holds v task n → p.Holds w other n → v = w
  heard : ∀ {url : String} {n : Nat}, p.subscriptions[n]? = some ⟨url, .listening⟩ →
    n ∈ p.subscribers.queue url ∨ ∃ w task, p.Holds w task n

namespace Seated

theorem of_start (patience : Patience) (workers : Nat) (scraping : σ) :
    (startWith patience workers scraping).Seated := by
  have hidle : ∀ w task n, ¬ (startWith patience workers scraping).Holds w task n := by
    rintro w task n ⟨outcome, woken, hw⟩
    cases List.eq_of_mem_replicate (List.mem_of_getElem? hw)
  exact
    { inOrder := fun _ => List.Pairwise.nil
      queued := fun hn => absurd hn List.not_mem_nil
      held := fun hw => absurd hw (hidle _ _ _)
      alone := fun hw => absurd hw (hidle _ _ _)
      heard := fun hn => nomatch hn }

theorem lt_of_queued (hp : p.Seated) {url : String} {n : Nat} (hn : n ∈ p.subscribers.queue url) :
    n < p.subscriptions.length := by
  obtain ⟨status, hstatus⟩ := hp.queued hn
  exact (List.getElem?_eq_some_iff.1 hstatus).1

theorem inOrder_step (hp : p.Seated) (hasc : p.subscribers.Ascending) (h : Change s p e q)
    (url : String) :
    (q.subscribers.queue url).Pairwise (· < ·) := by
  cases h with
  | @subscribe url' =>
    change ((p.subscribers.add p.listening url' p.subscriptions.length).queue url).Pairwise _
    rw [Subscribers.queue_add hasc, List.pairwise_append]
    refine ⟨(hp.inOrder url).filter _, by split <;> simp, fun m hm k hk => ?_⟩
    have hlt := hp.lt_of_queued (List.mem_of_mem_filter hm)
    split at hk
    · rwa [List.mem_singleton.1 hk]
    · cases hk
  | @found w task outcome woken m rest worker taken =>
    obtain ⟨-, gone, behind, hqueue, -, hrest⟩ := Subscribers.take_some taken
    change (rest.queue url).Pairwise _
    rw [hrest]
    split
    · have hold := hp.inOrder task.url
      rw [hqueue] at hold
      exact (List.pairwise_cons.1 (List.pairwise_append.1 hold).2.1).2
    · exact hp.inOrder url
  | @nobody w task outcome woken rest worker taken =>
    obtain ⟨-, hrest⟩ := Subscribers.take_none taken
    change (rest.queue url).Pairwise _
    rw [hrest]
    split
    · exact List.Pairwise.nil
    · exact hp.inOrder url
  | _ => exact hp.inOrder url

/-- Who is taken out is in the queue before, and in no queue after. -/
theorem taken (hp : p.Seated) {url : String} {n : Nat} {rest : Subscribers}
    (h : p.subscribers.take p.listening url = (some n, rest)) :
    n ∈ p.subscribers.queue url ∧ ∀ other, n ∉ rest.queue other := by
  obtain ⟨-, gone, behind, hqueue, -, hrest⟩ := Subscribers.take_some h
  have hn : n ∈ p.subscribers.queue url := by
    rw [hqueue]
    exact List.mem_append_right _ List.mem_cons_self
  refine ⟨hn, fun other hother => ?_⟩
  rw [hrest] at hother
  split at hother
  · have hold := hp.inOrder url
    rw [hqueue] at hold
    exact lt_irrefl n ((List.pairwise_cons.1 (List.pairwise_append.1 hold).2.1).1 n hother)
  · next hne =>
    -- a subscriber has one url
    obtain ⟨status, hs⟩ := hp.queued hn
    obtain ⟨status', hs'⟩ := hp.queued hother
    rw [hs] at hs'
    cases hs'
    exact hne rfl

theorem step (hp : p.Seated) (hasc : p.subscribers.Ascending) (h : Change s p e q) : q.Seated where
  inOrder := hp.inOrder_step hasc h
  queued := by
    intro url n hn
    rcases h.queue_before hasc hn with hn | ⟨rfl, rfl⟩
    · obtain ⟨status, hstatus⟩ := hp.queued hn
      obtain ⟨after, hafter, -⟩ := h.subscription_kept hstatus
      exact ⟨after, hafter⟩
    · cases h
      exact ⟨.listening, by rw [getElem?_subscribe, if_pos rfl]⟩
  held := by
    intro w task n hw
    have hurl : ∀ {url}, (∃ status, p.subscriptions[n]? = some ⟨url, status⟩) →
        ∃ status, q.subscriptions[n]? = some ⟨url, status⟩ := by
      rintro url ⟨status, hstatus⟩
      obtain ⟨after, hafter, -⟩ := h.subscription_kept hstatus
      exact ⟨after, hafter⟩
    rcases h.holds_before hw with hw | ⟨rfl, htake⟩
    · obtain ⟨hstatus, hqueue⟩ := hp.held hw
      refine ⟨hurl hstatus, fun url hn => ?_⟩
      rcases h.queue_before hasc hn with hn | ⟨-, rfl⟩
      · exact hqueue url hn
      · obtain ⟨status, hstatus⟩ := hstatus
        exact absurd (List.getElem?_eq_some_iff.1 hstatus).1 (lt_irrefl _)
    · obtain ⟨hn, hgone⟩ := hp.taken htake
      exact ⟨hurl (hp.queued hn), hgone⟩
  alone := by
    intro v w task other n hv hw
    rcases h.holds_before hv with hv | ⟨he, hvtake⟩
    · rcases h.holds_before hw with hw | ⟨he, hwtake⟩
      · exact hp.alone hv hw
      · exact absurd (hp.taken hwtake).1 ((hp.held hv).2 _)
    · rcases h.holds_before hw with hw | ⟨he', hwtake⟩
      · exact absurd (hp.taken hvtake).1 ((hp.held hw).2 _)
      · cases he.symm.trans he'
        rfl
  heard := by
    intro url n hn
    have hlistening : q.listening n = true := listening_eq_true.2 ⟨url, hn⟩
    rcases h.listening_before hlistening with hbefore | ⟨url', rfl, rfl⟩
    · obtain ⟨url', hold⟩ := listening_eq_true.1 hbefore
      obtain ⟨after, hafter, -⟩ := h.subscription_kept hold
      rw [hn] at hafter
      cases hafter
      rcases hp.heard hold with hqueue | ⟨w, task, hw⟩
      · exact h.queue_kept hasc hqueue hbefore
      · refine Or.inr ⟨w, task, (h.holds_kept hw).resolve_right fun hquiet => ?_⟩
        rw [hlistening] at hquiet
        cases hquiet
    · cases h
      rw [getElem?_subscribe, if_pos rfl] at hn
      cases hn
      left
      change _ ∈ (p.subscribers.add p.listening url p.subscriptions.length).queue url
      rw [Subscribers.queue_add hasc, if_pos rfl]
      exact List.mem_append_right _ List.mem_cons_self

theorem of_follow {patience : Patience} {workers : Nat} {scraping : σ} {steps : List (PoolStep σ)}
    (h : (startWith patience workers scraping).follow? s steps = some p) : p.Seated :=
  follow?_induction (motive := fun _ p => p.Seated) (of_start patience workers scraping)
    (fun _ _ _ _ hsteps hq hchange => hq.step (ascending_follow hsteps) hchange) h

/-! ## Who is next -/

/-- Who awaits an outcome of a url is in the queue of the url. -/
theorem queued_of_awaiting (hp : p.Seated) {url : String} {n : Nat} (hn : n ∈ p.awaiting url) :
    n ∈ p.subscribers.queue url ∧ p.listening n = true := by
  obtain ⟨hlistening, hfree⟩ := hn
  refine ⟨(hp.heard hlistening).resolve_right ?_, listening_eq_true.2 ⟨url, hlistening⟩⟩
  rintro ⟨w, task, hw⟩
  exact hfree w task hw

/-- Who is taken out is the first of those who await an outcome. -/
theorem turn (hp : p.Seated) {url : String} {n : Nat} {rest : Subscribers}
    (h : p.subscribers.take p.listening url = (some n, rest)) : IsLeast (p.awaiting url) n := by
  obtain ⟨hlistening, gone, behind, hqueue, hgone, -⟩ := Subscribers.take_some h
  have hn := (hp.taken h).1
  constructor
  · obtain ⟨url', hstatus⟩ := listening_eq_true.1 hlistening
    obtain ⟨status, hstatus'⟩ := hp.queued hn
    rw [hstatus] at hstatus'
    cases hstatus'
    exact ⟨hstatus, fun w task hw => (hp.held hw).2 _ hn⟩
  · intro m hm
    obtain ⟨hm, hmlistening⟩ := hp.queued_of_awaiting hm
    have hold := hp.inOrder url
    rw [hqueue] at hm hold
    rcases List.mem_append.1 hm with hm | hm
    · rw [hgone m hm] at hmlistening
      cases hmlistening
    · rcases List.mem_cons.1 hm with rfl | hm
      · exact le_rfl
      · exact ((List.pairwise_cons.1 (List.pairwise_append.1 hold).2.1).1 m hm).le

theorem no_turn (hp : p.Seated) {url : String} {rest : Subscribers}
    (h : p.subscribers.take p.listening url = (none, rest)) : p.awaiting url = ∅ := by
  rw [Set.eq_empty_iff_forall_notMem]
  intro m hm
  obtain ⟨hm, hlistening⟩ := hp.queued_of_awaiting hm
  rw [(Subscribers.take_none h).1 m hm] at hlistening
  cases hlistening

end Seated

end Harvest.Pool
