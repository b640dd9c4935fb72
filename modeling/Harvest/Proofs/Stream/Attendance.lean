import Mathlib.Data.Set.Basic
import Mathlib.Order.Bounds.Defs
import Harvest.Proofs.Stream.Subscribers

/-!
# Who waits and who has left

An `Attendance` keeps, beside the subscribers themselves, a record of all who ever came: for which url,
whether they still listen, and whether they were taken out. Whatever has happened, the queues
hold those who are to be awaited, in the order in which they came, and otherwise only some who have hung up
(`Orderly`, `orderly_run`).
-/

namespace Harvest

namespace Subscribers

variable {s : Subscribers} {listening : Nat → Bool} {url other : String} {n : Nat}

/-- No url is kept without a subscriber. -/
def Occupied (s : Subscribers) : Prop :=
  ∀ q ∈ s.waiting, q.2 ≠ []

theorem occupied_empty : empty.Occupied := by
  intro q hq
  cases hq

theorem Occupied.add (s : Subscribers) (listening : Nat → Bool) (url : String) (n : Nat) :
    (s.add listening url n).Occupied := by
  intro q hq
  rcases Fields.mem_insert hq with rfl | hkept
  · simp
  · -- pruning has left out the queues that nobody is in
    simpa using (List.mem_filter.1 hkept).2

theorem Occupied.take (h : s.Occupied) (listening : Nat → Bool) (url : String) :
    (s.take listening url).2.Occupied := by
  unfold Subscribers.take
  split
  · exact h
  · next queue _ =>
    intro q hq
    dsimp only at hq
    split at hq
    · exact h q (List.mem_of_mem_filter hq)
    · next hrest =>
      rcases Fields.mem_insert hq with rfl | hold
      · simpa using hrest
      · exact h q hold

theorem find?_take_of_ne (s : Subscribers) (listening : Nat → Bool) (h : url ≠ other) :
    Fields.find? other (s.take listening url).2.waiting = Fields.find? other s.waiting := by
  unfold take
  split
  · rfl
  · dsimp only
    split
    · rw [Fields.find?_erase, if_neg h]
    · rw [Fields.find?_insert, if_neg h]

theorem queue_take_of_ne (s : Subscribers) (listening : Nat → Bool) (h : url ≠ other) :
    (s.take listening url).2.queue other = s.queue other := by
  rw [queue, find?_take_of_ne s listening h, queue]

/-- A queue is made of those who were removed, the one who was taken out, and those who stay. -/
theorem exists_gone (s : Subscribers) (listening : Nat → Bool) (url : String) : ∃ gone,
    s.queue url = gone ++ ((s.take listening url).1.toList ++ (s.take listening url).2.queue url) ∧
      (∀ n ∈ gone, listening n = false) ∧ (∀ n ∈ (s.take listening url).1, listening n = true) ∧
      ((s.take listening url).1 = none → (s.take listening url).2.queue url = []) := by
  rcases htake : s.take listening url with ⟨found, rest⟩
  cases found with
  | none =>
    obtain ⟨hnone, hrest⟩ := take_none htake
    have hempty : rest.queue url = [] := by rw [hrest, if_pos rfl]
    refine ⟨s.queue url, ?_, hnone, ?_, fun _ => hempty⟩
    · simp [hempty]
    · intro n hn
      cases hn
  | some n =>
    obtain ⟨hn, gone, behind, hqueue, hgone, hrest⟩ := take_some htake
    refine ⟨gone, ?_, hgone, ?_, fun hnone => nomatch hnone⟩
    · simp [hqueue, hrest]
    · rintro m ⟨⟩
      exact hn

theorem queue_take_sublist (s : Subscribers) (listening : Nat → Bool) (url other : String) :
    ((s.take listening url).2.queue other).Sublist (s.queue other) := by
  by_cases h : url = other
  · subst h
    obtain ⟨gone, hqueue, -⟩ := s.exists_gone listening url
    rw [hqueue]
    exact (List.sublist_append_right _ _).trans (List.sublist_append_right _ _)
  · rw [queue_take_of_ne s listening h]

end Subscribers

/-- Subscribers with a record of all who ever came. -/
structure Attendance where
  subscribers : Subscribers
  /-- For which url they came and whether they still listen, by their numbers. -/
  arrivals : List (String × Bool)
  /-- Those who were taken out. -/
  taken : List Nat

namespace Attendance

/-- What can happen to subscribers. -/
inductive Event where
  | add (url : String)
  | take (url : String)
  | hangUp (subscriber : Nat)

/-- Nobody has come yet. -/
def start : Attendance := ⟨.empty, [], []⟩

variable (a : Attendance)

/-- Whether somebody who came still listens. -/
def listening (n : Nat) : Bool :=
  ((a.arrivals[n]?).map Prod.snd).getD false

/-- The attendance after an event. -/
def step : Event → Attendance
  | .add url =>
    { a with
      subscribers := a.subscribers.add a.listening url a.arrivals.length
      arrivals := a.arrivals ++ [(url, true)] }
  | .take url =>
    { a with
      subscribers := (a.subscribers.take a.listening url).2
      taken := a.taken ++ (a.subscribers.take a.listening url).1.toList }
  | .hangUp n => { a with arrivals := a.arrivals.modify n fun arrival => (arrival.1, false) }

/-- The attendance after events one after the other. -/
def run (events : List Event) : Attendance :=
  events.foldl step start

/-- Those who came for a url, still listen and were not taken out. -/
def awaiting (url : String) : Set Nat :=
  {n | a.arrivals[n]? = some (url, true) ∧ n ∉ a.taken}

variable {a}

theorem listening_eq_true_iff {n : Nat} :
    a.listening n = true ↔ ∃ url, a.arrivals[n]? = some (url, true) := by
  unfold listening
  cases a.arrivals[n]? with
  | none => simp
  | some arrival =>
    obtain ⟨url, listens⟩ := arrival
    simp

theorem listening_of_awaiting {url : String} {n : Nat} (h : n ∈ a.awaiting url) : a.listening n = true :=
  listening_eq_true_iff.2 ⟨url, h.1⟩

theorem not_mem_of_awaiting {gone : List Nat} (hgone : ∀ n ∈ gone, a.listening n = false) {url : String}
    {n : Nat} (h : n ∈ a.awaiting url) : n ∉ gone := by
  intro hn
  have hlistens := listening_of_awaiting h
  rw [hgone n hn] at hlistens
  cases hlistens

/-! ## What every event keeps -/

/-- The subscribers agree with the record of those who came. -/
structure Recorded (a : Attendance) : Prop where
  ascending : a.subscribers.Ascending
  occupied : a.subscribers.Occupied
  inOrder : ∀ url, (a.subscribers.queue url).Pairwise (· < ·)
  came : ∀ {url : String} {n : Nat}, n ∈ a.subscribers.queue url →
    (∃ listens, a.arrivals[n]? = some (url, listens)) ∧ n ∉ a.taken
  taken_lt : ∀ n ∈ a.taken, n < a.arrivals.length
  queued : ∀ {url : String} {n : Nat}, n ∈ a.awaiting url → n ∈ a.subscribers.queue url

theorem recorded_start : start.Recorded where
  ascending := Subscribers.ascending_empty
  occupied := Subscribers.occupied_empty
  inOrder _ := List.Pairwise.nil
  came hn := absurd hn List.not_mem_nil
  taken_lt _ hn := absurd hn List.not_mem_nil
  queued hn := nomatch hn.1

namespace Recorded

theorem lt_length (h : a.Recorded) {url : String} {n : Nat} (hn : n ∈ a.subscribers.queue url) :
    n < a.arrivals.length := by
  obtain ⟨⟨listens, hcame⟩, -⟩ := h.came hn
  exact (List.getElem?_eq_some_iff.1 hcame).1

theorem awaiting_of_listening (h : a.Recorded) {url : String} {n : Nat}
    (hn : n ∈ a.subscribers.queue url) (hlistens : a.listening n = true) : n ∈ a.awaiting url := by
  obtain ⟨⟨listens, hcame⟩, htaken⟩ := h.came hn
  obtain ⟨other, hother⟩ := listening_eq_true_iff.1 hlistens
  rw [hcame] at hother
  cases hother
  exact ⟨hcame, htaken⟩

theorem add (h : a.Recorded) (url : String) : (a.step (.add url)).Recorded where
  ascending := h.ascending.add _ _ _
  occupied := Subscribers.Occupied.add _ _ _ _
  inOrder other := by
    change ((a.subscribers.add a.listening url a.arrivals.length).queue other).Pairwise _
    rw [Subscribers.queue_add h.ascending, List.pairwise_append]
    refine ⟨(h.inOrder other).filter _, by split <;> simp, fun n hn m hm => ?_⟩
    have hlt := h.lt_length (List.mem_of_mem_filter hn)
    split at hm
    · rwa [List.mem_singleton.1 hm]
    · cases hm
  came := by
    intro other n hn
    change n ∈ (a.subscribers.add a.listening url a.arrivals.length).queue other at hn
    change (∃ listens, (a.arrivals ++ [(url, true)])[n]? = some (other, listens)) ∧ n ∉ a.taken
    rw [Subscribers.queue_add h.ascending, List.mem_append] at hn
    rcases hn with hold | hnew
    · have hmem := List.mem_of_mem_filter hold
      rw [List.getElem?_append_left (h.lt_length hmem)]
      exact h.came hmem
    · split at hnew
      · next he =>
        obtain rfl := List.mem_singleton.1 hnew
        refine ⟨⟨true, by simp [he]⟩, fun htaken => ?_⟩
        exact Nat.lt_irrefl _ (h.taken_lt _ htaken)
      · cases hnew
  taken_lt n hn := by
    change n < (a.arrivals ++ [(url, true)]).length
    rw [List.length_append]
    exact Nat.lt_add_right _ (h.taken_lt n hn)
  queued := by
    rintro other n ⟨harrival, htaken⟩
    change (a.arrivals ++ [(url, true)])[n]? = some (other, true) at harrival
    change n ∈ (a.subscribers.add a.listening url a.arrivals.length).queue other
    rw [Subscribers.queue_add h.ascending, List.mem_append]
    rcases Nat.lt_or_ge n a.arrivals.length with hlt | hge
    · rw [List.getElem?_append_left hlt] at harrival
      left
      exact List.mem_filter.2 ⟨h.queued ⟨harrival, htaken⟩, listening_eq_true_iff.2 ⟨other, harrival⟩⟩
    · rw [List.getElem?_append_right hge, List.getElem?_singleton] at harrival
      split at harrival
      · next hzero =>
        right
        cases harrival
        rw [if_pos rfl, List.mem_singleton]
        omega
      · cases harrival

/-- Who stays in the queue came after the one who is taken out. -/
theorem lt_of_behind (h : a.Recorded) {url : String} {n m : Nat}
    (hn : (a.subscribers.take a.listening url).1 = some n)
    (hm : m ∈ (a.subscribers.take a.listening url).2.queue url) : n < m := by
  obtain ⟨gone, hqueue, -⟩ := a.subscribers.exists_gone a.listening url
  have horder := h.inOrder url
  rw [hqueue, hn, List.pairwise_append, List.pairwise_append] at horder
  exact horder.2.1.2.2 n (List.mem_singleton_self n) m hm

/-- Who is taken out was in the queue of the url and is in none after that. -/
theorem mem_taken (h : a.Recorded) {url : String} {n : Nat}
    (hn : n ∈ (a.subscribers.take a.listening url).1) :
    n ∈ a.subscribers.queue url ∧ ∀ other, n ∉ (a.subscribers.take a.listening url).2.queue other := by
  obtain ⟨gone, hqueue, -⟩ := a.subscribers.exists_gone a.listening url
  have hfound : (a.subscribers.take a.listening url).1.toList = [n] := by rw [hn]; rfl
  rw [hfound] at hqueue
  have hmem : n ∈ a.subscribers.queue url := by simp [hqueue]
  refine ⟨hmem, fun other hother => ?_⟩
  by_cases he : url = other
  · subst he
    exact Nat.lt_irrefl n (h.lt_of_behind hn hother)
  · -- who came for one url is in the queue of no other
    rw [Subscribers.queue_take_of_ne _ _ he] at hother
    obtain ⟨⟨listens, hcame⟩, -⟩ := h.came hmem
    obtain ⟨⟨listens', hcame'⟩, -⟩ := h.came hother
    rw [hcame] at hcame'
    cases hcame'
    exact he rfl

theorem take (h : a.Recorded) (url : String) : (a.step (.take url)).Recorded where
  ascending := h.ascending.take _ _
  occupied := h.occupied.take _ _
  inOrder other := (h.inOrder other).sublist (Subscribers.queue_take_sublist _ _ _ _)
  came := by
    intro other n hn
    change n ∈ (a.subscribers.take a.listening url).2.queue other at hn
    have hmem := (Subscribers.queue_take_sublist _ _ _ _).subset hn
    refine ⟨(h.came hmem).1, fun htaken => ?_⟩
    rcases List.mem_append.1 htaken with hold | hnew
    · exact (h.came hmem).2 hold
    · exact (h.mem_taken (Option.mem_toList.1 hnew)).2 other hn
  taken_lt n hn := by
    rcases List.mem_append.1 hn with hold | hnew
    · exact h.taken_lt n hold
    · exact h.lt_length (h.mem_taken (Option.mem_toList.1 hnew)).1
  queued := by
    rintro other n ⟨harrival, htaken⟩
    obtain ⟨hold, hnew⟩ := not_or.1 (mt List.mem_append.2 htaken)
    have hqueued : n ∈ a.subscribers.queue other := h.queued ⟨harrival, hold⟩
    change n ∈ (a.subscribers.take a.listening url).2.queue other
    by_cases he : url = other
    · subst he
      obtain ⟨gone, hqueue, hgone, -⟩ := a.subscribers.exists_gone a.listening url
      rw [hqueue, List.mem_append, List.mem_append] at hqueued
      rcases hqueued with hn | hn | hn
      · exact absurd hn (not_mem_of_awaiting hgone ⟨harrival, hold⟩)
      · exact absurd hn hnew
      · exact hn
    · rwa [Subscribers.queue_take_of_ne _ _ he]

theorem hangUp (h : a.Recorded) (m : Nat) : (a.step (.hangUp m)).Recorded where
  ascending := h.ascending
  occupied := h.occupied
  inOrder := h.inOrder
  came := by
    intro url n hn
    obtain ⟨⟨listens, hcame⟩, htaken⟩ := h.came hn
    refine ⟨?_, htaken⟩
    change ∃ listens, (a.arrivals.modify m fun arrival => (arrival.1, false))[n]? = some (url, listens)
    rw [List.getElem?_modify, hcame]
    split
    · exact ⟨false, rfl⟩
    · exact ⟨listens, rfl⟩
  taken_lt n hn := by
    change n < (a.arrivals.modify m fun arrival => (arrival.1, false)).length
    rw [List.length_modify]
    exact h.taken_lt n hn
  queued := by
    rintro url n ⟨harrival, htaken⟩
    change (a.arrivals.modify m fun arrival => (arrival.1, false))[n]? = some (url, true) at harrival
    rw [List.getElem?_modify, Option.map_eq_map, Option.map_eq_some_iff] at harrival
    obtain ⟨before, hbefore, hafter⟩ := harrival
    split at hafter
    · cases hafter
    · obtain rfl : before = (url, true) := hafter
      exact h.queued ⟨hbefore, htaken⟩

theorem step (h : a.Recorded) (event : Event) : (a.step event).Recorded := by
  cases event with
  | add url => exact h.add url
  | take url => exact h.take url
  | hangUp m => exact h.hangUp m

/-- What one event keeps, all of them keep. -/
theorem foldl (h : a.Recorded) (events : List Event) : (events.foldl Attendance.step a).Recorded := by
  induction events generalizing a with
  | nil => exact h
  | cons event events ih => exact ih (h.step event)

end Recorded

/-! ## What this says about the subscribers -/

namespace Recorded

theorem isLeast_of_take (h : a.Recorded) {url : String} {n : Nat}
    (hn : (a.subscribers.take a.listening url).1 = some n) : IsLeast (a.awaiting url) n := by
  obtain ⟨gone, hqueue, hgone, hlistens, -⟩ := a.subscribers.exists_gone a.listening url
  refine ⟨h.awaiting_of_listening (h.mem_taken hn).1 (hlistens n hn), fun m hm => ?_⟩
  have hmem : m ∈ a.subscribers.queue url := h.queued hm
  rw [hqueue, hn, List.mem_append, List.mem_append] at hmem
  rcases hmem with hbefore | hsame | hbehind
  · exact absurd hbefore (not_mem_of_awaiting hgone hm)
  · exact (List.mem_singleton.1 hsame).ge
  · exact (h.lt_of_behind hn hbehind).le

theorem awaiting_of_take_none (h : a.Recorded) {url : String}
    (hnone : (a.subscribers.take a.listening url).1 = none) : a.awaiting url = ∅ := by
  obtain ⟨gone, hqueue, hgone, -, hempty⟩ := a.subscribers.exists_gone a.listening url
  rw [Set.eq_empty_iff_forall_notMem]
  intro m hm
  have hmem : m ∈ a.subscribers.queue url := h.queued hm
  rw [hqueue, hnone, hempty hnone, Option.toList_none, List.append_nil, List.append_nil] at hmem
  exact not_mem_of_awaiting hgone hm hmem

theorem take_eq_some_iff (h : a.Recorded) {url : String} {n : Nat} :
    (a.subscribers.take a.listening url).1 = some n ↔ IsLeast (a.awaiting url) n := by
  constructor
  · exact h.isLeast_of_take
  · intro hleast
    cases hfound : (a.subscribers.take a.listening url).1 with
    | none =>
      have hmem := hleast.1
      rw [h.awaiting_of_take_none hfound] at hmem
      exact absurd hmem (Set.notMem_empty n)
    | some m =>
      have hother := h.isLeast_of_take hfound
      rw [Nat.le_antisymm (hother.2 hleast.1) (hleast.2 hother.1)]

theorem take_eq_none_iff (h : a.Recorded) {url : String} :
    (a.subscribers.take a.listening url).1 = none ↔ a.awaiting url = ∅ := by
  constructor
  · exact h.awaiting_of_take_none
  · intro hempty
    rw [Option.eq_none_iff_forall_ne_some]
    intro n hn
    have hmem := (h.isLeast_of_take hn).1
    rw [hempty] at hmem
    exact Set.notMem_empty n hmem

theorem stays (h : a.Recorded) (event : Event) {url : String} {n : Nat}
    (hn : n ∈ a.subscribers.queue url) (hlistens : a.listening n = true) :
    n ∈ (a.step event).subscribers.queue url ∨
      event = .take url ∧ (a.subscribers.take a.listening url).1 = some n := by
  cases event with
  | add other =>
    left
    change n ∈ (a.subscribers.add a.listening other a.arrivals.length).queue url
    rw [Subscribers.queue_add h.ascending]
    exact List.mem_append_left _ (List.mem_filter.2 ⟨hn, hlistens⟩)
  | take other =>
    have hwaits := h.awaiting_of_listening hn hlistens
    by_cases hfound : (a.subscribers.take a.listening other).1 = some n
    · -- nobody waits for two urls
      have hurl := (h.isLeast_of_take hfound).1.1
      rw [hwaits.1] at hurl
      cases hurl
      exact .inr ⟨rfl, hfound⟩
    · left
      refine (h.take other).queued ⟨hwaits.1, fun htaken => ?_⟩
      rcases List.mem_append.1 htaken with hold | hnew
      · exact hwaits.2 hold
      · exact hfound (Option.mem_toList.1 hnew)
  | hangUp m => exact .inl hn

/-- After somebody was added, nobody is in a queue who has hung up. -/
theorem mem_queue_add_iff (h : a.Recorded) (url other : String) (n : Nat) :
    n ∈ (a.step (.add url)).subscribers.queue other ↔ n ∈ (a.step (.add url)).awaiting other := by
  constructor
  · intro hn
    refine (h.add url).awaiting_of_listening hn ?_
    change n ∈ (a.subscribers.add a.listening url a.arrivals.length).queue other at hn
    rw [Subscribers.queue_add h.ascending, List.mem_append] at hn
    rw [listening_eq_true_iff]
    change ∃ url', (a.arrivals ++ [(url, true)])[n]? = some (url', true)
    rcases hn with hold | hnew
    · obtain ⟨hmem, hlistens⟩ := List.mem_filter.1 hold
      rw [List.getElem?_append_left (h.lt_length hmem)]
      exact listening_eq_true_iff.1 hlistens
    · split at hnew
      · obtain rfl := List.mem_singleton.1 hnew
        exact ⟨url, by simp⟩
      · cases hnew
  · exact (h.add url).queued

end Recorded

/-- The laws of adding and taking out. -/
structure Orderly (a : Attendance) : Prop where
  /-- No url is kept without a subscriber. -/
  occupied : ∀ q ∈ a.subscribers.waiting, q.2 ≠ []
  /-- The first of those who are to be awaited is taken out, if there is one. -/
  take_eq_some_iff : ∀ url n,
    (a.subscribers.take a.listening url).1 = some n ↔ IsLeast (a.awaiting url) n
  take_eq_none_iff : ∀ url, (a.subscribers.take a.listening url).1 = none ↔ a.awaiting url = ∅
  /-- Before that one only those are removed who have hung up. -/
  take_removes : ∀ url, ∃ gone,
    a.subscribers.queue url = gone ++ ((a.subscribers.take a.listening url).1.toList ++
      (a.subscribers.take a.listening url).2.queue url) ∧ ∀ n ∈ gone, a.listening n = false
  take_elsewhere : ∀ url other, url ≠ other →
    Fields.find? other (a.subscribers.take a.listening url).2.waiting =
      Fields.find? other a.subscribers.waiting
  /-- Everybody who has hung up makes room for the one who comes. -/
  queue_add : ∀ url n other, (a.subscribers.add a.listening url n).queue other =
    (a.subscribers.queue other).filter a.listening ++ if url = other then [n] else []
  /-- Who listens stays, unless taken out. -/
  stays : ∀ event url n, n ∈ a.subscribers.queue url → a.listening n = true →
    n ∈ (a.step event).subscribers.queue url ∨
      event = .take url ∧ (a.subscribers.take a.listening url).1 = some n
  /-- After somebody was added, the queues hold exactly those who are to be awaited, in order. -/
  exact_add : ∀ url other, (∀ n, n ∈ (a.step (.add url)).subscribers.queue other ↔
      n ∈ (a.step (.add url)).awaiting other) ∧
    ((a.step (.add url)).subscribers.queue other).Pairwise (· < ·)

/-- **Subscribers are kept in order.** Whatever has happened, everybody who listens waits in the
queue of their url until taken out, and is taken out in turn. -/
theorem orderly_run (events : List Event) : (run events).Orderly := by
  have h : (run events).Recorded := recorded_start.foldl events
  exact
    { occupied := h.occupied
      take_eq_some_iff := fun _ _ => h.take_eq_some_iff
      take_eq_none_iff := fun _ => h.take_eq_none_iff
      take_removes := fun url => by
        obtain ⟨gone, hqueue, hgone, -⟩ := (run events).subscribers.exists_gone (run events).listening url
        exact ⟨gone, hqueue, hgone⟩
      take_elsewhere := fun _ _ hne => Subscribers.find?_take_of_ne _ _ hne
      queue_add := fun url n other => Subscribers.queue_add h.ascending _ url n other
      stays := fun event _ _ => h.stays event
      exact_add := fun url other => ⟨h.mem_queue_add_iff url other, (h.add url).inOrder other⟩ }

end Attendance

end Harvest
