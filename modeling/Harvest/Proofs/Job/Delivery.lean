import Mathlib.Data.List.Induction
import Harvest.Job.Channel
import Harvest.Proofs.Job.Outlet
import Harvest.Proofs.Job.Rows
import Harvest.Proofs.Job.Succession

/-!
# Records on their way

The records of a traversal go through a channel, and the consumer may take them out at any pace and hang up
at any time. `Delivery.Change` lists what can happen, and `Delivery.Orderly` is what stays true: what has
been received, what lies in the channel and what was discarded are the records sent so far, in their order,
and all of them are counted but at most one. A consumer that does not hang up gets them all, in a number of
steps that does not depend on the order of the steps (`Delivery.Orderly.remaining_of_listening`).
-/

namespace Harvest

/-- The record that a producer has a place for. -/
def Producer.held {α : Type} : Producer α → List α
  | .holding record => [record]
  | _ => []

/-- Whether a producer is in the middle of sending a record. -/
def Producer.isSending {α : Type} : Producer α → Bool
  | .holding _ => true
  | .sent => true
  | _ => false

/-- How many records a producer has sent and not counted. -/
def Producer.uncounted {α : Type} : Producer α → Nat
  | .sent => 1
  | _ => 0

/-- How many more steps a producer takes before it reserves the next place or has ended; the record that it
holds will take one more to be received. -/
def Producer.remaining {α : Type} : Producer α → Nat
  | .ready => 1
  | .holding _ => 4
  | .sent => 2
  | .ended => 0

namespace Delivery

variable {α : Type} {d e : Delivery α} {s : DeliveryStep} {records : List α} {sends : Nat}

/-! ## Changes -/

/-- What a step leads to. -/
inductive Change (d : Delivery α) : DeliveryStep → Delivery α → Prop where
  | reserve {record : α} {more : List α} (ready : d.producer = .ready)
    (source : d.source = record :: more) (listening : d.listening = true)
    (room : d.buffer.length < channelCapacity) :
    Change d .reserve { d with source := more, producer := .holding record }
  | push {record : α} (holding : d.producer = .holding record) (listening : d.listening = true) :
    Change d .push { d with producer := .sent, buffer := d.buffer ++ [record] }
  | discard {record : α} (holding : d.producer = .holding record) (gone : d.listening = false) :
    Change d .push { d with producer := .sent, discarded := d.discarded ++ [record] }
  | count (sent : d.producer = .sent) :
    Change d .count { d with producer := .ready, counted := d.counted + 1 }
  | giveUp (ready : d.producer = .ready) (gone : d.listening = false) :
    Change d .giveUp { d with producer := .ended }
  | finish (ready : d.producer = .ready) (source : d.source = []) :
    Change d .finish { d with producer := .ended }
  | receive {record : α} {more : List α} (front : d.buffer = record :: more)
    (listening : d.listening = true) :
    Change d .receive { d with buffer := more, received := d.received ++ [record] }
  | hangUp (listening : d.listening = true) :
    Change d .hangUp
      { d with listening := false, buffer := [], discarded := d.discarded ++ d.buffer }

theorem change_of_step? (h : d.step? s = some e) : Change d s e := by
  cases s <;> simp only [step?] at h <;> split at h
  · next hready hsource =>
    split at h
    · next hroom =>
      cases h
      simp only [Bool.and_eq_true, decide_eq_true_eq] at hroom
      exact .reserve hready hsource hroom.1 hroom.2
    · cases h
  · cases h
  · next hholding =>
    split at h
    · next hlistening =>
      cases h
      exact .push hholding hlistening
    · next hgone =>
      cases h
      exact .discard hholding (Bool.eq_false_iff.2 hgone)
  · cases h
  · next hsent =>
    cases h
    exact .count hsent
  · cases h
  · next hready hsource =>
    split at h
    · cases h
    · next hgone =>
      cases h
      exact .giveUp hready (Bool.eq_false_iff.2 hgone)
  · cases h
  · next hready hsource =>
    cases h
    exact .finish hready hsource
  · cases h
  · next hfront =>
    split at h
    · next hlistening =>
      cases h
      exact .receive hfront hlistening
    · cases h
  · cases h
  · next hlistening =>
    cases h
    exact .hangUp hlistening
  · cases h

/-! ## Lists of steps -/

/-- The state after steps one after the other, if all of them are possible. -/
def follow? : Delivery α → List DeliveryStep → Option (Delivery α)
  | d, [] => some d
  | d, s :: more => (d.step? s).bind fun e => follow? e more

theorem follow?_append (steps more : List DeliveryStep) :
    d.follow? (steps ++ more) = (d.follow? steps).bind fun e => e.follow? more := by
  induction steps generalizing d with
  | nil => rfl
  | cons s rest ih =>
    rw [List.cons_append, follow?, follow?, Option.bind_assoc]
    exact congrArg _ (funext fun e => ih)

/-- What holds of a state and is kept by every change holds after all steps. -/
theorem follow?_induction {motive : List DeliveryStep → Delivery α → Prop} (start : motive [] d)
    (step : ∀ steps e s f, motive steps e → Change e s f → motive (steps ++ [s]) f)
    {steps : List DeliveryStep} (h : d.follow? steps = some e) : motive steps e := by
  induction steps using List.reverseRecOn generalizing e with
  | nil =>
    cases h
    exact start
  | append_singleton before s ih =>
    rw [follow?_append] at h
    obtain ⟨mid, hmid, hlast⟩ := Option.bind_eq_some_iff.1 h
    obtain ⟨_, hstep, hnil⟩ := Option.bind_eq_some_iff.1 hlast
    cases hnil
    exact step before mid s _ (ih hmid) (change_of_step? hstep)

/-! ## What stays true -/

/-- Of the records, so many were sent. They have been received, lie in the channel or were discarded, in
their order, and the producer has still to send the others. -/
structure Orderly (records : List α) (sends : Nat) (d : Delivery α) : Prop where
  order : d.received ++ d.buffer ++ d.discarded ++ (d.producer.held ++ d.source) = records
  sent : (d.received ++ d.buffer ++ d.discarded).length = sends
  counted : d.counted + d.producer.uncounted = sends
  room : d.buffer.length + d.producer.held.length ≤ channelCapacity
  kept : d.listening = true → d.discarded = []
  dropped : d.listening = false → d.buffer = []
  finished : d.listening = true → d.producer = .ended → d.source = []

theorem orderly_start (records : List α) : Orderly records 0 (start records) :=
  ⟨rfl, rfl, rfl, Nat.zero_le _, fun _ => rfl, nofun, fun _ => nofun⟩

theorem Orderly.step (h : Orderly records sends d) (hs : Change d s e) :
    Orderly records (sends + [s].count .push) e := by
  obtain ⟨source, producer, buffer, received, discarded, listening, counted⟩ := d
  obtain ⟨horder, hsent, hcounted, hroom, hkept, hdropped, hfinished⟩ := h
  dsimp only at horder hsent hcounted hroom hkept hdropped hfinished
  cases hs with
  | reserve ready hsource hlistening hplace =>
    dsimp only at ready hsource hlistening hplace
    subst ready hsource hlistening
    exact ⟨horder, hsent, hcounted, hplace, hkept, nofun, fun _ => nofun⟩
  | push holding hlistening =>
    dsimp only at holding hlistening
    subst holding hlistening
    obtain rfl := hkept rfl
    refine ⟨?_, ?_, congrArg (· + 1) hcounted, ?_, fun _ => rfl, nofun, fun _ => nofun⟩
    · simpa [Producer.held] using horder
    · simpa [← Nat.add_assoc] using hsent
    · simpa [Producer.held] using hroom
  | discard holding gone =>
    dsimp only at holding gone
    subst holding gone
    obtain rfl := hdropped rfl
    refine ⟨?_, ?_, congrArg (· + 1) hcounted, Nat.zero_le _, nofun, fun _ => rfl, nofun⟩
    · simpa [Producer.held] using horder
    · simpa [← Nat.add_assoc] using hsent
  | count sent =>
    dsimp only at sent
    subst sent
    exact ⟨horder, hsent, hcounted, hroom, hkept, hdropped, fun _ => nofun⟩
  | giveUp ready gone =>
    dsimp only at ready gone
    subst ready gone
    exact ⟨horder, hsent, hcounted, hroom, hkept, hdropped, nofun⟩
  | finish ready hsource =>
    dsimp only at ready hsource
    subst ready hsource
    exact ⟨horder, hsent, hcounted, hroom, hkept, hdropped, fun _ _ => rfl⟩
  | receive front hlistening =>
    dsimp only at front hlistening
    subst front hlistening
    refine ⟨?_, ?_, hcounted, ?_, hkept, nofun, hfinished⟩
    · simpa using horder
    · simpa using hsent
    · rw [List.length_cons] at hroom
      dsimp only
      omega
  | hangUp hlistening =>
    dsimp only at hlistening
    subst hlistening
    obtain rfl := hkept rfl
    refine ⟨?_, ?_, hcounted, ?_, nofun, fun _ => rfl, nofun⟩
    · simpa using horder
    · simpa using hsent
    · exact Nat.le_trans (Nat.add_le_add_right (Nat.zero_le _) _) hroom

theorem orderly_follow {steps : List DeliveryStep} (h : (start records).follow? steps = some d) :
    Orderly records (steps.count .push) d := by
  refine follow?_induction (motive := fun steps d => Orderly records (steps.count .push) d)
    (orderly_start records) ?_ h
  intro steps e s f he hs
  rw [List.count_append]
  exact he.step hs

namespace Orderly

variable (h : Orderly records sends d)
include h

/-- What was sent is the first part of the records. -/
theorem take_eq : d.received ++ d.buffer ++ d.discarded = records.take sends := by
  rw [← h.order]
  exact (List.take_left' h.sent).symm

theorem le_length : sends ≤ records.length := by
  have hlength := congrArg List.length h.order
  rw [List.length_append, h.sent] at hlength
  omega

theorem counted_cases : d.counted = sends ∨ d.producer = .sent ∧ d.counted + 1 = sends := by
  have hcounted := h.counted
  cases hproducer : d.producer with
  | sent =>
    rw [hproducer] at hcounted
    exact Or.inr ⟨rfl, hcounted⟩
  | _ =>
    rw [hproducer] at hcounted
    exact Or.inl hcounted

end Orderly

/-! ## After the consumer has hung up -/

/-- Once the consumer has hung up, no place is reserved any more. -/
theorem Change.gone (hs : Change d s e) (hgone : d.listening = false) :
    e.listening = false ∧ d.counted ≤ e.counted ∧
      e.counted + e.producer.isSending.toNat = d.counted + d.producer.isSending.toNat := by
  cases hs with
  | reserve _ _ hlistening | push _ hlistening | receive _ hlistening | hangUp hlistening =>
    rw [hgone] at hlistening
    cases hlistening
  | count holding =>
    rw [holding]
    exact ⟨hgone, Nat.le_succ _, rfl⟩
  | discard holding | giveUp holding | finish holding =>
    rw [holding]
    exact ⟨hgone, Nat.le_refl _, rfl⟩

theorem counted_of_gone {steps : List DeliveryStep} (hgone : d.listening = false)
    (h : d.follow? steps = some e) :
    d.counted ≤ e.counted ∧ e.counted ≤ d.counted + d.producer.isSending.toNat := by
  have hall : e.listening = false ∧ d.counted ≤ e.counted ∧
      e.counted + e.producer.isSending.toNat = d.counted + d.producer.isSending.toNat := by
    refine follow?_induction (motive := fun _ e => e.listening = false ∧ d.counted ≤ e.counted ∧
      e.counted + e.producer.isSending.toNat = d.counted + d.producer.isSending.toNat)
      ⟨hgone, Nat.le_refl _, rfl⟩ ?_ h
    intro _ e s f ⟨hgone, hle, hcounted⟩ hs
    obtain ⟨hgone', hle', hcounted'⟩ := hs.gone hgone
    exact ⟨hgone', Nat.le_trans hle hle', hcounted'.trans hcounted⟩
  omega

/-- Only a record that was being sent when the consumer hung up may still be counted. -/
theorem counted_after_hangUp {before after : List DeliveryStep} {f : Delivery α}
    (h : d.follow? (before ++ .hangUp :: after) = some e) (hf : d.follow? before = some f) :
    e.counted ≤ f.counted + 1 ∧ (f.producer.isSending = false → e.counted = f.counted) := by
  rw [follow?_append, hf, Option.bind_some, follow?] at h
  obtain ⟨g, hstep, hrest⟩ := Option.bind_eq_some_iff.1 h
  have hbounds : f.counted ≤ e.counted ∧ e.counted ≤ f.counted + f.producer.isSending.toNat := by
    cases change_of_step? hstep with
    | hangUp => exact counted_of_gone (d := { f with listening := false, buffer := [], discarded := _ }) rfl hrest
  refine ⟨Nat.le_trans hbounds.2 (Nat.add_le_add_left (Bool.toNat_le _) _), fun hquiet => ?_⟩
  rw [hquiet] at hbounds
  exact Nat.le_antisymm hbounds.2 hbounds.1

/-! ## Until the consumer has all records -/

/-- How many steps are left if the consumer does not hang up. -/
def remaining (d : Delivery α) : Nat :=
  4 * d.source.length + d.producer.remaining + d.buffer.length

/-- While the consumer listens, every step brings the end nearer by one. -/
theorem Change.remaining (hs : Change d s e) (hlistening : d.listening = true) (hne : s ≠ .hangUp) :
    e.listening = true ∧ e.remaining + 1 = d.remaining := by
  unfold Delivery.remaining
  cases hs with
  | reserve ready hsource =>
    rw [ready, hsource]
    exact ⟨hlistening, by simp [Producer.remaining]; omega⟩
  | push holding =>
    rw [holding]
    exact ⟨hlistening, by simp [Producer.remaining]; omega⟩
  | discard _ gone | giveUp _ gone =>
    rw [hlistening] at gone
    cases gone
  | count sent =>
    rw [sent]
    exact ⟨hlistening, by simp [Producer.remaining]; omega⟩
  | finish ready hsource =>
    rw [ready, hsource]
    exact ⟨hlistening, by simp [Producer.remaining]; omega⟩
  | receive front =>
    rw [front]
    exact ⟨hlistening, by simp; omega⟩
  | hangUp => exact absurd rfl hne

theorem remaining_follow {steps : List DeliveryStep} (hlistening : d.listening = true)
    (hstays : .hangUp ∉ steps) (h : d.follow? steps = some e) :
    e.listening = true ∧ steps.length + e.remaining = d.remaining := by
  revert hstays
  refine follow?_induction (motive := fun steps e => .hangUp ∉ steps →
    e.listening = true ∧ steps.length + e.remaining = d.remaining) ?_ ?_ h
  · exact fun _ => ⟨hlistening, Nat.zero_add _⟩
  · intro steps e s f ih hs hstays
    rw [List.mem_append, not_or, List.mem_singleton] at hstays
    obtain ⟨hlistens, hlength⟩ := ih hstays.1
    obtain ⟨hlistens', hremaining⟩ := hs.remaining hlistens (Ne.symm hstays.2)
    refine ⟨hlistens', ?_⟩
    rw [List.length_append, List.length_singleton]
    omega

/-- A consumer that listens is not left waiting: there is a step for it or for the producer. -/
theorem step_of_not_drained (hlistening : d.listening = true) (hdrained : d.isDrained = false) :
    ∃ s, s ≠ .hangUp ∧ (d.step? s).isSome = true := by
  have hreceive : d.buffer ≠ [] → ∃ s, s ≠ .hangUp ∧ (d.step? s).isSome = true := by
    intro hne
    obtain ⟨record, more, hbuffer⟩ := List.exists_cons_of_ne_nil hne
    exact ⟨.receive, nofun, by simp [step?, hbuffer, hlistening]⟩
  cases hproducer : d.producer with
  | holding record => exact ⟨.push, nofun, by simp [step?, hproducer, hlistening]⟩
  | sent => exact ⟨.count, nofun, by simp [step?, hproducer]⟩
  | ended =>
    refine hreceive fun hbuffer => ?_
    rw [isDrained, hproducer, hbuffer] at hdrained
    cases hdrained
  | ready =>
    cases hsource : d.source with
    | nil => exact ⟨.finish, nofun, by simp [step?, hproducer, hsource]⟩
    | cons record more =>
      by_cases hroom : d.buffer.length < channelCapacity
      · exact ⟨.reserve, nofun, by simp [step?, hproducer, hsource, hlistening, hroom]⟩
      · refine hreceive fun hbuffer => hroom ?_
        rw [hbuffer]
        exact Nat.succ_pos 15

namespace Orderly

variable (h : Orderly records sends d) (hlistening : d.listening = true)
include h hlistening

/-- A consumer that still listens is told that no record will come exactly when no step is left. -/
theorem isDrained_iff : d.isDrained = true ↔ d.remaining = 0 := by
  have hfinished := h.finished hlistening
  unfold isDrained Delivery.remaining
  cases hproducer : d.producer with
  | ended =>
    have hsource := hfinished hproducer
    rw [hsource]
    simp [Producer.remaining]
  | _ => simp [Producer.remaining]

/-- A consumer that listens to the end has all records. -/
theorem received_of_drained (hdrained : d.isDrained = true) :
    d.received = records ∧ d.counted = records.length := by
  have hkept := h.kept hlistening
  have hremaining := (h.isDrained_iff hlistening).1 hdrained
  unfold Delivery.remaining at hremaining
  have hsource : d.source = [] := List.eq_nil_of_length_eq_zero (by omega)
  have hbuffer : d.buffer = [] := List.eq_nil_of_length_eq_zero (by omega)
  have horder := h.order
  have hsent := h.sent
  have hcounted := h.counted
  cases hproducer : d.producer with
  | ended =>
    rw [hkept, hbuffer, hproducer, hsource] at horder
    rw [hkept, hbuffer] at hsent
    rw [hproducer] at hcounted
    simp only [Producer.held, List.append_nil] at horder hsent
    exact ⟨horder, hcounted.trans (by rw [← hsent, horder])⟩
  | _ =>
    rw [hproducer] at hremaining
    simp [Producer.remaining] at hremaining

end Orderly

end Delivery

/-! ## Traversals and their consumers -/

namespace Job

/-- The traversal of a run that collects its records. -/
def traversal (j : Job) (schema : Schema) : Traversal (Array Record) :=
  ⟨j.client, schema, j.stopOn, j.childDelay, keepAll⟩

/-- Where the traversal of a run begins. -/
def beginning (s : JobState) : Progress (Array Record) :=
  ⟨s.history, s.registry, 0, s.total, s.waited, #[]⟩

/-- A run gives the records of its traversal. -/
theorem scrape_eq_records {j : Job} {s s' : JobState} {schema : Schema} {page : WebPage}
    (h : j.opened s = (.ok (schema, page), s')) :
    (j.scrape s).1 = .ok ((j.traversal schema).records page (beginning s')) := by
  rw [scrape, scrapeInto_eq, h]
  rfl

end Job

/-- **No record is lost, repeated or miscounted on its way.** A traversal hands over the same records
whatever becomes of them, and its outlet gets them up to the first that it refuses. Through a channel, in
whatever order the producer and the consumer take their steps, the consumer has received the first records
sent, the next lie in the channel or were discarded when the consumer hung up, and all are counted but at
most the one just sent. After the consumer has hung up, only a record that was being sent then may still be
counted. A consumer that does not hang up is never left waiting, and after four steps for each record and
one more it has them all. A run that collects its records is such a consumer, so that over several runs the
records are counted that the runs have given. -/
theorem delivered_in_order {ω : Type} (t : Traversal ω) (page : WebPage) (p : Progress ω)
    {steps : List DeliveryStep} {d : Delivery Record}
    (h : (Delivery.start (t.records page p)).follow? steps = some d) :
    let records := t.records page p
    let sends := steps.count .push
    ((t.run page p).sink = (t.outlet.feed p.sink records).2 ∧
      (t.run page p).total = p.total + (t.outlet.feed p.sink records).1) ∧
    (d.received ++ d.buffer ++ d.discarded = records.take sends ∧ sends ≤ records.length ∧
      (d.listening = true → d.discarded = []) ∧ (d.listening = false → d.buffer = [])) ∧
    d.buffer.length ≤ 16 ∧
    (d.counted = sends ∨ d.producer = .sent ∧ d.counted + 1 = sends) ∧
    (∀ before after e, steps = before ++ .hangUp :: after →
      (Delivery.start records).follow? before = some e →
        d.counted ≤ e.counted + 1 ∧ (e.producer.isSending = false → d.counted = e.counted)) ∧
    (d.isDrained = true → d.listening = true →
      d.received = records ∧ d.counted = records.length) ∧
    (.hangUp ∉ steps → steps.length ≤ 4 * records.length + 1 ∧
      (d.isDrained = true ↔ steps.length = 4 * records.length + 1) ∧
      (d.isDrained = false → ∃ s, s ≠ .hangUp ∧ (d.step? s).isSome = true)) ∧
    (∀ (j : Job) s s' schema page, j.opened s = (.ok (schema, page), s') →
      (j.scrape s).1 = .ok ((j.traversal schema).records page (Job.beginning s'))) ∧
    (∀ (j : Job) n s, (j.scrapes n s).2.total = s.total + ((j.scrapes n s).1.map Job.yielded).sum) := by
  intro records sends
  have horderly : Delivery.Orderly records sends d := Delivery.orderly_follow h
  refine ⟨t.run_feeds page p, ⟨horderly.take_eq, horderly.le_length, horderly.kept, horderly.dropped⟩,
    Nat.le_trans (Nat.le_add_right _ _) horderly.room, horderly.counted_cases, ?_,
    fun hdrained hlistening => horderly.received_of_drained hlistening hdrained, ?_,
    fun j s s' schema page => Job.scrape_eq_records, fun j n s => Job.scrapes_total n s⟩
  · rintro before after e rfl he
    exact Delivery.counted_after_hangUp h he
  · intro hstays
    obtain ⟨hlistening, hlength⟩ := Delivery.remaining_follow rfl hstays h
    have hall : (Delivery.start records).remaining = 4 * records.length + 1 := rfl
    rw [hall] at hlength
    refine ⟨by omega, ?_, Delivery.step_of_not_drained hlistening⟩
    rw [horderly.isDrained_iff hlistening]
    omega

/-! ## A consumer that hangs up -/

/-- A page with two lines. -/
def linesPage : WebPage :=
  .parse (.ofPage "") "<p>a<p>b"

/-- The records of the page. -/
def lines : List Record :=
  (rawJob.traversal rawSchema).records linesPage (Job.beginning (.start .empty))

theorem lines_eq : lines = [[("line", .text "a")], [("line", .text "b")]] := by
  have horder : linesPage.document.InOrder := by decide +kernel
  rw [lines, Traversal.records, Traversal.run, Selection.ofDocument_of_inOrder horder]
  with_unfolding_all rfl

/-- The consumer hangs up when a place is reserved for the second line, which is sent and counted all the
same. -/
theorem delivered_in_order_hungUp :
    let steps : List DeliveryStep :=
      [.reserve, .push, .receive, .count, .reserve, .hangUp, .push, .count, .finish]
    let d : Delivery Record :=
      ⟨[], .ended, [], [[("line", .text "a")]], [[("line", .text "b")]], false, 2⟩
    (Delivery.start lines).follow? steps = some d ∧
      d.received ++ d.buffer ++ d.discarded = lines.take (steps.count .push) ∧
      d.counted = steps.count .push ∧ d.counted ≤ 1 + 1 := by
  intro steps d
  have hsteps : (Delivery.start lines).follow? steps = some d := by
    rw [lines_eq]
    rfl
  obtain ⟨-, ⟨htake, -⟩, -, hcounted, hhungUp, -⟩ :=
    delivered_in_order (rawJob.traversal rawSchema) linesPage (Job.beginning (.start .empty)) hsteps
  refine ⟨hsteps, htake, hcounted.resolve_right nofun, ?_⟩
  refine (hhungUp [.reserve, .push, .receive, .count, .reserve] [.push, .count, .finish]
    ⟨[], .holding [("line", .text "b")], [], [[("line", .text "a")]], [], true, 1⟩ rfl ?_).1
  rw [← lines, lines_eq]
  rfl

end Harvest
