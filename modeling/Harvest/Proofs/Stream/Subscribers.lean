import Harvest.Proofs.Fields
import Harvest.Stream.Subscribers

/-!
# The queues of subscribers

`Subscribers.queue` is the view of the subscribers as a queue for each url. `add` leaves in every queue
those who listen and puts one more at the end of one of them (`queue_add`); `take` removes the first who
listens from one queue, with those before, and leaves all other queues alone (`take_some`, `take_none`).
-/

namespace Harvest

namespace Fields

variable {α : Type}

theorem find?_erase (key k : String) (fields : Fields α) :
    find? k (erase key fields) = if key = k then none else find? k fields := by
  induction fields with
  | nil => simp [erase]
  | cons f rest ih =>
    obtain ⟨k', v⟩ := f
    unfold erase at ih ⊢
    by_cases hk : k' = key
    · subst hk
      rw [List.filter_cons_of_neg (by simp), ih, find?_cons]
      by_cases h : k' = k
      · rw [if_pos h, if_pos h]
      · rw [if_neg h, if_neg h, if_neg h]
    · rw [List.filter_cons_of_pos (by simpa using hk), find?_cons, find?_cons, ih]
      by_cases h : k' = k
      · rw [if_pos h, if_pos h, if_neg fun he => hk (h.trans he.symm)]
      · rw [if_neg h, if_neg h]

namespace Ascending

theorem filter {fields : Fields α} (h : Ascending fields) (keep : String × α → Bool) :
    Ascending (fields.filter keep) :=
  List.Pairwise.filter keep h

theorem erase {fields : Fields α} (h : Ascending fields) (key : String) :
    Ascending (Fields.erase key fields) :=
  h.filter _

/-- As no key occurs twice, a field that is left out is not replaced by another. -/
theorem find?_filter {fields : Fields α} (h : Ascending fields) (keep : α → Bool) (key : String) :
    find? key (fields.filter fun q => keep q.2) = (find? key fields).filter keep := by
  induction fields with
  | nil => rfl
  | cons f rest ih =>
    obtain ⟨k, v⟩ := f
    obtain ⟨hhead, hrest⟩ := List.pairwise_cons.1 h
    rw [find?_cons]
    by_cases hv : keep v = true
    · rw [List.filter_cons_of_pos (by exact hv), find?_cons, ih hrest]
      by_cases hk : k = key
      · rw [if_pos hk, if_pos hk, Option.filter_some_pos hv]
      · rw [if_neg hk, if_neg hk]
    · rw [List.filter_cons_of_neg (by exact hv), ih hrest]
      by_cases hk : k = key
      · subst hk
        rw [if_pos rfl, find?_eq_none_of_lt hhead, Option.filter_none, Option.filter_some_neg (by simpa using hv)]
      · rw [if_neg hk]

end Ascending

end Fields

namespace Subscribers

variable {s t : Subscribers} {listening : Nat → Bool} {url : String} {n : Nat}

/-! ## One queue for each url -/

/-- No url has two queues. -/
def Ascending (s : Subscribers) : Prop :=
  Fields.Ascending s.waiting

theorem ascending_empty : empty.Ascending := Fields.Ascending.nil

theorem Ascending.prune (h : s.Ascending) (listening : Nat → Bool) : (s.prune listening).Ascending :=
  (Fields.Ascending.mapValues h _).filter _

theorem Ascending.add (h : s.Ascending) (listening : Nat → Bool) (url : String) (n : Nat) :
    (s.add listening url n).Ascending :=
  Fields.Ascending.insert (h.prune listening) _ _

theorem Ascending.take (h : s.Ascending) (listening : Nat → Bool) (url : String) :
    (s.take listening url).2.Ascending := by
  unfold Subscribers.take
  split
  · exact h
  · dsimp only [Ascending]
    split
    · exact Fields.Ascending.erase h _
    · exact Fields.Ascending.insert h _ _

/-! ## Adding -/

theorem queue_prune (h : s.Ascending) (listening : Nat → Bool) (url : String) :
    (s.prune listening).queue url = (s.queue url).filter listening := by
  unfold queue prune
  dsimp only
  rw [(Fields.Ascending.mapValues h (List.filter listening)).find?_filter (fun ns => !ns.isEmpty),
    Fields.find?_mapValues]
  cases Fields.find? url s.waiting with
  | none => rfl
  | some ns =>
    -- an empty queue reads like one that is not there
    rw [Option.map_some, Option.getD_some]
    cases hns : ns.filter listening with
    | nil => rfl
    | cons m more => rfl

/-- Those who listen stay, and one more comes last at one url. -/
theorem queue_add (h : s.Ascending) (listening : Nat → Bool) (url : String) (n : Nat)
    (other : String) :
    (s.add listening url n).queue other =
      (s.queue other).filter listening ++ if url = other then [n] else [] := by
  have hinsert : (s.add listening url n).queue other =
      if url = other then (s.prune listening).queue url ++ [n]
      else (s.prune listening).queue other := by
    unfold add queue
    dsimp only
    rw [Fields.find?_insert]
    split <;> rfl
  rw [hinsert, queue_prune h, queue_prune h]
  by_cases he : url = other
  · rw [if_pos he, if_pos he, he]
  · rw [if_neg he, if_neg he, List.append_nil]

/-! ## Taking -/

theorem firstListening_cases (listening : Nat → Bool) (ns : List Nat) :
    ((∀ m ∈ ns, listening m = false) ∧ firstListening listening ns = (none, [])) ∨
      ∃ gone n rest, ns = gone ++ n :: rest ∧ (∀ m ∈ gone, listening m = false) ∧
        listening n = true ∧ firstListening listening ns = (some n, rest) := by
  induction ns with
  | nil => exact Or.inl ⟨fun m hm => absurd hm List.not_mem_nil, rfl⟩
  | cons m more ih =>
    cases hm : listening m with
    | true =>
      refine Or.inr ⟨[], m, more, rfl, fun k hk => absurd hk List.not_mem_nil, hm, ?_⟩
      rw [firstListening, if_pos hm]
    | false =>
      have hskip : firstListening listening (m :: more) = firstListening listening more := by
        rw [firstListening, if_neg (by simp [hm])]
      rw [hskip]
      rcases ih with ⟨hnone, heq⟩ | ⟨gone, n, rest, rfl, hgone, hn, heq⟩
      · exact Or.inl ⟨List.forall_mem_cons.2 ⟨hm, hnone⟩, heq⟩
      · exact Or.inr ⟨m :: gone, n, rest, rfl, List.forall_mem_cons.2 ⟨hm, hgone⟩, hn, heq⟩

/-- What is taken is told by the queue of the url alone. -/
theorem take_fst (s : Subscribers) (listening : Nat → Bool) (url : String) :
    (s.take listening url).1 = (firstListening listening (s.queue url)).1 := by
  unfold take queue
  cases Fields.find? url s.waiting <;> rfl

theorem queue_take (s : Subscribers) (listening : Nat → Bool) (url other : String) :
    (s.take listening url).2.queue other =
      if url = other then (firstListening listening (s.queue url)).2 else s.queue other := by
  unfold take queue
  cases hfind : Fields.find? url s.waiting with
  | none =>
    dsimp only
    by_cases h : url = other
    · subst h
      rw [if_pos rfl, hfind]
      rfl
    · rw [if_neg h]
  | some ns =>
    rw [Option.getD_some]
    dsimp only
    cases (firstListening listening ns).2 with
    | nil =>
      rw [List.isEmpty_nil, if_pos rfl, Fields.find?_erase]
      split <;> rfl
    | cons m more =>
      rw [List.isEmpty_cons, if_neg Bool.false_ne_true, Fields.find?_insert]
      split <;> rfl

/-- Nobody is taken if nobody listens. -/
theorem take_none (h : s.take listening url = (none, t)) :
    (∀ m ∈ s.queue url, listening m = false) ∧
      ∀ other, t.queue other = if url = other then [] else s.queue other := by
  have hfst := take_fst s listening url
  have hsnd := queue_take s listening url
  rw [h] at hfst hsnd
  rcases firstListening_cases listening (s.queue url) with ⟨hnone, heq⟩ | ⟨_, _, _, _, _, _, heq⟩
  · rw [heq] at hsnd
    exact ⟨hnone, hsnd⟩
  · rw [heq] at hfst
    cases hfst

/-- Who is taken listens, and is the first who does. -/
theorem take_some (h : s.take listening url = (some n, t)) :
    listening n = true ∧ ∃ gone rest, s.queue url = gone ++ n :: rest ∧
      (∀ m ∈ gone, listening m = false) ∧
      ∀ other, t.queue other = if url = other then rest else s.queue other := by
  have hfst := take_fst s listening url
  have hsnd := queue_take s listening url
  rw [h] at hfst hsnd
  rcases firstListening_cases listening (s.queue url) with
    ⟨_, heq⟩ | ⟨gone, m, rest, hqueue, hgone, hm, heq⟩
  · rw [heq] at hfst
    cases hfst
  · rw [heq] at hfst hsnd
    cases hfst
    exact ⟨hm, gone, rest, hqueue, hgone, hsnd⟩

end Subscribers

end Harvest
