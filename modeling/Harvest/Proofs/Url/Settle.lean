import Harvest.Proofs.Url.Query
import Mathlib.Data.List.Induction

/-!
# Setting several parameters

Parameters are set one after the other, and a key may be mentioned more than once. All in all the new pairs
are appended to the old ones, and then each key that is set keeps its first pair only, with the value that
was mentioned last (`setPairs_eq_settle`). So the other parameters stay as they were (`setPairs_others`), each
key that is set has exactly one (`setPairs_own`), and setting the same parameters again changes nothing
(`setPairs_setPairs`).
-/

namespace Harvest.Url

/-- The value that several pairs give to a key: that of the last pair with it. -/
def lastValue? (new : List Pair) (key : String) : Option String :=
  (new.reverse.find? fun q => q.1 == key).map Prod.snd

/-- Leaves of each key that is set only the first pair, with the value that it is set to. -/
def settle (new : List Pair) : List Pair → List Pair
  | [] => []
  | (key, old) :: more =>
    match lastValue? new key with
    | none => (key, old) :: settle new more
    | some value => (key, value) :: (settle new more).filter fun q => q.1 != key

variable {new pairs more : List Pair} {key value : String}

/-! ## The last value -/

@[simp] theorem lastValue?_nil (key : String) : lastValue? [] key = none := rfl

theorem lastValue?_concat (new : List Pair) (key value other : String) :
    lastValue? (new ++ [(key, value)]) other =
      if key = other then some value else lastValue? new other := by
  rw [lastValue?, List.reverse_append, List.reverse_singleton, List.singleton_append, List.find?_cons]
  by_cases h : key = other
  · rw [if_pos h, beq_iff_eq.2 h]
    rfl
  · rw [if_neg h, beq_eq_false_iff_ne.2 h]
    rfl

theorem lastValue?_eq_none_iff : lastValue? new key = none ↔ Lacks new key := by
  simp [lastValue?, Lacks, List.find?_eq_none]

theorem lacks_append : Lacks (pairs ++ more) key ↔ Lacks pairs key ∧ Lacks more key := by
  simp only [Lacks, List.forall_mem_append]

theorem lacks_cons {p : Pair} : Lacks (p :: more) key ↔ p.1 ≠ key ∧ Lacks more key := by
  simp only [Lacks, List.forall_mem_cons]

theorem lacks_filter (other : String) (hne : key ≠ other) :
    Lacks (pairs.filter fun q => q.1 != other) key ↔ Lacks pairs key := by
  constructor
  · intro h q hq hkey
    exact h q (List.mem_filter.2 ⟨hq, by simp [hkey, hne]⟩) hkey
  · exact fun h q hq => h q (List.mem_filter.1 hq).1

/-- The pairs with other keys than two, in either order of asking. -/
theorem others_comm (pairs : List Pair) (key other : String) :
    (pairs.filter fun q => q.1 != key).filter (fun q => q.1 != other) =
      (pairs.filter fun q => q.1 != other).filter fun q => q.1 != key := by
  rw [List.filter_filter, List.filter_filter]
  exact List.filter_congr fun q _ => Bool.and_comm _ _

/-! ## Replacing the first pair -/

theorem replaceFirst_of_lacks (h : Lacks pairs key) (value : String) :
    replaceFirst key value pairs = pairs := by
  have happend := replaceFirst_append h value []
  rwa [List.append_nil, replaceFirst, List.append_nil] at happend

theorem replaceFirst_others (key value : String) (pairs : List Pair) :
    (replaceFirst key value pairs).filter (fun q => q.1 != key) =
      pairs.filter fun q => q.1 != key := by
  induction pairs with
  | nil => rfl
  | cons p more ih =>
    rw [replaceFirst]
    by_cases h : p.1 = key
    · rw [if_pos h, List.filter_cons_of_neg (by simp [h]), List.filter_cons_of_neg (by simp [h]),
        List.filter_filter]
      simp
    · rw [if_neg h, List.filter_cons_of_pos (by simp [h]), List.filter_cons_of_pos (by simp [h]), ih]

theorem replaceFirst_filter {other : String} (hne : key ≠ other) (value : String) (pairs : List Pair) :
    replaceFirst key value (pairs.filter fun q => q.1 != other) =
      (replaceFirst key value pairs).filter fun q => q.1 != other := by
  induction pairs with
  | nil => rfl
  | cons p more ih =>
    obtain ⟨k, old⟩ := p
    by_cases h : k = key
    · subst h
      rw [List.filter_cons_of_pos (by simpa using hne), replaceFirst, replaceFirst, if_pos rfl, if_pos rfl,
        List.filter_cons_of_pos (by simpa using hne), others_comm]
    · by_cases hother : k = other
      · rw [List.filter_cons_of_neg (by simp [hother]), replaceFirst, if_neg h,
          List.filter_cons_of_neg (by simp [hother]), ih]
      · rw [List.filter_cons_of_pos (by simp [hother]), replaceFirst, replaceFirst, if_neg h, if_neg h,
          List.filter_cons_of_pos (by simp [hother]), ih]

/-! ## Settling -/

theorem settle_nil (pairs : List Pair) : settle [] pairs = pairs := by
  induction pairs with
  | nil => rfl
  | cons p more ih => rw [settle, lastValue?_nil, ih]

/-- Setting one more parameter replaces its first pair. -/
theorem settle_concat_new (new : List Pair) (key value : String) (pairs : List Pair) :
    settle (new ++ [(key, value)]) pairs = replaceFirst key value (settle new pairs) := by
  induction pairs with
  | nil => rfl
  | cons p more ih =>
    obtain ⟨k, old⟩ := p
    rw [settle, settle, lastValue?_concat, ih]
    by_cases h : key = k
    · subst h
      rw [if_pos rfl]
      cases lastValue? new key with
      | none =>
        dsimp only
        rw [replaceFirst_others, replaceFirst, if_pos rfl]
      | some last =>
        dsimp only
        rw [replaceFirst_others, replaceFirst, if_pos rfl, List.filter_filter]
        simp
    · rw [if_neg h]
      cases lastValue? new k with
      | none =>
        dsimp only
        rw [replaceFirst, if_neg (Ne.symm h)]
      | some last =>
        dsimp only
        rw [replaceFirst, if_neg (Ne.symm h), replaceFirst_filter h]

theorem settle_filter (new : List Pair) (key : String) (pairs : List Pair) :
    settle new (pairs.filter fun q => q.1 != key) = (settle new pairs).filter fun q => q.1 != key := by
  induction pairs with
  | nil => rfl
  | cons p more ih =>
    obtain ⟨k, old⟩ := p
    by_cases h : k = key
    · subst h
      rw [List.filter_cons_of_neg (by simp), ih, settle]
      cases lastValue? new k with
      | none => exact (List.filter_cons_of_neg (by simp)).symm
      | some last =>
        dsimp only
        rw [List.filter_cons_of_neg (by simp), List.filter_filter]
        simp
    · rw [List.filter_cons_of_pos (by simpa using h), settle, settle, ih]
      cases lastValue? new k with
      | none => exact (List.filter_cons_of_pos (by simpa using h)).symm
      | some last =>
        dsimp only
        rw [List.filter_cons_of_pos (by simpa using h), others_comm]

theorem lacks_settle_iff : Lacks (settle new pairs) key ↔ Lacks pairs key := by
  induction pairs with
  | nil => rfl
  | cons p more ih =>
    obtain ⟨k, old⟩ := p
    rw [settle, lacks_cons]
    cases lastValue? new k with
    | none => rw [lacks_cons, ih]
    | some last =>
      rw [lacks_cons]
      refine and_congr_right fun hne => ?_
      rw [lacks_filter k (Ne.symm hne), ih]

/-- Pairs at the end whose keys are set stay only where their keys were not there before. -/
theorem settle_append {more : List Pair} (hset : ∀ q ∈ more, lastValue? new q.1 ≠ none)
    (pairs : List Pair) :
    settle new (pairs ++ more) =
      settle new pairs ++ settle new (more.filter fun q => (lastValue? pairs q.1).isNone) := by
  induction pairs with
  | nil =>
    rw [List.nil_append, settle, List.nil_append]
    exact congrArg _ (List.filter_eq_self.2 fun _ _ => rfl).symm
  | cons p pairs ih =>
    obtain ⟨k, old⟩ := p
    have hlacking : ∀ q : Pair, (lastValue? ((k, old) :: pairs) q.1).isNone =
        ((lastValue? pairs q.1).isNone && q.1 != k) := by
      intro q
      rw [Bool.eq_iff_iff, Bool.and_eq_true, Option.isNone_iff_eq_none, Option.isNone_iff_eq_none,
        lastValue?_eq_none_iff, lastValue?_eq_none_iff, lacks_cons, bne_iff_ne, and_comm, ne_comm]
    rw [List.cons_append, settle, settle, ih]
    simp only [hlacking]
    cases hk : lastValue? new k with
    | none =>
      have hother : ∀ q ∈ more, ((lastValue? pairs q.1).isNone && q.1 != k) =
          (lastValue? pairs q.1).isNone := by
        intro q hq
        have hne : q.1 ≠ k := fun h => hset q hq (h ▸ hk)
        rw [bne_iff_ne.2 hne, Bool.and_true]
      rw [List.filter_congr hother]
      rfl
    | some value =>
      dsimp only
      rw [List.cons_append, List.filter_append, ← settle_filter new k (more.filter _), List.filter_filter]
      simp only [Bool.and_comm]

/-- The new pairs go to the end, and then each key that is set keeps its first pair, with the last value. -/
theorem setPairs_eq_settle (pairs new : List Pair) : setPairs pairs new = settle new (pairs ++ new) := by
  induction new using List.reverseRecOn with
  | nil =>
    rw [settle_nil, List.append_nil]
    rfl
  | append_singleton new p ih =>
    obtain ⟨key, value⟩ := p
    have hset : lastValue? (new ++ [(key, value)]) key = some value := by
      rw [lastValue?_concat, if_pos rfl]
    have hstep : setPairs pairs (new ++ [(key, value)]) =
        setPair (settle new (pairs ++ new)) (key, value) := by
      rw [← ih, setPairs, List.foldl_append]
      rfl
    have hone : ∀ q ∈ [(key, value)], lastValue? (new ++ [(key, value)]) q.1 ≠ none := by
      simp [hset]
    rw [hstep, ← List.append_assoc, settle_append hone, settle_concat_new]
    by_cases hlacks : Lacks (pairs ++ new) key
    · have hnone : Lacks (settle new (pairs ++ new)) key := lacks_settle_iff.2 hlacks
      rw [replaceFirst_of_lacks hnone, setPair, hnone.any_eq,
        List.filter_cons_of_pos (by simpa [lastValue?_eq_none_iff] using hlacks), List.filter_nil, settle, hset]
      rfl
    · have hsome : ((settle new (pairs ++ new)).any fun q => q.1 == key) = true := by
        by_contra hany
        have hnone : Lacks (settle new (pairs ++ new)) key := fun q hq hkey =>
          hany (List.any_eq_true.2 ⟨q, hq, beq_iff_eq.2 hkey⟩)
        exact hlacks (lacks_settle_iff.1 hnone)
      rw [setPair, if_pos hsome,
        List.filter_cons_of_neg (by simpa [lastValue?_eq_none_iff] using hlacks), List.filter_nil, settle,
        List.append_nil]

theorem lastValue?_ne_none {q : Pair} (hq : q ∈ new) : lastValue? new q.1 ≠ none :=
  fun hnone => lastValue?_eq_none_iff.1 hnone q hq rfl

/-- What was there is settled, and the keys that were not there follow, in the order in which they are first
mentioned. -/
theorem setPairs_eq_append (pairs new : List Pair) :
    setPairs pairs new =
      settle new pairs ++ settle new (new.filter fun q => (lastValue? pairs q.1).isNone) := by
  rw [setPairs_eq_settle, settle_append fun q => lastValue?_ne_none]

/-! ## Setting again -/

theorem settle_settle (new pairs : List Pair) : settle new (settle new pairs) = settle new pairs := by
  induction pairs with
  | nil => rfl
  | cons p more ih =>
    obtain ⟨k, old⟩ := p
    rw [settle]
    cases hset : lastValue? new k with
    | none =>
      dsimp only
      rw [settle, hset]
      exact congrArg _ ih
    | some value =>
      dsimp only
      rw [settle, hset, settle_filter, ih]
      dsimp only
      rw [List.filter_filter]
      simp

/-- Setting the same parameters again changes nothing. -/
theorem setPairs_setPairs (pairs new : List Pair) :
    setPairs (setPairs pairs new) new = setPairs pairs new := by
  have hpresent : ∀ q ∈ new, ¬(lastValue? (setPairs pairs new) q.1).isNone = true := by
    intro q hq hnone
    rw [Option.isNone_iff_eq_none, lastValue?_eq_none_iff, setPairs_eq_settle, lacks_settle_iff,
      lacks_append] at hnone
    exact hnone.2 q hq rfl
  rw [setPairs_eq_append (setPairs pairs new), List.filter_eq_nil_iff.2 hpresent, setPairs_eq_settle,
    settle_settle, settle, List.append_nil]

/-! ## What is set -/

/-- The pairs whose keys are not set stay, each as often as it was there and in their order. -/
theorem settle_others (new pairs : List Pair) :
    (settle new pairs).filter (fun q => (lastValue? new q.1).isNone) =
      pairs.filter fun q => (lastValue? new q.1).isNone := by
  induction pairs with
  | nil => rfl
  | cons p more ih =>
    obtain ⟨k, old⟩ := p
    rw [settle]
    cases hset : lastValue? new k with
    | none =>
      dsimp only
      rw [List.filter_cons_of_pos (by simp [hset]), List.filter_cons_of_pos (by simp [hset]), ih]
    | some value =>
      dsimp only
      rw [List.filter_cons_of_neg (by simp [hset]), List.filter_cons_of_neg (by simp [hset]),
        List.filter_filter, ← ih]
      refine List.filter_congr fun q _ => ?_
      by_cases hkey : q.1 = k
      · rw [hkey, hset]
        rfl
      · rw [bne_iff_ne.2 hkey, Bool.and_true]

/-- A key that is not set keeps its pairs. -/
theorem settle_own_of_lacks (hnew : Lacks new key) (pairs : List Pair) :
    (settle new pairs).filter (fun q => q.1 == key) = pairs.filter fun q => q.1 == key := by
  have hown : ∀ pairs : List Pair, pairs.filter (fun q => q.1 == key) =
      (pairs.filter fun q => (lastValue? new q.1).isNone).filter fun q => q.1 == key := by
    intro pairs
    rw [List.filter_filter]
    refine List.filter_congr fun q _ => ?_
    by_cases hkey : q.1 = key
    · rw [hkey, lastValue?_eq_none_iff.2 hnew]
      simp
    · rw [beq_eq_false_iff_ne.2 hkey]
      rfl
  rw [hown, settle_others, ← hown]

/-- A key that is set has one pair, with the value it is set to. -/
theorem settle_own (hset : lastValue? new key = some value) (hhas : ¬Lacks pairs key) :
    (settle new pairs).filter (fun q => q.1 == key) = [(key, value)] := by
  induction pairs with
  | nil => exact absurd (lacks_nil key) hhas
  | cons p more ih =>
    obtain ⟨k, old⟩ := p
    rw [settle]
    by_cases h : k = key
    · subst h
      rw [hset]
      dsimp only
      rw [List.filter_cons_of_pos (by simp), (lacks_others (settle new more) k).own_eq]
    · have hmore : ¬Lacks more key := fun hmore => hhas (lacks_cons.2 ⟨h, hmore⟩)
      have hothers : ∀ pairs : List Pair, (pairs.filter fun q => q.1 != k).filter (fun q => q.1 == key) =
          pairs.filter fun q => q.1 == key := by
        intro pairs
        rw [List.filter_filter]
        refine List.filter_congr fun q _ => ?_
        by_cases hq : q.1 = key
        · simp [hq, Ne.symm h]
        · simp [hq]
      cases lastValue? new k with
      | none =>
        dsimp only
        rw [List.filter_cons_of_neg (by simpa using h), ih hmore]
      | some last =>
        dsimp only
        rw [List.filter_cons_of_neg (by simpa using h), hothers, ih hmore]

theorem setPairs_others (pairs new : List Pair) :
    (setPairs pairs new).filter (fun q => (lastValue? new q.1).isNone) =
      pairs.filter fun q => (lastValue? new q.1).isNone := by
  have hnone : new.filter (fun q => (lastValue? new q.1).isNone) = [] :=
    List.filter_eq_nil_iff.2 fun q hq h => lastValue?_ne_none hq (Option.isNone_iff_eq_none.1 h)
  rw [setPairs_eq_settle, settle_others, List.filter_append, hnone, List.append_nil]

theorem setPairs_own (hset : lastValue? new key = some value) :
    (setPairs pairs new).filter (fun q => q.1 == key) = [(key, value)] := by
  have hhas : ¬Lacks (pairs ++ new) key := by
    intro hlacks
    rw [lastValue?_eq_none_iff.2 (lacks_append.1 hlacks).2] at hset
    cases hset
  rw [setPairs_eq_settle, settle_own hset hhas]

theorem setPairs_own_of_lacks (hnew : Lacks new key) (pairs : List Pair) :
    (setPairs pairs new).filter (fun q => q.1 == key) = pairs.filter fun q => q.1 == key := by
  rw [setPairs_eq_settle, settle_own_of_lacks hnew, List.filter_append, hnew.own_eq, List.append_nil]

/-! ## Addresses -/

/-- A key that is set has the value mentioned last, and every other key the value of before. -/
theorem param?_setParams_or (u : Url) (new : List Pair) (key : String) :
    (u.setParams new).param? key = (lastValue? new key).or (u.param? key) := by
  rw [param?, param?, params_setParams, ← List.head?_filter, ← List.head?_filter]
  cases hset : lastValue? new key with
  | none =>
    rw [setPairs_own_of_lacks (lastValue?_eq_none_iff.1 hset)]
    rfl
  | some value =>
    rw [setPairs_own hset]
    rfl

/-- Setting the same parameters of an address again changes nothing. -/
theorem setParams_again (u : Url) (new : List Pair) :
    (u.setParams new).setParams new = u.setParams new := by
  rw [setParams, params_setParams, setPairs_setPairs]
  rfl

end Harvest.Url
