import Harvest.Proofs.Extract.Evaluation

/-!
# Sealing

A lookup seals the registry, and a sealed registry refuses every registration. So what a lookup reads is
settled by the registrations before the first lookup, and an evaluation that is repeated later gives the
same value, whatever has been tried in between (`evaluation_stable`).
-/

namespace Harvest

namespace Registry

/-! ## Attempts to register types -/

/-- The registry after an attempt to register a type; one that is refused changes nothing. -/
def attempt (r : Registry) (name : String) (resolver : Resolver) : Registry :=
  match r.register name resolver with
  | .ok r => r
  | .error _ => r

/-- The registry after several attempts. -/
def attemptAll (r : Registry) (attempts : List (String × Resolver)) : Registry :=
  attempts.foldl (fun r a => r.attempt a.1 a.2) r

/-- The answers to several attempts. -/
def answers : Registry → List (String × Resolver) → List (Except RegistryError Unit)
  | _, [] => []
  | r, a :: more =>
    (r.register a.1 a.2).map (fun _ => ()) :: answers (r.attempt a.1 a.2) more

theorem register_of_sealed {r : Registry} (h : r.isSealed = true) (name : String)
    (resolver : Resolver) : r.register name resolver = .error (.sealed name) := by
  rw [register, if_pos h]

theorem attempt_of_sealed {r : Registry} (h : r.isSealed = true) (name : String)
    (resolver : Resolver) : r.attempt name resolver = r := by
  rw [attempt, register_of_sealed h]

theorem attempt_of_open {r : Registry} (h : r.isSealed = false) (name : String)
    (resolver : Resolver) :
    r.attempt name resolver = ⟨Fields.insert name resolver r.types, false⟩ := by
  obtain ⟨types, isSealed⟩ := r
  change isSealed = false at h
  subst h
  rfl

theorem attemptAll_of_sealed {r : Registry} (h : r.isSealed = true)
    (attempts : List (String × Resolver)) : r.attemptAll attempts = r := by
  unfold attemptAll
  induction attempts with
  | nil => rfl
  | cons a more ih => rw [List.foldl_cons, attempt_of_sealed h, ih]

theorem answers_of_sealed {r : Registry} (h : r.isSealed = true)
    (attempts : List (String × Resolver)) :
    r.answers attempts = attempts.map fun a => .error (.sealed a.1) := by
  induction attempts with
  | nil => rfl
  | cons a more ih =>
    rw [answers, attempt_of_sealed h, ih, register_of_sealed h]
    rfl

/-! ## Uses of a registry -/

/-- A use of a registry. -/
inductive Use where
  | register (name : String) (resolver : Resolver)
  | lookup (name : String)
  | evaluate (s : Schema) (parent : Selection)

/-- The names that a use looks up. -/
def Use.lookups : Use → List String
  | .register _ _ => []
  | .lookup name => [name]
  | .evaluate s parent => Extract.lookups s parent

/-- Whether a use looks up anything, be it found or not. -/
def Use.looksUp (u : Use) : Bool :=
  !u.lookups.isEmpty

/-- What a use tries to register. -/
def Use.registration? : Use → Option (String × Resolver)
  | .register name resolver => some (name, resolver)
  | _ => none

/-- The registry after a use. -/
def step (r : Registry) : Use → Registry
  | .register name resolver => r.attempt name resolver
  | .lookup name => (r.lookup name).2
  | .evaluate s parent => (Extract.evaluate s parent r).2

/-- The registry after several uses. -/
def run (r : Registry) (uses : List Use) : Registry :=
  uses.foldl step r

/-- The registrations among the uses before the first lookup. -/
def early (uses : List Use) : List (String × Resolver) :=
  (uses.takeWhile fun u => !u.looksUp).filterMap Use.registration?

theorem step_of_looksUp {u : Use} (h : u.looksUp = true) (r : Registry) :
    (r.step u).types = r.types ∧ (r.step u).isSealed = true := by
  cases u with
  | register name resolver => cases h
  | lookup name => exact ⟨rfl, rfl⟩
  | evaluate s parent =>
    change (!(Extract.lookups s parent).isEmpty) = true at h
    refine ⟨Extract.evaluate_types s parent r, ?_⟩
    rw [step, Extract.evaluate_registry, afterLookups_isSealed, h, Bool.or_true]

theorem step_of_open {r : Registry} (hopen : r.isSealed = false) {u : Use}
    (h : u.looksUp = false) :
    r.step u = ⟨Fields.extend r.types u.registration?.toList, false⟩ := by
  cases u with
  | register name resolver => exact attempt_of_open hopen name resolver
  | lookup name => cases h
  | evaluate s parent =>
    have hnone : Extract.lookups s parent = [] := by
      simpa [Use.looksUp, Use.lookups] using h
    rw [step, Extract.evaluate_registry, hnone, afterLookups_nil]
    exact congrArg (Registry.mk r.types) hopen

theorem step_of_sealed {r : Registry} (h : r.isSealed = true) (u : Use) :
    (r.step u).types = r.types ∧ (r.step u).isSealed = true := by
  cases u with
  | register name resolver =>
    rw [step, attempt_of_sealed h]
    exact ⟨rfl, h⟩
  | lookup name => exact ⟨rfl, rfl⟩
  | evaluate s parent =>
    refine ⟨Extract.evaluate_types s parent r, ?_⟩
    rw [step, Extract.evaluate_registry, afterLookups_isSealed, h, Bool.true_or]

theorem run_of_sealed {r : Registry} (h : r.isSealed = true) (uses : List Use) :
    (r.run uses).types = r.types ∧ (r.run uses).isSealed = true := by
  induction uses generalizing r with
  | nil => exact ⟨rfl, h⟩
  | cons u more ih =>
    obtain ⟨htypes, hsealed⟩ := step_of_sealed h u
    obtain ⟨htypes', hsealed'⟩ := ih hsealed
    exact ⟨htypes'.trans htypes, hsealed'⟩

theorem early_cons_of_looksUp {u : Use} (h : u.looksUp = true) (more : List Use) :
    early (u :: more) = [] := by
  rw [early, List.takeWhile_cons, h]
  rfl

theorem early_cons_of_not {u : Use} (h : u.looksUp = false) (more : List Use) :
    early (u :: more) = u.registration?.toList ++ early more := by
  rw [early, List.takeWhile_cons, h, early]
  cases hu : u.registration? with
  | none => exact List.filterMap_cons_none hu
  | some a => exact List.filterMap_cons_some hu

/-- Only the registrations before the first lookup count, and only a lookup seals. -/
theorem run_of_open {r : Registry} (h : r.isSealed = false) (uses : List Use) :
    (r.run uses).types = Fields.extend r.types (early uses) ∧
      (r.run uses).isSealed = uses.any Use.looksUp := by
  induction uses generalizing r with
  | nil => exact ⟨rfl, h⟩
  | cons u more ih =>
    cases hu : u.looksUp with
    | true =>
      obtain ⟨htypes, hsealed⟩ := step_of_looksUp hu r
      obtain ⟨htypes', hsealed'⟩ := run_of_sealed hsealed more
      rw [early_cons_of_looksUp hu, List.any_cons, hu]
      exact ⟨htypes'.trans htypes, hsealed'⟩
    | false =>
      have hstep := step_of_open h hu
      obtain ⟨htypes, hsealed⟩ := @ih (r.step u) (by rw [hstep])
      rw [early_cons_of_not hu, List.any_cons, hu, Bool.false_or, Fields.extend_append]
      rw [hstep] at htypes
      exact ⟨by rw [run, List.foldl_cons, hstep]; exact htypes, hsealed⟩

/-- From the first use on, the types are those registered before the first lookup. -/
theorem run_empty (uses : List Use) :
    run .empty uses = ⟨Fields.ofList (early uses), uses.any Use.looksUp⟩ := by
  obtain ⟨htypes, hsealed⟩ := @run_of_open .empty rfl uses
  rw [← hsealed]
  exact congrArg (Registry.mk · (run .empty uses).isSealed) htypes

/-! ## Evaluations around registrations -/

/-- An evaluation with a lookup leaves a registry that refuses all later registrations. -/
theorem evaluate_of_lookups {s : Schema} {parent : Selection}
    (h : Extract.lookups s parent ≠ []) (r : Registry) :
    (Extract.evaluate s parent r).2.isSealed = true := by
  rw [Extract.evaluate_registry, afterLookups_isSealed, List.isEmpty_eq_false_iff.2 h,
    Bool.not_false, Bool.or_true]

/-- An evaluation without a lookup leaves the registry as it is and does not read it. -/
theorem evaluate_of_no_lookups {s : Schema} {parent : Selection}
    (h : Extract.lookups s parent = []) (r r' : Registry) :
    (Extract.evaluate s parent r).2 = r ∧
      (Extract.evaluate s parent r').1 = (Extract.evaluate s parent r).1 := by
  refine ⟨?_, Extract.evaluate_congr s parent r' r fun name hname => ?_⟩
  · rw [Extract.evaluate_registry, h, afterLookups_nil]
  · rw [h] at hname
    cases hname

/-- **Evaluations do not change under later registrations.** An evaluation does its lookups, which are the
same whatever is registered, and its value depends on nothing else of the registry. If there is a lookup,
the registry is sealed from then on, so that every registration is refused by name and the types stay; if
there is none, the registry stays as it was and the value would be the same with any other. Over all uses
of a registry, a lookup reads what was registered before the first lookup, the last registration of a name
counting, and the registry is sealed exactly if something has been looked up. -/
theorem evaluation_stable :
    (∀ (s : Schema) (parent : Selection) (r : Registry) (attempts : List (String × Resolver)),
      let first := Extract.evaluate s parent r
      let later := first.2.attemptAll attempts
      (Extract.evaluate s parent later).1 = first.1 ∧
      first.2 = r.afterLookups (Extract.lookups s parent) ∧
      (∀ r' : Registry, (∀ name ∈ Extract.lookups s parent, r'.find? name = r.find? name) →
        (Extract.evaluate s parent r').1 = first.1) ∧
      ((Extract.lookups s parent ≠ [] ∧ first.2.isSealed = true ∧
          first.2.answers attempts = attempts.map (fun a => .error (.sealed a.1)) ∧
          later.types = r.types) ∨
        (Extract.lookups s parent = [] ∧ first.2 = r ∧
          ∀ r', (Extract.evaluate s parent r').1 = first.1))) ∧
    (∀ (uses : List Use),
      (∀ name, ((run .empty uses).lookup name).1 = Fields.find? name (early uses).reverse) ∧
      (∀ s parent isSealed, (Extract.evaluate s parent (run .empty uses)).1 =
        (Extract.evaluate s parent ⟨Fields.ofList (early uses), isSealed⟩).1) ∧
      ((run .empty uses).isSealed = true ↔ ∃ u ∈ uses, u.looksUp = true)) := by
  refine ⟨fun s parent r attempts => ?_, fun uses => ⟨fun name => ?_, fun s parent b => ?_, ?_⟩⟩
  · intro first later
    have htypes : first.2.types = r.types := Extract.evaluate_types s parent r
    have hcongr : ∀ r' : Registry,
        (∀ name ∈ Extract.lookups s parent, r'.find? name = r.find? name) →
        (Extract.evaluate s parent r').1 = first.1 :=
      fun r' hagree => Extract.evaluate_congr s parent r' r hagree
    by_cases h : Extract.lookups s parent = []
    · obtain ⟨hsame, -⟩ := evaluate_of_no_lookups h r r
      have hany : ∀ r', (Extract.evaluate s parent r').1 = first.1 :=
        fun r' => (evaluate_of_no_lookups h r r').2
      exact ⟨hany later, Extract.evaluate_registry s parent r, hcongr, Or.inr ⟨h, hsame, hany⟩⟩
    · have hsealed : first.2.isSealed = true := evaluate_of_lookups h r
      have hlater : later = first.2 := attemptAll_of_sealed hsealed attempts
      have hlaterTypes : later.types = r.types := hlater ▸ htypes
      exact ⟨Extract.evaluate_congr_types s parent hlaterTypes, Extract.evaluate_registry s parent r,
        hcongr, Or.inl ⟨h, hsealed, answers_of_sealed hsealed attempts, hlaterTypes⟩⟩
  · rw [run_empty]
    exact Fields.find?_ofList name (early uses)
  · rw [run_empty]
    exact Extract.evaluate_congr_types s parent rfl
  · rw [run_empty]
    exact List.any_eq_true

end Registry

end Harvest
