import Harvest.Json.Shaped

/-!
# What readers of fixed shape yield

`Yields read P` says that whatever a reader takes a text for has the property `P`. The property goes from
the elements to the sequence (`readList_yields`), and a property that each field keeps holds of the
structure (`readStructure_yields`), whether it stands as a map or as a sequence, in any order and with any
fields missing or unknown.
-/

namespace Harvest.Json

/-- What the reader yields has the property. -/
def Yields {α : Type} (read : Reader α) (P : α → Prop) : Prop :=
  ∀ ⦃s v rest⦄, read s = .ok (v, rest) → P v

variable {α σ : Type} {element : Reader α} {P : α → Prop} {fields : List (Field σ)} {I : σ → Prop}

theorem Yields.trivial (read : Reader α) : Yields read fun _ => True :=
  fun _ _ _ _ => True.intro

theorem Yields.of_map {β : Type} {read : Reader α} (h : Yields read P) {f : α → β} {Q : β → Prop}
    (hf : ∀ v, P v → Q (f v)) : Yields (fun s => (read s).map f) Q := by
  intro s w rest hread
  simp only at hread
  cases hr : read s with
  | error e => rw [hr] at hread; cases hread
  | ok r =>
    obtain ⟨v, rest⟩ := r
    rw [hr] at hread
    cases hread
    exact hf v (h hr)

theorem readNat_yields (expected : String) (limit : Nat) :
    Yields (readNat expected limit) (· ≤ limit) := by
  have hnat : ∀ {r : Result Numeral} {n rest}, natOf expected limit r = .ok (n, rest) → n ≤ limit := by
    intro r n rest h
    unfold natOf at h
    split at h
    · cases h
    · cases h
    · split at h
      · simp only [Except.ok.injEq, Prod.mk.injEq] at h
        omega
      · cases h
  intro s n rest h
  unfold readNat at h
  split at h
  · cases h
  · exact hnat h
  · split at h
    · exact hnat h
    · cases h

/-! ## Sequences -/

theorem readElements_yields (h : Yields element P) (bound : Nat) (first : Bool) :
    Yields (readElements element bound first) fun vs => ∀ v ∈ vs, P v := by
  intro s vs rest hread
  induction bound generalizing first s vs rest with
  | zero => cases hread
  | succ bound ih =>
    unfold readElements at hread
    split at hread
    · cases hread
    · cases hread
      simp
    · split at hread
      case h_1 => cases hread
      case h_2 hv =>
        split at hread
        case h_1 => cases hread
        case h_2 hvs =>
          cases hread
          exact List.forall_mem_cons.2 ⟨h hv, ih _ hvs⟩

theorem readList_yields (depth : Nat) (h : Yields element P) :
    Yields (readList depth element) fun vs => ∀ v ∈ vs, P v := by
  intro s vs rest hread
  unfold readList at hread
  split at hread
  · cases hread
  · split at hread
    · cases hread
    · unfold readSequence at hread
      split at hread
      case h_1 => cases hread
      case h_2 hvs =>
        split at hread
        · cases hread
        · cases hread
          exact readElements_yields h _ _ hvs
  · cases hread

/-! ## Structures -/

theorem readFieldsInOrder_yields (h : ∀ field ∈ fields, ∀ v, I v → Yields (field.read v) I)
    (first : Bool) {v : σ} (hv : I v) : Yields (readFieldsInOrder fields first v) I := by
  intro s w rest hread
  induction fields generalizing first v s w rest with
  | nil => cases hread; exact hv
  | cons field fields ih =>
    unfold readFieldsInOrder at hread
    split at hread
    · cases hread
    · cases hread
      exact hv
    · split at hread
      · cases hread
      · rename_i hfield
        exact ih (fun f hf => h f (List.mem_cons_of_mem _ hf)) false
          (h field (List.mem_cons_self ..) v hv hfield) hread

theorem readFieldsByName_yields (h : ∀ field ∈ fields, ∀ v, I v → Yields (field.read v) I)
    (bound : Nat) (first : Bool) (seen : List String) {v : σ} (hv : I v) :
    Yields (readFieldsByName fields bound first seen v) I := by
  intro s w rest hread
  induction bound generalizing first seen v s w rest with
  | zero => cases hread
  | succ bound ih =>
    unfold readFieldsByName at hread
    split at hread
    · cases hread
    · cases hread
      exact hv
    · split at hread
      · cases hread
      · split at hread
        · -- an unknown field is passed over
          split at hread
          · cases hread
          · split at hread
            · cases hread
            · exact ih false _ hv hread
        · rename_i field hfind
          split at hread
          · cases hread
          · split at hread
            · cases hread
            · split at hread
              · cases hread
              · rename_i hfield
                exact ih false _ (h field (List.mem_of_find?_eq_some hfind) v hv hfield) hread

theorem readStructure_yields (h : ∀ field ∈ fields, ∀ v, I v → Yields (field.read v) I)
    {default : σ} (hdefault : I default) (expected : String) (depth : Nat) :
    Yields (readStructure expected depth fields default) I := by
  have hleave : ∀ {close : List Symbol → Result Unit} {r : Result σ} {w rest},
      leave close r = .ok (w, rest) → ∃ rest, r = .ok (w, rest) := by
    intro close r w rest hread
    unfold leave at hread
    split at hread
    · cases hread
    · split at hread
      · cases hread
      · cases hread
        exact ⟨_, rfl⟩
  intro s w rest hread
  unfold readStructure at hread
  split at hread
  · cases hread
  · split at hread
    · cases hread
    · obtain ⟨rest, hinner⟩ := hleave hread
      exact readFieldsInOrder_yields h true hdefault hinner
  · split at hread
    · cases hread
    · obtain ⟨rest, hinner⟩ := hleave hread
      exact readFieldsByName_yields h _ true [] hdefault hinner
  · cases hread

/-! ## Whole texts -/

theorem readShaped_yields {read : Reader α} (h : Yields read P) {text : String} {v : α}
    (hread : readShaped read text = .ok v) : P v := by
  simp only [readShaped, describeFault, readWhole] at hread
  cases hr : read (symbolsOf text) with
  | error e => rw [hr] at hread; cases hread
  | ok r =>
    obtain ⟨w, rest⟩ := r
    rw [hr] at hread
    cases hend : skipSpace rest with
    | nil =>
      simp only [hend, Except.ok.injEq] at hread
      exact hread ▸ h hr
    | cons c more =>
      simp only [hend] at hread
      cases hread

end Harvest.Json
