import Harvest.Payload
import Harvest.Proofs.Fields
import Harvest.Proofs.Number.Decimal
import Mathlib.Logic.Relation

/-!
# Where paths lead

A segment of a path has a target in an object that has it as a key and in an array that has it as an index
(`Target`); otherwise it is lost, for one of five reasons (`Lost`). Looking a path up takes its segments one
after the other: what is found is what they reach, and nothing is found exactly where one of them is lost
(`follow?_eq_none_iff`). Segments without full stops come back from the path that joins them
(`segments_eq_iff`), so that every part of a value can be reached whose keys have no full stops
(`Dotless.exists_path`).
-/

namespace Harvest.Json

open Number (Spells maxNat64)
open Relation (ReflTransGen)

/-- Where a segment leads: to a field of an object, or to an item of an array. No index is greater than the
greatest number of 64 bits. -/
inductive Target : Json → String → Json → Prop where
  | field {fields : List (String × Json)} {key : String} {v : Json}
      (found : Fields.find? key fields = some v) : Target (.object fields) key v
  | item {items : List Json} {segment : String} {i : Nat} {v : Json} (spelled : Spells segment.toList i)
      (fits : i ≤ maxNat64) (found : items[i]? = some v) : Target (.array items) segment v

/-- Why a segment leads nowhere. -/
inductive Lost : Json → String → Prop where
  | missing {fields : List (String × Json)} {key : String} (absent : key ∉ Fields.keys fields) :
      Lost (.object fields) key
  | noIndex {items : List Json} {segment : String} (other : ∀ i, ¬Spells segment.toList i) :
      Lost (.array items) segment
  | tooLarge {items : List Json} {segment : String} {i : Nat} (spelled : Spells segment.toList i)
      (large : maxNat64 < i) : Lost (.array items) segment
  | outOfRange {items : List Json} {segment : String} {i : Nat} (spelled : Spells segment.toList i)
      (range : items.length ≤ i) : Lost (.array items) segment
  | scalar {j : Json} {segment : String} (noObject : ∀ fields, j ≠ .object fields)
      (noArray : ∀ items, j ≠ .array items) : Lost j segment

/-- Segments lead from one value to another, one after the other. -/
inductive Reaches : Json → List String → Json → Prop where
  | here {j : Json} : Reaches j [] j
  | step {j u v : Json} {segment : String} {more : List String} (target : Target j segment u)
      (rest : Reaches u more v) : Reaches j (segment :: more) v

/-! ## One segment -/

theorem step?_eq_some_iff {j v : Json} {segment : String} :
    j.step? segment = some v ↔ Target j segment v := by
  constructor
  · intro h
    cases j with
    | array items =>
      obtain ⟨i, hindex, hitem⟩ := Option.bind_eq_some_iff.1 h
      obtain ⟨hspells, hfits⟩ := Number.parseIndex_eq_some_iff.1 hindex
      exact .item hspells hfits hitem
    | object fields => exact .field h
    | null | bool | int | float | string => cases h
  · intro h
    cases h with
    | field hfound => exact hfound
    | item hspells hfits hitem =>
      exact Option.bind_eq_some_iff.2 ⟨_, Number.parseIndex_eq_some_iff.2 ⟨hspells, hfits⟩, hitem⟩

theorem Lost.no_target {j v : Json} {segment : String} (h : Lost j segment) : ¬Target j segment v := by
  intro htarget
  cases htarget with
  | field hfound =>
    cases h with
    | missing habsent => exact habsent (Fields.mem_keys_iff.2 ⟨v, hfound⟩)
    | scalar hobject => exact hobject _ rfl
  | item hspells hfits hitem =>
    cases h with
    | noIndex hother => exact hother _ hspells
    | tooLarge hlarge hmax =>
      have := hlarge.unique hspells
      omega
    | outOfRange hout hrange =>
      obtain rfl := hout.unique hspells
      rw [List.getElem?_eq_none hrange] at hitem
      cases hitem
    | scalar _ harray => exact harray _ rfl

theorem step?_eq_none_iff {j : Json} {segment : String} : j.step? segment = none ↔ Lost j segment := by
  constructor
  · intro h
    cases j with
    | array items =>
      by_cases hspells : ∃ i, Spells segment.toList i
      · obtain ⟨i, hi⟩ := hspells
        rcases Nat.lt_or_ge maxNat64 i with hlarge | hfits
        · exact .tooLarge hi hlarge
        · have hindex := Number.parseIndex_eq_some_iff.2 ⟨hi, hfits⟩
          have hitem : items[i]? = none := by
            rw [step?, hindex, Option.bind_some] at h
            exact h
          exact .outOfRange hi (List.getElem?_eq_none_iff.1 hitem)
      · exact .noIndex fun i hi => hspells ⟨i, hi⟩
    | object fields => exact .missing (Fields.not_mem_keys_iff.2 h)
    | null | bool | int | float | string => exact .scalar (fun _ h => nomatch h) (fun _ h => nomatch h)
  · intro h
    rw [Option.eq_none_iff_forall_ne_some]
    intro v hv
    exact h.no_target (step?_eq_some_iff.1 hv)

/-! ## Several segments -/

theorem follow?_cons (j : Json) (segment : String) (more : List String) :
    j.follow? (segment :: more) = (j.step? segment).bind fun u => u.follow? more := rfl

theorem follow?_append (j : Json) (before after : List String) :
    j.follow? (before ++ after) = (j.follow? before).bind fun u => u.follow? after := by
  induction before generalizing j with
  | nil => rfl
  | cons segment before ih =>
    rw [List.cons_append, follow?_cons, follow?_cons, Option.bind_assoc]
    exact congrArg _ (funext ih)

theorem follow?_eq_some_iff {j v : Json} {segments : List String} :
    j.follow? segments = some v ↔ Reaches j segments v := by
  constructor
  · intro h
    induction segments generalizing j with
    | nil =>
      cases h
      exact .here
    | cons segment more ih =>
      obtain ⟨u, hstep, hmore⟩ := Option.bind_eq_some_iff.1 h
      exact .step (step?_eq_some_iff.1 hstep) (ih hmore)
  · intro h
    induction h with
    | here => rfl
    | step htarget _ ih => exact Option.bind_eq_some_iff.2 ⟨_, step?_eq_some_iff.2 htarget, ih⟩

/-- Nothing is found exactly where a segment is lost after those before it have led somewhere. -/
theorem follow?_eq_none_iff {j : Json} {segments : List String} : j.follow? segments = none ↔
    ∃ before segment after u, segments = before ++ segment :: after ∧ Reaches j before u ∧ Lost u segment := by
  constructor
  · intro h
    induction segments generalizing j with
    | nil => cases h
    | cons segment more ih =>
      cases hstep : j.step? segment with
      | none => exact ⟨[], segment, more, j, rfl, .here, step?_eq_none_iff.1 hstep⟩
      | some u =>
        rw [follow?_cons, hstep, Option.bind_some] at h
        obtain ⟨before, lost, after, w, rfl, hreaches, hlost⟩ := ih h
        exact ⟨segment :: before, lost, after, w, rfl, .step (step?_eq_some_iff.1 hstep) hreaches, hlost⟩
  · rintro ⟨before, segment, after, u, rfl, hreaches, hlost⟩
    rw [follow?_append, follow?_eq_some_iff.2 hreaches, Option.bind_some, follow?_cons,
      step?_eq_none_iff.2 hlost, Option.bind_none]

/-! ## Paths and their segments -/

theorem segments_intercalate {steps : List String} (hne : steps ≠ [])
    (hdotless : ∀ s ∈ steps, '.' ∉ s.toList) : segments (".".intercalate steps) = steps := by
  have hpieces : ∀ piece ∈ steps.map String.toList, ∀ c ∈ piece, (c == '.') = false := by
    intro piece hpiece c hc
    obtain ⟨s, hs, rfl⟩ := List.mem_map.1 hpiece
    rw [beq_eq_false_iff_ne]
    rintro rfl
    exact hdotless s hs hc
  have hback : (steps.map String.toList).map String.ofList = steps := by
    rw [List.map_map]
    exact (List.map_congr_left fun s _ => String.ofList_toList).trans (List.map_id steps)
  have hsplit := Text.splitWhere_intercalate (s := '.') (by simpa using hne) hpieces rfl
  rw [segments, Text.splitOnChar, String.toList_intercalate]
  exact (congrArg _ hsplit).trans hback

theorem intercalate_segments (path : String) : ".".intercalate (segments path) = path := by
  have hback : (segments path).map String.toList = Text.splitWhere (· == '.') path.toList := by
    rw [segments, Text.splitOnChar, List.map_map]
    exact (List.map_congr_left fun _ _ => String.toList_ofList).trans (List.map_id _)
  rw [← String.toList_inj, String.toList_intercalate, hback]
  exact Text.intercalate_splitWhere (fun c hc => eq_of_beq hc) path.toList

/-- The segments of a path are the texts without full stops that it joins. -/
theorem segments_eq_iff {path : String} {steps : List String} : segments path = steps ↔
    steps ≠ [] ∧ (∀ s ∈ steps, '.' ∉ s.toList) ∧ ".".intercalate steps = path := by
  constructor
  · rintro rfl
    refine ⟨?_, ?_, intercalate_segments path⟩
    · simpa [segments, Text.splitOnChar] using Text.splitWhere_ne_nil _ path.toList
    · intro s hs hdot
      obtain ⟨piece, hpiece, rfl⟩ := List.mem_map.1 hs
      rw [String.toList_ofList] at hdot
      exact absurd (Text.of_mem_splitWhere hpiece '.' hdot) (by decide)
  · rintro ⟨hne, hdotless, rfl⟩
    exact segments_intercalate hne hdotless

theorem segments_append (p q : String) : segments (p ++ "." ++ q) = segments p ++ segments q := by
  have hchars : (p ++ "." ++ q).toList = p.toList ++ '.' :: q.toList := by simp
  rw [segments, segments, segments, Text.splitOnChar, Text.splitOnChar, Text.splitOnChar, hchars,
    Text.splitWhere_append_cons rfl, List.map_append]

theorem ne_empty_of_dot {path : String} (h : '.' ∈ path.toList) : path ≠ "" := by
  rintro rfl
  cases h

theorem intercalate_ne_empty {steps : List String} (hne : steps ≠ []) (hempty : steps ≠ [""]) :
    ".".intercalate steps ≠ "" := by
  match steps with
  | [] => exact absurd rfl hne
  | [s] =>
    rw [String.intercalate_singleton]
    rintro rfl
    exact hempty rfl
  | s :: t :: more =>
    apply ne_empty_of_dot
    rw [String.toList_intercalate]
    simp

theorem lookup?_of_ne {path : String} (h : path ≠ "") (j : Json) :
    j.lookup? path = j.follow? (segments path) := by
  rw [lookup?, if_neg (by simpa [String.isEmpty_iff] using h)]

/-! ## Parts of a value -/

/-- The values right below a value. -/
inductive Child : Json → Json → Prop where
  | field {fields : List (String × Json)} {key : String} {v : Json}
      (found : Fields.find? key fields = some v) : Child (.object fields) v
  | item {items : List Json} {v : Json} (mem : v ∈ items) : Child (.array items) v

/-- A value whose keys have no full stops, at any depth, and whose arrays have an index for every item. -/
structure Dotless (root : Json) : Prop where
  keys : ∀ fields, ReflTransGen Child root (.object fields) → ∀ key ∈ Fields.keys fields, '.' ∉ key.toList
  indices : ∀ items, ReflTransGen Child root (.array items) → items.length ≤ maxNat64 + 1

theorem Dotless.child {root u : Json} (h : Dotless root) (hu : Child root u) : Dotless u where
  keys fields hfields := h.keys fields (.head hu hfields)
  indices items hitems := h.indices items (.head hu hitems)

theorem dot_not_mem_digits (n : Nat) : '.' ∉ Number.digits n := by
  intro hdot
  exact absurd (Number.isDigit_of_mem_digits hdot) (by decide)

theorem Dotless.exists_target {root u : Json} (h : Dotless root) (hu : Child root u) :
    ∃ segment, '.' ∉ segment.toList ∧ Target root segment u := by
  cases hu with
  | @field fields key _ hfound =>
    exact ⟨key, h.keys fields .refl key (Fields.mem_keys_iff.2 ⟨u, hfound⟩), .field hfound⟩
  | @item items _ hmem =>
    obtain ⟨i, hi, hitem⟩ := List.mem_iff_getElem.1 hmem
    have hfits : i ≤ maxNat64 := by
      have := h.indices items .refl
      omega
    have hspells : Spells (String.ofList (Number.digits i)).toList i := by
      rw [String.toList_ofList]
      exact Number.spells_digits i
    refine ⟨String.ofList (Number.digits i), ?_, .item hspells hfits (List.getElem?_eq_some_iff.2 ⟨hi, hitem⟩)⟩
    rw [String.toList_ofList]
    exact dot_not_mem_digits i

/-- Segments without full stops lead to every part of a value whose keys have none. -/
theorem Dotless.exists_reaches {root node : Json} (h : Dotless root) (hnode : ReflTransGen Child root node) :
    ∃ steps, (∀ s ∈ steps, '.' ∉ s.toList) ∧ Reaches root steps node := by
  -- From the part up to the root, as a child of a value without full stops is again one.
  induction hnode using ReflTransGen.head_induction_on with
  | refl => exact ⟨[], by simp, .here⟩
  | head hchild _ ih =>
    obtain ⟨segment, hdotless, htarget⟩ := h.exists_target hchild
    obtain ⟨steps, hsteps, hreaches⟩ := ih (h.child hchild)
    exact ⟨segment :: steps, List.forall_mem_cons.2 ⟨hdotless, hsteps⟩, .step htarget hreaches⟩

/-- The one segment that the empty path cannot stand for leads to the field with the empty key. -/
theorem reaches_empty {root node : Json} (h : Reaches root [""] node) :
    ∃ fields, root = .object fields ∧ Fields.find? "" fields = some node := by
  cases h with
  | step htarget hrest =>
    cases hrest
    cases htarget with
    | field hfound => exact ⟨_, rfl, hfound⟩
    | item hspells => exact absurd rfl hspells.ne_nil

/-! ## What paths lead to -/

theorem lookup?_intercalate {root node : Json} {steps : List String} (hne : steps ≠ []) (hempty : steps ≠ [""])
    (hdotless : ∀ s ∈ steps, '.' ∉ s.toList) (h : Reaches root steps node) :
    root.lookup? (".".intercalate steps) = some node := by
  rw [lookup?_of_ne (intercalate_ne_empty hne hempty), segments_intercalate hne hdotless]
  exact follow?_eq_some_iff.2 h

theorem Dotless.exists_path {root node : Json} (h : Dotless root) (hnode : ReflTransGen Child root node) :
    (∃ path, root.lookup? path = some node) ∨
      ∃ fields, root = .object fields ∧ Fields.find? "" fields = some node := by
  obtain ⟨steps, hdotless, hreaches⟩ := h.exists_reaches hnode
  by_cases hne : steps = []
  · subst hne
    cases hreaches
    exact .inl ⟨"", rfl⟩
  by_cases hempty : steps = [""]
  · subst hempty
    exact .inr (reaches_empty hreaches)
  exact .inl ⟨_, lookup?_intercalate hne hempty hdotless hreaches⟩

theorem lookup?_append (root : Json) {p q : String} (hp : p ≠ "") (hq : q ≠ "") :
    root.lookup? (p ++ "." ++ q) = (root.lookup? p).bind fun u => u.lookup? q := by
  have hpq : p ++ "." ++ q ≠ "" := ne_empty_of_dot (by simp)
  rw [lookup?_of_ne hpq, lookup?_of_ne hp, segments_append, follow?_append]
  simp only [lookup?_of_ne hq]

theorem lookup?_of_dotless (root : Json) {key : String} (hne : key ≠ "") (hdotless : '.' ∉ key.toList) :
    root.lookup? key = root.step? key := by
  have hone : segments key = [key] :=
    segments_eq_iff.2 ⟨List.cons_ne_nil _ _, List.forall_mem_singleton.2 hdotless, String.intercalate_singleton⟩
  rw [lookup?_of_ne hne, hone, follow?_cons]
  exact Option.bind_fun_some _

theorem isNull_eq_false_iff {j : Json} : j.isNull = false ↔ j ≠ .null := by
  cases j <;> simp [isNull]

theorem get?_json_eq_some_iff {root : Json} {path : String} {item : Item} :
    (Payload.json root).get? path = some item ↔
      ∃ node, root.lookup? path = some node ∧ node ≠ .null ∧ item = .json node := by
  rw [Payload.get?, Option.map_eq_some_iff]
  simp only [Option.filter_eq_some_iff, Bool.not_eq_true', isNull_eq_false_iff, and_assoc, eq_comm (a := item)]

/-- **Paths lead to the parts of a value**: joined segments lead where the segments lead, so that every part
can be looked up if no key has a full stop, but for the field with the empty key. What a path leads to is
where its segments lead, and it leads nowhere exactly if one of them is lost. Joined paths are looked up one
after the other. A payload gives what is found, but no null. -/
theorem paths_lead_to_parts (root : Json) :
    (∀ steps node, steps ≠ [] → steps ≠ [""] → (∀ s ∈ steps, '.' ∉ s.toList) → Reaches root steps node →
      root.lookup? (".".intercalate steps) = some node) ∧
    (Dotless root → ∀ node, ReflTransGen Child root node →
      (∃ path, root.lookup? path = some node) ∨
        ∃ fields, root = .object fields ∧ Fields.find? "" fields = some node) ∧
    (∀ path, path ≠ "" →
      (∀ node, root.lookup? path = some node ↔ Reaches root (segments path) node) ∧
      (root.lookup? path = none ↔ ∃ before segment after u,
        segments path = before ++ segment :: after ∧ Reaches root before u ∧ Lost u segment)) ∧
    (∀ p q, p ≠ "" → q ≠ "" →
      root.lookup? (p ++ "." ++ q) = (root.lookup? p).bind fun u => u.lookup? q) ∧
    ∀ path item, (Payload.json root).get? path = some item ↔
      ∃ node, root.lookup? path = some node ∧ node ≠ .null ∧ item = .json node := by
  refine ⟨?_, ?_, ?_, ?_, ?_⟩
  · intro steps node hne hempty hdotless hreaches
    exact lookup?_intercalate hne hempty hdotless hreaches
  · intro hdotless node hnode
    exact hdotless.exists_path hnode
  · intro path hpath
    simp only [lookup?_of_ne hpath]
    exact ⟨fun node => follow?_eq_some_iff, follow?_eq_none_iff⟩
  · intro p q hp hq
    exact lookup?_append root hp hq
  · intro path item
    exact get?_json_eq_some_iff

end Harvest.Json
