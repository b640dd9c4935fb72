import Harvest.Fields
import Mathlib.Data.String.Basic

/-!
# Field lists as maps

`Fields.find?` is the view of a field list as a map. `insert` changes the value of one key and no other
(`find?_insert`), and setting fields one after the other leaves at each key the value that was set last
(`find?_extend`). Lists with ascending keys, which is what `insert` keeps (`Ascending.insert`), are equal
as soon as they are equal as maps (`Ascending.ext`).
-/

namespace Harvest.Fields

variable {α : Type}

/-! ## The view as a map -/

@[simp] theorem find?_nil (key : String) : find? key ([] : Fields α) = none := rfl

theorem find?_cons (key k : String) (value : α) (rest : Fields α) :
    find? key ((k, value) :: rest) = if k = key then some value else find? key rest := rfl

theorem find?_append (key : String) (fields more : Fields α) :
    find? key (fields ++ more) = (find? key fields).or (find? key more) := by
  induction fields with
  | nil => rfl
  | cons f rest ih =>
    obtain ⟨k, v⟩ := f
    rw [List.cons_append, find?_cons, find?_cons]
    by_cases h : k = key
    · rw [if_pos h, if_pos h, Option.some_or]
    · rw [if_neg h, if_neg h, ih]

/-- A key is present exactly if it has a value. -/
theorem mem_keys_iff {key : String} {fields : Fields α} :
    key ∈ keys fields ↔ ∃ value, find? key fields = some value := by
  induction fields with
  | nil => simp [keys]
  | cons f rest ih =>
    obtain ⟨k, v⟩ := f
    rw [find?_cons, keys, List.map_cons, List.mem_cons]
    by_cases h : k = key
    · rw [if_pos h]
      exact ⟨fun _ => ⟨v, rfl⟩, fun _ => Or.inl h.symm⟩
    · rw [if_neg h, ← ih]
      exact ⟨fun hm => hm.resolve_left fun he => h he.symm, Or.inr⟩

theorem not_mem_keys_iff {key : String} {fields : Fields α} :
    key ∉ keys fields ↔ find? key fields = none := by
  rw [mem_keys_iff, not_exists, ← Option.eq_none_iff_forall_ne_some]

/-! ## Setting fields -/

/-- Setting a field changes the value of its key and no other. -/
theorem find?_insert (key k : String) (value : α) (fields : Fields α) :
    find? k (insert key value fields) = if key = k then some value else find? k fields := by
  induction fields with
  | nil => rfl
  | cons f rest ih =>
    obtain ⟨k', v⟩ := f
    simp only [insert]
    split
    · rfl
    · split
      · next _ he =>
        subst he
        rw [find?_cons, find?_cons]
        by_cases h : key = k
        · rw [if_pos h, if_pos h]
        · rw [if_neg h, if_neg h, if_neg h]
      · next _ hne =>
        rw [find?_cons, find?_cons, ih]
        by_cases h : k' = k
        · rw [if_pos h, if_pos h, if_neg fun hk => hne (hk.trans h.symm)]
        · rw [if_neg h, if_neg h]

theorem mem_insert {key : String} {value : α} {fields : Fields α} {f : String × α}
    (h : f ∈ insert key value fields) : f = (key, value) ∨ f ∈ fields := by
  induction fields with
  | nil => exact Or.inl (List.mem_singleton.1 h)
  | cons g rest ih =>
    obtain ⟨k, v⟩ := g
    simp only [insert] at h
    split at h
    · exact List.mem_cons.1 h
    · split at h
      · exact (List.mem_cons.1 h).imp_right (List.mem_cons_of_mem _)
      · rcases List.mem_cons.1 h with rfl | h
        · exact Or.inr List.mem_cons_self
        · exact (ih h).imp_right (List.mem_cons_of_mem _)

theorem extend_append (fields : Fields α) (more others : List (String × α)) :
    extend fields (more ++ others) = extend (extend fields more) others := by
  unfold extend
  rw [List.foldl_append]

/-- Fields set one after the other leave at each key the value that was set last. -/
theorem find?_extend (key : String) (fields : Fields α) (more : List (String × α)) :
    find? key (extend fields more) = (find? key more.reverse).or (find? key fields) := by
  induction more generalizing fields with
  | nil => rfl
  | cons f rest ih =>
    obtain ⟨k, v⟩ := f
    have hstep : extend fields ((k, v) :: rest) = extend (insert k v fields) rest := rfl
    rw [hstep, ih, find?_insert, List.reverse_cons, find?_append, find?_cons, find?_nil,
      Option.or_assoc]
    by_cases h : k = key
    · rw [if_pos h, if_pos h, Option.some_or]
    · rw [if_neg h, if_neg h, Option.none_or]

theorem find?_ofList (key : String) (fields : List (String × α)) :
    find? key (ofList fields) = find? key fields.reverse := by
  rw [ofList, find?_extend, find?_nil, Option.or_none]

theorem mem_keys_ofList {key : String} {fields : List (String × α)} :
    key ∈ keys (ofList fields) ↔ key ∈ keys fields := by
  rw [mem_keys_iff, find?_ofList, ← mem_keys_iff, keys, keys, List.map_reverse, List.mem_reverse]

theorem mem_extend {fields : Fields α} {more : List (String × α)} {f : String × α}
    (h : f ∈ extend fields more) : f ∈ more ∨ f ∈ fields := by
  induction more generalizing fields with
  | nil => exact Or.inr h
  | cons g rest ih =>
    rcases @ih (insert g.1 g.2 fields) h with hm | hm
    · exact Or.inl (List.mem_cons_of_mem _ hm)
    · rcases mem_insert hm with rfl | hm
      · exact Or.inl List.mem_cons_self
      · exact Or.inr hm

theorem mem_ofList {fields : List (String × α)} {f : String × α} (h : f ∈ ofList fields) :
    f ∈ fields :=
  (mem_extend h).resolve_right List.not_mem_nil

/-! ## Other values under the same keys -/

theorem find?_mapValues {β : Type} (f : α → β) (key : String) (fields : Fields α) :
    find? key (fields.map fun q => (q.1, f q.2)) = (find? key fields).map f := by
  induction fields with
  | nil => rfl
  | cons g rest ih =>
    obtain ⟨k, v⟩ := g
    rw [List.map_cons, find?_cons, find?_cons, ih]
    by_cases h : k = key
    · rw [if_pos h, if_pos h, Option.map_some]
    · rw [if_neg h, if_neg h]

theorem map_congr {β : Type} {f g : String × α → β} {fields : Fields α} (h : ∀ q ∈ fields, f q = g q) :
    (fields.map fun q => (q.1, f q)) = fields.map fun q => (q.1, g q) :=
  List.map_congr_left fun q hq => congrArg (Prod.mk q.1) (h q hq)

theorem keys_mapValues {β : Type} (f : α → β) (fields : Fields α) :
    keys (fields.map fun q => (q.1, f q.2)) = keys fields := by
  rw [keys, keys, List.map_map]
  rfl

theorem insert_mapValues {β : Type} (f : α → β) (key : String) (value : α) (fields : Fields α) :
    insert key (f value) (fields.map fun q => (q.1, f q.2)) =
      (insert key value fields).map fun q => (q.1, f q.2) := by
  induction fields with
  | nil => rfl
  | cons g rest ih =>
    obtain ⟨k, v⟩ := g
    simp only [List.map_cons, insert, ih]
    split
    · rfl
    · split <;> rfl

theorem extend_mapValues {β : Type} (f : α → β) (fields : Fields α) (more : List (String × α)) :
    extend (fields.map fun q => (q.1, f q.2)) (more.map fun q => (q.1, f q.2)) =
      (extend fields more).map fun q => (q.1, f q.2) := by
  induction more generalizing fields with
  | nil => rfl
  | cons g rest ih =>
    refine Eq.trans ?_ (ih (insert g.1 g.2 fields))
    rw [← insert_mapValues]
    rfl

theorem ofList_mapValues {β : Type} (f : α → β) (fields : List (String × α)) :
    ofList (fields.map fun q => (q.1, f q.2)) = (ofList fields).map fun q => (q.1, f q.2) :=
  extend_mapValues f [] fields

/-! ## Ascending keys -/

/-- The keys ascend, so that none occurs twice. -/
def Ascending (fields : Fields α) : Prop :=
  fields.Pairwise fun f g => f.1 < g.1

namespace Ascending

theorem nil : Ascending ([] : Fields α) := List.Pairwise.nil

theorem insert {fields : Fields α} (h : Ascending fields) (key : String) (value : α) :
    Ascending (insert key value fields) := by
  induction fields with
  | nil => exact List.pairwise_singleton _ _
  | cons f rest ih =>
    obtain ⟨k, v⟩ := f
    obtain ⟨hhead, hrest⟩ := List.pairwise_cons.1 h
    simp only [Fields.insert]
    split
    · next hlt =>
      refine List.pairwise_cons.2 ⟨fun g hg => ?_, h⟩
      rcases List.mem_cons.1 hg with rfl | hg
      · exact hlt
      · exact lt_trans hlt (hhead g hg)
    · next hnlt =>
      split
      · next he =>
        subst he
        exact List.pairwise_cons.2 ⟨hhead, hrest⟩
      · next hne =>
        have hlt : k < key := lt_of_le_of_ne (not_lt.1 hnlt) (Ne.symm hne)
        refine List.pairwise_cons.2 ⟨fun g hg => ?_, ih hrest⟩
        rcases mem_insert hg with rfl | hg
        · exact hlt
        · exact hhead g hg

theorem extend {fields : Fields α} (h : Ascending fields) (more : List (String × α)) :
    Ascending (extend fields more) := by
  induction more generalizing fields with
  | nil => exact h
  | cons f rest ih => exact ih (h.insert f.1 f.2)

theorem ofList (fields : List (String × α)) : Ascending (ofList fields) :=
  nil.extend fields

theorem mapValues {β : Type} {fields : Fields α} (h : Ascending fields) (f : α → β) :
    Ascending (fields.map fun q => (q.1, f q.2)) :=
  List.pairwise_map.2 h

/-- A key below all others is not found. -/
theorem find?_eq_none_of_lt {key : String} {fields : Fields α} (h : ∀ f ∈ fields, key < f.1) :
    find? key fields = none := by
  rw [← not_mem_keys_iff]
  intro hm
  obtain ⟨f, hf, he⟩ := List.mem_map.1 hm
  exact lt_irrefl key (he ▸ h f hf)

/-- As no key occurs twice, the order in which fields are looked at does not matter. -/
theorem find?_reverse {fields : Fields α} (h : Ascending fields) (key : String) :
    find? key fields.reverse = find? key fields := by
  induction fields with
  | nil => rfl
  | cons f rest ih =>
    obtain ⟨k, v⟩ := f
    obtain ⟨hhead, hrest⟩ := List.pairwise_cons.1 h
    rw [List.reverse_cons, find?_append, ih hrest, find?_cons, find?_cons, find?_nil]
    by_cases he : k = key
    · subst he
      rw [find?_eq_none_of_lt hhead, Option.none_or]
    · rw [if_neg he, if_neg he, Option.or_none]

/-- Ascending field lists are equal if they have the same values. -/
theorem ext {fields others : Fields α} (h₁ : Ascending fields) (h₂ : Ascending others)
    (h : ∀ key, find? key fields = find? key others) : fields = others := by
  induction fields generalizing others with
  | nil =>
    cases others with
    | nil => rfl
    | cons g rest =>
      have hg := h g.1
      rw [find?_nil, find?_cons, if_pos rfl] at hg
      cases hg
  | cons f more ih =>
    obtain ⟨k, v⟩ := f
    obtain ⟨hk, hmore⟩ := List.pairwise_cons.1 h₁
    cases others with
    | nil =>
      have hf := h k
      rw [find?_nil, find?_cons, if_pos rfl] at hf
      cases hf
    | cons g rest =>
      obtain ⟨k', v'⟩ := g
      obtain ⟨hk', hrest⟩ := List.pairwise_cons.1 h₂
      have hkeys : k = k' := by
        rcases lt_trichotomy k k' with hlt | he | hlt
        · have hf := h k
          rw [find?_cons, if_pos rfl, find?_cons, if_neg hlt.ne',
            find?_eq_none_of_lt fun f hf => lt_trans hlt (hk' f hf)] at hf
          cases hf
        · exact he
        · have hg := h k'
          rw [find?_cons, if_neg hlt.ne', find?_cons, if_pos rfl,
            find?_eq_none_of_lt fun f hf => lt_trans hlt (hk f hf)] at hg
          cases hg
      subst hkeys
      have hv := h k
      rw [find?_cons, if_pos rfl, find?_cons, if_pos rfl] at hv
      cases hv
      congr 1
      refine ih hmore hrest fun key => ?_
      by_cases he : k = key
      · subst he
        rw [find?_eq_none_of_lt hk, find?_eq_none_of_lt hk']
      · have hkey := h key
        rw [find?_cons, if_neg he, find?_cons, if_neg he] at hkey
        exact hkey

theorem ofList_eq {fields : Fields α} (h : Ascending fields) : Fields.ofList fields = fields :=
  ext (ofList fields) h fun key => by rw [find?_ofList, h.find?_reverse]

/-- Only the last value of each key counts. -/
theorem extend_ofList {fields : Fields α} (h : Ascending fields) (more : List (String × α)) :
    Fields.extend fields (Fields.ofList more) = Fields.extend fields more :=
  ext (h.extend _) (h.extend _) fun key => by
    rw [find?_extend, find?_extend, (ofList more).find?_reverse, find?_ofList]

end Ascending

/-! ## Unions -/

/-- The union of field lists; a later one wins over an earlier one. -/
def unionAll (parts : List (Fields α)) : Fields α :=
  parts.foldl extend []

theorem foldl_extend_eq_extend (fields : Fields α) (parts : List (Fields α)) :
    parts.foldl extend fields = extend fields parts.flatten := by
  induction parts generalizing fields with
  | nil => rfl
  | cons part more ih => rw [List.foldl_cons, ih, List.flatten_cons, extend_append]

theorem unionAll_eq_ofList (parts : List (Fields α)) : unionAll parts = ofList parts.flatten :=
  foldl_extend_eq_extend [] parts

theorem ascending_unionAll (parts : List (Fields α)) : Ascending (unionAll parts) :=
  unionAll_eq_ofList parts ▸ Ascending.ofList _

/-- A key is present exactly if one of the lists has it. -/
theorem mem_keys_unionAll {key : String} {parts : List (Fields α)} :
    key ∈ keys (unionAll parts) ↔ ∃ part ∈ parts, key ∈ keys part := by
  rw [unionAll_eq_ofList, mem_keys_ofList, keys, List.map_flatten, List.mem_flatten]
  constructor
  · rintro ⟨ks, hks, hkey⟩
    obtain ⟨part, hpart, rfl⟩ := List.mem_map.1 hks
    exact ⟨part, hpart, hkey⟩
  · rintro ⟨part, hpart, hkey⟩
    exact ⟨part.map Prod.fst, List.mem_map_of_mem hpart, hkey⟩

/-- Of two unions in a row the second wins. -/
theorem find?_unionAll_append (key : String) (parts more : List (Fields α)) :
    find? key (unionAll (parts ++ more)) =
      (find? key (unionAll more)).or (find? key (unionAll parts)) := by
  simp only [unionAll_eq_ofList, find?_ofList, List.flatten_append, List.reverse_append,
    find?_append]

theorem unionAll_singleton {part : Fields α} (h : Ascending part) : unionAll [part] = part :=
  h.ofList_eq

/-- The value of a key is the one of the last list that has it. -/
theorem find?_unionAll_of_last {key : String} {before after : List (Fields α)} {part : Fields α}
    (hpart : Ascending part) (hkey : key ∈ keys part) (hafter : ∀ q ∈ after, key ∉ keys q) :
    find? key (unionAll (before ++ part :: after)) = find? key part := by
  have hnone : find? key (unionAll after) = none := by
    rw [← not_mem_keys_iff, mem_keys_unionAll]
    rintro ⟨q, hq, hmem⟩
    exact hafter q hq hmem
  obtain ⟨value, hvalue⟩ := mem_keys_iff.1 hkey
  rw [List.append_cons, find?_unionAll_append, find?_unionAll_append, hnone, Option.none_or,
    unionAll_singleton hpart, hvalue, Option.some_or]

/-- A key has the value that the last list with this key gives it. -/
theorem find?_unionAll_map_eq_some_iff {β : Type} {part : β → Fields α} {items : List β}
    (hasc : ∀ item ∈ items, Ascending (part item)) {key : String} {value : α} :
    find? key (unionAll (items.map part)) = some value ↔
      ∃ before item after, items = before ++ item :: after ∧ find? key (part item) = some value ∧
        ∀ later ∈ after, key ∉ keys (part later) := by
  constructor
  · intro h
    induction items with
    | nil => cases h
    | cons item items ih =>
      have hitem : Ascending (part item) := hasc item List.mem_cons_self
      rw [List.map_cons, ← List.singleton_append, find?_unionAll_append, unionAll_singleton hitem] at h
      cases hmore : find? key (unionAll (items.map part)) with
      | some other =>
        rw [hmore] at h
        obtain ⟨before, found, after, rfl, hfound, hafter⟩ :=
          ih (fun later hlater => hasc later (List.mem_cons_of_mem item hlater)) (hmore.trans h)
        exact ⟨item :: before, found, after, rfl, hfound, hafter⟩
      | none =>
        rw [hmore] at h
        refine ⟨[], item, items, rfl, h, fun later hlater hkey => ?_⟩
        rw [← not_mem_keys_iff, mem_keys_unionAll] at hmore
        exact hmore ⟨part later, List.mem_map_of_mem hlater, hkey⟩
  · rintro ⟨before, item, after, rfl, hitem, hafter⟩
    have hkey : key ∈ keys (part item) := mem_keys_iff.2 ⟨value, hitem⟩
    have hafter' : ∀ q ∈ after.map part, key ∉ keys q := by
      intro q hq
      obtain ⟨later, hlater, rfl⟩ := List.mem_map.1 hq
      exact hafter later hlater
    have hasc' : Ascending (part item) := hasc item (List.mem_append_right _ List.mem_cons_self)
    rw [List.map_append, List.map_cons, find?_unionAll_of_last hasc' hkey hafter', hitem]

/-- No key is in two of the lists. -/
def Disjoint (parts : List (Fields α)) : Prop :=
  parts.Pairwise fun f g => ∀ key ∈ keys f, key ∉ keys g

theorem Disjoint.perm {parts others : List (Fields α)} (h : Disjoint parts)
    (hp : parts.Perm others) : Disjoint others :=
  hp.pairwise h fun {_ _} hfg key hg hf => hfg key hf hg

theorem Disjoint.find?_unionAll {parts : List (Fields α)} (h : Disjoint parts)
    (hasc : ∀ part ∈ parts, Ascending part) {key : String} {part : Fields α} (hpart : part ∈ parts)
    (hkey : key ∈ keys part) : find? key (unionAll parts) = find? key part := by
  obtain ⟨before, after, rfl⟩ := List.append_of_mem hpart
  have hafter : ∀ q ∈ after, key ∉ keys q := fun q hq =>
    (List.pairwise_cons.1 (List.pairwise_append.1 h).2.1).1 q hq key hkey
  exact find?_unionAll_of_last (hasc part hpart) hkey hafter

/-- Where no key is in two of the lists, their order does not matter. -/
theorem unionAll_perm {parts others : List (Fields α)} (hp : parts.Perm others)
    (hasc : ∀ part ∈ parts, Ascending part) (h : Disjoint parts) :
    unionAll parts = unionAll others := by
  refine (ascending_unionAll parts).ext (ascending_unionAll others) fun key => ?_
  have hasc' : ∀ part ∈ others, Ascending part := fun part hm => hasc part (hp.mem_iff.2 hm)
  by_cases hkey : ∃ part ∈ parts, key ∈ keys part
  · obtain ⟨part, hpart, hmem⟩ := hkey
    rw [h.find?_unionAll hasc hpart hmem,
      (h.perm hp).find?_unionAll hasc' (hp.mem_iff.1 hpart) hmem]
  · have hkey' : ¬ ∃ part ∈ others, key ∈ keys part := by
      rintro ⟨part, hpart, hmem⟩
      exact hkey ⟨part, hp.mem_iff.2 hpart, hmem⟩
    rw [← mem_keys_unionAll, not_mem_keys_iff] at hkey hkey'
    rw [hkey, hkey']

end Harvest.Fields
