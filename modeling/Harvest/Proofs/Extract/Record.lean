import Harvest.Proofs.Extract.Evaluation

/-!
# Records as unions of what their properties contribute

Each property contributes fields to the record of its parent: the fields of a record that merges, and
otherwise the one field of its value (`contribution`). The record is the union of the contributions, each
of them taken by itself, and a later property wins over an earlier one (`record_eq_union`). Seen through
merged objects of any depth, the last write of a key decides (`writesOfAll`).
-/

namespace Harvest

/-- The fields that a value adds to the record of the parent of its property. -/
def Schema.contributed (p : Schema) (value : Value) : Record :=
  match value with
  | .record fields => if p.mergeWithParent then Fields.ofList fields else [(p.id, .record fields)]
  | value => [(p.id, value)]

namespace Extract

open Fields (Ascending keys find? unionAll)

/-- The fields that a property adds to the record of its parent. -/
def contribution (r : Registry) (parent : Selection) (p : Schema) : Record :=
  p.contributed (evaluate p parent r).1

/-- The selector of a property is malformed, or nothing below the parent matches it. -/
def Unmatched (p : Schema) (parent : Selection) : Prop :=
  p.selector ≠ "" ∧ ∀ s, Selector.parse? p.selector = some s → (parent.find s).isEmpty = true

mutual

/-- The fields that a property writes, in their order; an object that merges writes what its properties
write. -/
def writes (r : Registry) (p : Schema) (parent : Selection) : List (String × Value) :=
  match p with
  | ⟨id, css, next, kind, merges, keyPath, valPath, limit, properties⟩ =>
    let p : Schema := ⟨id, css, next, kind, merges, keyPath, valPath, limit, properties⟩
    match kind, merges, located p parent with
    | .object, true, some nodes => writesOfAll r properties nodes
    | _, _, _ => contribution r parent p

/-- The fields that several properties write. -/
def writesOfAll (r : Registry) (properties : List Schema) (parent : Selection) :
    List (String × Value) :=
  match properties with
  | [] => []
  | p :: more => writes r p parent ++ writesOfAll r more parent

end

/-! ## Contributions -/

theorem ascending_contributed (p : Schema) (value : Value) : Ascending (p.contributed value) := by
  unfold Schema.contributed
  split
  · split
    · exact Ascending.ofList _
    · exact List.pairwise_singleton _ _
  · exact List.pairwise_singleton _ _

theorem contributed_of_not_merged {p : Schema} {value : Value}
    (h : p.mergeWithParent = true → value.record? = none) : p.contributed value = [(p.id, value)] := by
  cases value with
  | record fields =>
    have hnot : ¬p.mergeWithParent = true := by
      intro hmerges
      cases h hmerges
    exact if_neg hnot
  | null | text | integer | list | map => rfl

theorem ascending_contribution (r : Registry) (parent : Selection) (p : Schema) :
    Ascending (contribution r parent p) :=
  ascending_contributed p _

/-- A value is put into a record by putting in what it contributes, unless it is left out. -/
theorem mergeProperty_eq (keepNull : Bool) (p : Schema) (value : Value) {fields : Record}
    (h : Ascending fields) :
    mergeProperty keepNull p.id p.mergeWithParent value fields =
      if value.isNull && !keepNull then fields
      else Fields.extend fields (p.contributed value) := by
  cases value with
  | null => cases keepNull <;> rfl
  | record more =>
    have hnull : (Value.record more).isNull = false := rfl
    rw [hnull, Bool.false_and, if_neg Bool.false_ne_true, mergeProperty, Schema.contributed]
    split
    · rw [h.extend_ofList]
    · rfl
  | text | integer | list | map => rfl

theorem ascending_mergeProperty (keepNull : Bool) (p : Schema) (value : Value) {fields : Record}
    (h : Ascending fields) :
    Ascending (mergeProperty keepNull p.id p.mergeWithParent value fields) := by
  rw [mergeProperty_eq keepNull p value h]
  split
  · exact h
  · exact h.extend _

/-- The properties that a record keeps. -/
def kept (keepNull : Bool) (r : Registry) (parent : Selection) (properties : List Schema) :
    List Schema :=
  properties.filter fun p => !(evaluate p parent r).1.isNull || keepNull

theorem foldl_mergeProperty_eq (keepNull : Bool) (properties : List Schema) (parent : Selection)
    (r : Registry) {fields : Record} (h : Ascending fields) :
    properties.foldl (fun acc p =>
        mergeProperty keepNull p.id p.mergeWithParent (evaluate p parent r).1 acc) fields =
      ((kept keepNull r parent properties).map (contribution r parent)).foldl Fields.extend
        fields := by
  induction properties generalizing fields with
  | nil => rfl
  | cons p more ih =>
    rw [List.foldl_cons, ih (ascending_mergeProperty keepNull p _ h), mergeProperty_eq keepNull p _ h,
      kept, kept, List.filter_cons]
    cases hnull : (evaluate p parent r).1.isNull <;> cases keepNull <;> rfl

/-- Each mode makes the union of the contributions that it keeps. -/
theorem mergeAll_eq_unionAll (keepNull : Bool) (properties : List Schema) (parent : Selection)
    (r : Registry) :
    (mergeAll keepNull properties parent [] r).1 =
      unionAll ((kept keepNull r parent properties).map (contribution r parent)) := by
  rw [mergeAll_eq_foldl, foldl_mergeProperty_eq keepNull properties parent r Ascending.nil]
  rfl

theorem record_eq_unionAll (properties : List Schema) (parent : Selection) (r : Registry) :
    (record properties parent r).1 = unionAll (properties.map (contribution r parent)) := by
  rw [record, mergeAll_eq_unionAll, kept]
  simp

theorem nestedRecord_eq_unionAll (properties : List Schema) (parent : Selection) (r : Registry) :
    (nestedRecord properties parent r).1 =
      unionAll ((properties.filter fun p => !(evaluate p parent r).1.isNull).map
        (contribution r parent)) := by
  rw [nestedRecord, mergeAll_eq_unionAll, kept]
  simp

theorem ascending_record (properties : List Schema) (parent : Selection) (r : Registry) :
    Ascending (record properties parent r).1 :=
  record_eq_unionAll properties parent r ▸ Fields.ascending_unionAll _

/-! ## Writes through merged objects -/

theorem contribution_of_object {p : Schema} {parent nodes : Selection} (r : Registry)
    (hkind : p.kind = .object) (hmerges : p.mergeWithParent = true)
    (hloc : located p parent = some nodes) :
    contribution r parent p = (record p.properties nodes r).1 := by
  rw [contribution, evaluate_of_located hloc, readNodes, hkind]
  change (if p.mergeWithParent then Fields.ofList (record p.properties nodes r).1 else _) = _
  rw [if_pos hmerges, (ascending_record p.properties nodes r).ofList_eq]

theorem writes_of_object {p : Schema} {parent nodes : Selection} (r : Registry)
    (hkind : p.kind = .object) (hmerges : p.mergeWithParent = true)
    (hloc : located p parent = some nodes) :
    writes r p parent = writesOfAll r p.properties nodes := by
  obtain ⟨id, css, next, kind, merges, keyPath, valPath, limit, properties⟩ := p
  change kind = .object at hkind
  change merges = true at hmerges
  subst hkind hmerges
  rw [writes]
  simp only [hloc]

theorem writes_of_not_object {p : Schema} {parent : Selection} (r : Registry)
    (h : p.kind = .object → p.mergeWithParent = true → located p parent = none) :
    writes r p parent = contribution r parent p := by
  obtain ⟨id, css, next, kind, merges, keyPath, valPath, limit, properties⟩ := p
  rw [writes]
  intro nodes hkind hmerges hloc
  rw [h hkind hmerges] at hloc
  cases hloc

theorem mem_writesOfAll {r : Registry} {properties : List Schema} {parent : Selection}
    {f : String × Value} (h : f ∈ writesOfAll r properties parent) :
    ∃ p ∈ properties, f ∈ writes r p parent := by
  induction properties with
  | nil => cases h
  | cons p more ih =>
    rw [writesOfAll, List.mem_append] at h
    rcases h with h | h
    · exact ⟨p, List.mem_cons_self, h⟩
    · obtain ⟨q, hq, hf⟩ := ih h
      exact ⟨q, List.mem_cons_of_mem p hq, hf⟩

theorem unionAll_contributions_eq {properties : List Schema}
    (h : ∀ p ∈ properties, ∀ r parent,
      contribution r parent p = Fields.ofList (writes r p parent))
    (r : Registry) (parent : Selection) :
    unionAll (properties.map (contribution r parent)) =
      Fields.ofList (writesOfAll r properties parent) := by
  induction properties with
  | nil => rfl
  | cons p more ih =>
    have hmore := ih fun q hq => h q (List.mem_cons_of_mem p hq)
    refine (Fields.ascending_unionAll _).ext (Ascending.ofList _) fun key => ?_
    rw [List.map_cons, ← List.singleton_append, Fields.find?_unionAll_append, hmore,
      Fields.unionAll_singleton (ascending_contribution r parent p), h p List.mem_cons_self,
      writesOfAll, Fields.find?_ofList, Fields.find?_ofList, Fields.find?_ofList,
      List.reverse_append, Fields.find?_append]

/-- What a property contributes is what it writes, the last write of each key counting. -/
theorem contribution_eq_ofList_writes (p : Schema) (r : Registry) (parent : Selection) :
    contribution r parent p = Fields.ofList (writes r p parent) := by
  induction p using Schema.induction generalizing r parent with
  | node p ih =>
    by_cases hobject : p.kind = .object ∧ p.mergeWithParent = true
    · obtain ⟨hkind, hmerges⟩ := hobject
      cases hloc : located p parent with
      | none =>
        rw [writes_of_not_object r fun _ _ => hloc, (ascending_contribution r parent p).ofList_eq]
      | some nodes =>
        rw [contribution_of_object r hkind hmerges hloc, writes_of_object r hkind hmerges hloc,
          record_eq_unionAll, unionAll_contributions_eq fun q hq r parent => ih q hq r parent]
    · rw [writes_of_not_object r fun hk hm => absurd ⟨hk, hm⟩ hobject,
        (ascending_contribution r parent p).ofList_eq]

theorem record_eq_ofList_writes (properties : List Schema) (parent : Selection) (r : Registry) :
    (record properties parent r).1 = Fields.ofList (writesOfAll r properties parent) := by
  rw [record_eq_unionAll,
    unionAll_contributions_eq fun p _ r parent => contribution_eq_ofList_writes p r parent]

/-! ## Properties that are not found -/

theorem located_of_unmatched {p : Schema} {parent : Selection} (h : Unmatched p parent) :
    located p parent = none := by
  obtain ⟨hne, hnone⟩ := h
  rw [located]
  split
  · rfl
  · rw [propertyNodes, if_neg (by simpa using hne)]
    cases hs : Selector.parse? p.selector with
    | none => rfl
    | some s => exact if_pos (hnone s hs)

theorem contribution_of_unmatched {p : Schema} {parent : Selection} (r : Registry)
    (h : Unmatched p parent) : contribution r parent p = [(p.id, .null)] := by
  rw [contribution, evaluate_of_located_none (located_of_unmatched h)]
  rfl

/-- A property that is not found touches no key but its own. -/
theorem find?_record_of_unmatched {before after : List Schema} {p : Schema} {parent : Selection}
    (r : Registry) (h : Unmatched p parent) {key : String} (hkey : key ≠ p.id) :
    find? key (record (before ++ p :: after) parent r).1 =
      find? key (record (before ++ after) parent r).1 := by
  have hp : find? key (unionAll [contribution r parent p]) = none := by
    rw [Fields.unionAll_singleton (ascending_contribution r parent p),
      contribution_of_unmatched r h, Fields.find?_cons, if_neg (Ne.symm hkey), Fields.find?_nil]
  rw [record_eq_unionAll, record_eq_unionAll, List.map_append, List.map_append, List.map_cons,
    List.append_cons, Fields.find?_unionAll_append, Fields.find?_unionAll_append,
    Fields.find?_unionAll_append, hp, Option.none_or]

/-! ## The law of records -/

/-- **A record is the left-to-right union of what its properties contribute**, each read by itself from the
same parent and registry. So a key is there exactly if some property contributes it; the last property
that contributes it decides, and within merged objects of any depth the last write; a property that is not
found adds its null and changes no other key; properties with separate keys may come in any order. A
nested record is the record of the properties that have a value. -/
theorem record_eq_union (properties : List Schema) (parent : Selection) (r : Registry) :
    (record properties parent r).1 = unionAll (properties.map (contribution r parent)) ∧
    (∀ key, key ∈ keys (record properties parent r).1 ↔
      ∃ p ∈ properties, key ∈ keys (contribution r parent p)) ∧
    (∀ before p after key, properties = before ++ p :: after →
      key ∈ keys (contribution r parent p) →
      (∀ q ∈ after, key ∉ keys (contribution r parent q)) →
      find? key (record properties parent r).1 = find? key (contribution r parent p)) ∧
    (∀ key, find? key (record properties parent r).1 =
      find? key (writesOfAll r properties parent).reverse) ∧
    (∀ before p after, properties = before ++ p :: after → Unmatched p parent →
      contribution r parent p = [(p.id, .null)] ∧
      ∀ key ≠ p.id, find? key (record properties parent r).1 =
        find? key (record (before ++ after) parent r).1) ∧
    (∀ others, properties.Perm others →
      Fields.Disjoint (properties.map (contribution r parent)) →
      (record properties parent r).1 = (record others parent r).1) ∧
    (nestedRecord properties parent r).1 =
      (record (properties.filter fun p => !(evaluate p parent r).1.isNull) parent r).1 := by
  have hunion := record_eq_unionAll properties parent r
  have hasc : ∀ part ∈ properties.map (contribution r parent), Ascending part := by
    intro part hpart
    obtain ⟨p, -, rfl⟩ := List.mem_map.1 hpart
    exact ascending_contribution r parent p
  refine ⟨hunion, fun key => ?_, ?_, fun key => ?_, ?_, fun others hperm hdisjoint => ?_, ?_⟩
  · rw [hunion, Fields.mem_keys_unionAll]
    simp
  · rintro before p after key rfl hkey hafter
    rw [hunion, List.map_append, List.map_cons]
    refine Fields.find?_unionAll_of_last (ascending_contribution r parent p) hkey fun part hpart => ?_
    obtain ⟨q, hq, rfl⟩ := List.mem_map.1 hpart
    exact hafter q hq
  · rw [record_eq_ofList_writes, Fields.find?_ofList]
  · rintro before p after rfl hunmatched
    exact ⟨contribution_of_unmatched r hunmatched,
      fun key hkey => find?_record_of_unmatched r hunmatched hkey⟩
  · rw [hunion, record_eq_unionAll others]
    exact Fields.unionAll_perm (hperm.map _) hasc hdisjoint
  · rw [nestedRecord_eq_unionAll, record_eq_unionAll]

end Extract

end Harvest
