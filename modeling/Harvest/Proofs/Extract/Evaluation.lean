import Harvest.Extract.Evaluate
import Harvest.Proofs.Fields

/-!
# What evaluation reads and what it leaves behind

`evaluate` first finds the elements of a property (`located`) and then reads them by the type of the
property (`readNodes`); `evaluate_eq` is all that later proofs need of its definition. The names that an
evaluation looks up depend on the schema and the elements alone (`lookups`). The registry is left as those
lookups leave it (`evaluate_registry`), and its entries under those names are all that the value depends on
(`evaluate_congr`). Hence the properties of a record are read as if each were read alone
(`mergeAll_eq_foldl`).
-/

namespace Harvest

/-- What passes from the properties of a schema to the schema holds of all schemas. -/
theorem Schema.induction {motive : Schema → Prop}
    (node : ∀ s : Schema, (∀ p ∈ s.properties, motive p) → motive s) : ∀ s, motive s
  | ⟨_, _, _, _, _, _, _, _, _⟩ => node _ fun p hp =>
    have : sizeOf p < _ := List.sizeOf_lt_of_mem hp
    Schema.induction node p

/-! ## Registries after lookups -/

namespace Registry

/-- The registry after lookups of several names. -/
def afterLookups (r : Registry) (names : List String) : Registry :=
  names.foldl (fun r name => (r.lookup name).2) r

@[simp] theorem afterLookups_nil (r : Registry) : r.afterLookups [] = r := rfl

@[simp] theorem afterLookups_cons (r : Registry) (name : String) (names : List String) :
    r.afterLookups (name :: names) = (r.lookup name).2.afterLookups names := rfl

theorem afterLookups_append (r : Registry) (names others : List String) :
    r.afterLookups (names ++ others) = (r.afterLookups names).afterLookups others := by
  unfold afterLookups
  rw [List.foldl_append]

@[simp] theorem lookup_types (r : Registry) (name : String) : (r.lookup name).2.types = r.types := rfl

@[simp] theorem lookup_isSealed (r : Registry) (name : String) :
    (r.lookup name).2.isSealed = true := rfl

/-- Lookups leave the types as they are. -/
@[simp] theorem afterLookups_types (r : Registry) (names : List String) :
    (r.afterLookups names).types = r.types := by
  induction names generalizing r with
  | nil => rfl
  | cons name names ih => rw [afterLookups_cons, ih, lookup_types]

@[simp] theorem afterLookups_find? (r : Registry) (names : List String) (name : String) :
    (r.afterLookups names).find? name = r.find? name := by
  unfold find?
  rw [afterLookups_types]

/-- Any lookup seals a registry. -/
theorem afterLookups_isSealed (r : Registry) (names : List String) :
    (r.afterLookups names).isSealed = (r.isSealed || !names.isEmpty) := by
  induction names generalizing r with
  | nil => simp
  | cons name names ih => rw [afterLookups_cons, ih, lookup_isSealed]; simp

end Registry

namespace Extract

/-! ## The two stages of an evaluation -/

/-- The elements that a property of a parent is read from, if there are any. -/
def located (s : Schema) (parent : Selection) : Option Selection :=
  if parent.isEmpty then none else propertyNodes s.selector parent

/-- Reads elements by the type of a property. -/
def readNodes (s : Schema) (nodes : Selection) : Registered Value := fun r =>
  match s.kind with
  | .object => (.record (record s.properties nodes r).1, (record s.properties nodes r).2)
  | .string => (.ofText? (Path.resolve s.css nodes), r)
  | .image => (.ofText? (Path.resolve s.css nodes), r)
  | .longText => (.ofText? (longText s.css nodes), r)
  | .integer => (.ofInteger? ((Path.resolve s.css nodes).bind Number.parseInteger), r)
  | .array => (.list (array s.css nodes), r)
  | .propertyArray => (.map (propertyArray s.keyPath s.valPath nodes), r)
  | .urlList => readRegistered s nodes "urllist" r
  | .custom name => readRegistered s nodes name r
where
  /-- Reads elements by a registered type, or as text if the type is not registered. -/
  readRegistered (s : Schema) (nodes : Selection) (name : String) : Registered Value := fun r =>
    match r.lookup name with
    | (some resolver, r) => (resolver s nodes, r)
    | (none, r) => (.ofText? (Path.resolve s.css nodes), r)

theorem evaluate_eq (s : Schema) (parent : Selection) (r : Registry) :
    evaluate s parent r =
      match located s parent with
      | none => (.null, r)
      | some nodes => readNodes s nodes r := by
  obtain ⟨id, css, next, kind, merges, keyPath, valPath, limit, properties⟩ := s
  rw [evaluate, located]
  by_cases hempty : parent.isEmpty
  · rw [if_pos hempty, if_pos hempty]
  · rw [if_neg hempty, if_neg hempty]
    change _ = match propertyNodes (css.head?.getD "") parent with | none => _ | some nodes => _
    cases propertyNodes (css.head?.getD "") parent with
    | none => rfl
    | some nodes => cases kind <;> rfl

theorem evaluate_of_located_none {s : Schema} {parent : Selection} (h : located s parent = none)
    (r : Registry) : evaluate s parent r = (.null, r) := by
  rw [evaluate_eq, h]

theorem evaluate_of_located {s : Schema} {parent nodes : Selection}
    (h : located s parent = some nodes) (r : Registry) :
    evaluate s parent r = readNodes s nodes r := by
  rw [evaluate_eq, h]

theorem mergeAll_cons (keepNull : Bool) (p : Schema) (more : List Schema) (sel : Selection)
    (fields : Record) (r : Registry) :
    mergeAll keepNull (p :: more) sel fields r =
      mergeAll keepNull more sel
        (mergeProperty keepNull p.id p.mergeWithParent (evaluate p sel r).1 fields)
        (evaluate p sel r).2 := rfl

/-! ## The names that are looked up -/

mutual

/-- The names that the evaluation of a property looks up, in their order. -/
def lookups (s : Schema) (parent : Selection) : List String :=
  match s with
  | ⟨_, css, _, kind, _, _, _, _, properties⟩ =>
    if parent.isEmpty then []
    else match propertyNodes (css.head?.getD "") parent with
      | none => []
      | some nodes =>
        match kind with
        | .object => lookupsOfAll properties nodes
        | .urlList => ["urllist"]
        | .custom name => [name]
        | _ => []

/-- The names that the evaluation of several properties looks up. -/
def lookupsOfAll (properties : List Schema) (parent : Selection) : List String :=
  match properties with
  | [] => []
  | p :: more => lookups p parent ++ lookupsOfAll more parent

end

/-- The names that reading elements looks up. -/
def lookupsAt (s : Schema) (nodes : Selection) : List String :=
  match s.kind with
  | .object => lookupsOfAll s.properties nodes
  | .urlList => ["urllist"]
  | .custom name => [name]
  | _ => []

theorem lookups_of_located_none {s : Schema} {parent : Selection} (h : located s parent = none) :
    lookups s parent = [] := by
  obtain ⟨id, css, next, kind, merges, keyPath, valPath, limit, properties⟩ := s
  rw [lookups]
  by_cases hempty : parent.isEmpty
  · rw [if_pos hempty]
  · rw [located, if_neg hempty] at h
    change propertyNodes (css.head?.getD "") parent = none at h
    rw [if_neg hempty, h]

theorem lookups_of_located {s : Schema} {parent nodes : Selection}
    (h : located s parent = some nodes) : lookups s parent = lookupsAt s nodes := by
  obtain ⟨id, css, next, kind, merges, keyPath, valPath, limit, properties⟩ := s
  rw [lookups]
  by_cases hempty : parent.isEmpty
  · rw [located, if_pos hempty] at h
    cases h
  · rw [located, if_neg hempty] at h
    change propertyNodes (css.head?.getD "") parent = some nodes at h
    rw [if_neg hempty, h]
    rfl

/-! ## The registry after an evaluation -/

theorem mergeAll_registry {properties : List Schema}
    (h : ∀ p ∈ properties, ∀ sel r, (evaluate p sel r).2 = r.afterLookups (lookups p sel))
    (keepNull : Bool) (sel : Selection) (fields : Record) (r : Registry) :
    (mergeAll keepNull properties sel fields r).2 =
      r.afterLookups (lookupsOfAll properties sel) := by
  induction properties generalizing fields r with
  | nil => rfl
  | cons p more ih =>
    have hmore : ∀ q ∈ more, ∀ sel r, (evaluate q sel r).2 = r.afterLookups (lookups q sel) :=
      fun q hq => h q (List.mem_cons_of_mem p hq)
    rw [mergeAll_cons, ih hmore, h p List.mem_cons_self, lookupsOfAll,
      Registry.afterLookups_append]

theorem readRegistered_registry (s : Schema) (nodes : Selection) (name : String) (r : Registry) :
    (readNodes.readRegistered s nodes name r).2 = r.afterLookups [name] := by
  unfold readNodes.readRegistered Registry.lookup
  cases r.find? name <;> rfl

/-- An evaluation leaves the registry as its lookups leave it. -/
theorem evaluate_registry (s : Schema) (parent : Selection) (r : Registry) :
    (evaluate s parent r).2 = r.afterLookups (lookups s parent) := by
  induction s using Schema.induction generalizing parent r with
  | node s ih =>
    cases hloc : located s parent with
    | none => rw [evaluate_of_located_none hloc, lookups_of_located_none hloc]; rfl
    | some nodes =>
      rw [evaluate_of_located hloc, lookups_of_located hloc, readNodes, lookupsAt]
      cases hkind : s.kind with
      | object => exact mergeAll_registry (fun p hp => ih p hp) true nodes [] r
      | urlList => exact readRegistered_registry s nodes "urllist" r
      | custom name => exact readRegistered_registry s nodes name r
      | string | longText | image | integer | array | propertyArray => rfl

theorem evaluate_types (s : Schema) (parent : Selection) (r : Registry) :
    (evaluate s parent r).2.types = r.types := by
  rw [evaluate_registry, Registry.afterLookups_types]

theorem mergeAll_types (keepNull : Bool) (properties : List Schema) (sel : Selection)
    (fields : Record) (r : Registry) :
    (mergeAll keepNull properties sel fields r).2.types = r.types := by
  rw [mergeAll_registry (fun p _ => evaluate_registry p), Registry.afterLookups_types]

/-! ## What the value depends on -/

theorem mergeAll_congr {properties : List Schema}
    (h : ∀ p ∈ properties, ∀ sel r r', (∀ name ∈ lookups p sel, r.find? name = r'.find? name) →
      (evaluate p sel r).1 = (evaluate p sel r').1)
    (keepNull : Bool) (sel : Selection) (fields : Record) {r r' : Registry}
    (hagree : ∀ name ∈ lookupsOfAll properties sel, r.find? name = r'.find? name) :
    (mergeAll keepNull properties sel fields r).1 =
      (mergeAll keepNull properties sel fields r').1 := by
  induction properties generalizing fields r r' with
  | nil => rfl
  | cons p more ih =>
    rw [lookupsOfAll] at hagree
    have hp : (evaluate p sel r).1 = (evaluate p sel r').1 :=
      h p List.mem_cons_self sel r r' fun name hn => hagree name (List.mem_append_left _ hn)
    rw [mergeAll_cons, mergeAll_cons, hp]
    refine ih (fun q hq => h q (List.mem_cons_of_mem p hq)) _ fun name hn => ?_
    rw [evaluate_registry, evaluate_registry, Registry.afterLookups_find?,
      Registry.afterLookups_find?]
    exact hagree name (List.mem_append_right _ hn)

theorem readRegistered_congr (s : Schema) (nodes : Selection) {name : String} {r r' : Registry}
    (h : r.find? name = r'.find? name) :
    (readNodes.readRegistered s nodes name r).1 = (readNodes.readRegistered s nodes name r').1 := by
  unfold readNodes.readRegistered Registry.lookup
  rw [h]
  cases r'.find? name <;> rfl

/-- The value depends on the registry only through the names that are looked up. -/
theorem evaluate_congr (s : Schema) (parent : Selection) (r r' : Registry)
    (h : ∀ name ∈ lookups s parent, r.find? name = r'.find? name) :
    (evaluate s parent r).1 = (evaluate s parent r').1 := by
  induction s using Schema.induction generalizing parent r r' with
  | node s ih =>
    cases hloc : located s parent with
    | none => rw [evaluate_of_located_none hloc, evaluate_of_located_none hloc]
    | some nodes =>
      rw [lookups_of_located hloc, lookupsAt] at h
      rw [evaluate_of_located hloc, evaluate_of_located hloc, readNodes, readNodes]
      cases hkind : s.kind with
      | object =>
        rw [hkind] at h
        exact congrArg Value.record (mergeAll_congr (fun p hp => ih p hp) true nodes [] h)
      | urlList =>
        rw [hkind] at h
        exact readRegistered_congr s nodes (h "urllist" List.mem_cons_self)
      | custom name =>
        rw [hkind] at h
        exact readRegistered_congr s nodes (h name List.mem_cons_self)
      | string | longText | image | integer | array | propertyArray => rfl

theorem evaluate_congr_types (s : Schema) (parent : Selection) {r r' : Registry}
    (h : r.types = r'.types) : (evaluate s parent r).1 = (evaluate s parent r').1 := by
  refine evaluate_congr s parent r r' fun name _ => ?_
  unfold Registry.find?
  rw [h]

theorem mergeAll_congr_types (keepNull : Bool) (properties : List Schema) (sel : Selection)
    (fields : Record) {r r' : Registry} (h : r.types = r'.types) :
    (mergeAll keepNull properties sel fields r).1 =
      (mergeAll keepNull properties sel fields r').1 := by
  refine mergeAll_congr (fun p _ => evaluate_congr p) keepNull sel fields fun name _ => ?_
  unfold Registry.find?
  rw [h]

/-- The properties of a record are read as if each were read alone. -/
theorem mergeAll_eq_foldl (keepNull : Bool) (properties : List Schema) (sel : Selection)
    (fields : Record) (r : Registry) :
    (mergeAll keepNull properties sel fields r).1 =
      properties.foldl (fun acc p =>
        mergeProperty keepNull p.id p.mergeWithParent (evaluate p sel r).1 acc) fields := by
  induction properties generalizing fields r with
  | nil => rfl
  | cons p more ih =>
    have hsame : ∀ q, (evaluate q sel (evaluate p sel r).2).1 = (evaluate q sel r).1 :=
      fun q => evaluate_congr_types q sel (evaluate_types p sel r)
    rw [mergeAll_cons, ih, List.foldl_cons]
    simp only [hsame]

end Extract

end Harvest
