import Harvest.Proofs.Extract.Conformance
import Mathlib.Logic.Relation

/-!
# Objects that only group properties

An object that is read from its parent itself and merges with it adds to the record just what its properties
would add in its place (`record_inline`): putting in a finished record is putting in its fields one by one.
So such objects can be taken out of a tree wherever they stand, at any depth and one after the other, and
every record stays the same (`inlining_transparent`). So does a nested record, unless the object is one of its
own properties: the null of a property is left out there, and a null among the fields of an object is not
(`nestedRecord_of_groups`). A group without a value among the properties of a nested record is therefore not
the same as its property by itself (`inlining_drops_null`).
-/

namespace Harvest

/-- An object that is read from its parent itself and merges with it. -/
structure Schema.Groups (g : Schema) : Prop where
  kind : g.kind = .object
  selector : g.selector = ""
  merges : g.mergeWithParent = true

/-- The schema with other properties. -/
def Schema.withProperties (s : Schema) (properties : List Schema) : Schema :=
  { s with properties := properties }

/-- Registered types make the same of both schemas: a resolver is handed the schema as a whole. -/
def Registry.ReadsAlike (r : Registry) (s s' : Schema) : Prop :=
  ∀ name resolver, s.kind.lookedUp? = some name → r.find? name = some resolver →
    ∀ nodes, resolver s nodes = resolver s' nodes

theorem Registry.ReadsAlike.of_types {r r' : Registry} {s s' : Schema} (h : r.ReadsAlike s s')
    (htypes : r'.types = r.types) : r'.ReadsAlike s s' := by
  unfold ReadsAlike find? at h ⊢
  rwa [htypes]

/-- Properties with a grouping object, and the same with the properties of that object in its place. The
object stands among the properties themselves or, at any depth, below one of them. -/
inductive Inlines (r : Registry) : List Schema → List Schema → Prop where
  | here {g : Schema} (before after : List Schema) (groups : g.Groups) :
      Inlines r (before ++ [g] ++ after) (before ++ g.properties ++ after)
  | within {p : Schema} {properties : List Schema} (before after : List Schema)
      (inlines : Inlines r p.properties properties)
      (alike : r.ReadsAlike p (p.withProperties properties)) :
      Inlines r (before ++ [p] ++ after) (before ++ [p.withProperties properties] ++ after)

namespace Extract

open Fields (Ascending unionAll)

/-! ## One object among properties -/

theorem mergeAll_append (keepNull : Bool) (properties more : List Schema) (sel : Selection)
    (fields : Record) (r : Registry) :
    mergeAll keepNull (properties ++ more) sel fields r =
      mergeAll keepNull more sel (mergeAll keepNull properties sel fields r).1
        (mergeAll keepNull properties sel fields r).2 := by
  induction properties generalizing fields r with
  | nil => rfl
  | cons p properties ih => rw [List.cons_append, mergeAll_cons, mergeAll_cons, ih]

/-- Properties are put into a record as their own record would be. -/
theorem mergeAll_eq_extend (properties : List Schema) (sel : Selection) {fields : Record}
    (h : Ascending fields) (r : Registry) :
    mergeAll true properties sel fields r =
      (Fields.extend fields (record properties sel r).1, (record properties sel r).2) := by
  refine Prod.ext ?_ ?_
  · rw [mergeAll_eq_foldl, foldl_mergeProperty_eq true properties sel r h, record_eq_unionAll, kept]
    rw [Fields.foldl_extend_eq_extend, Fields.unionAll_eq_ofList, h.extend_ofList]
    simp
  · unfold record
    rw [mergeAll_registry fun p _ => evaluate_registry p, mergeAll_registry fun p _ => evaluate_registry p]

theorem located_of_groups {g : Schema} (h : g.Groups) {parent : Selection}
    (hparent : parent.isEmpty = false) : located g parent = some parent := by
  rw [located, if_neg (by simp [hparent]), propertyNodes, h.selector]
  rfl

theorem evaluate_of_groups {g : Schema} (h : g.Groups) {parent : Selection}
    (hparent : parent.isEmpty = false) (r : Registry) :
    evaluate g parent r =
      (.record (record g.properties parent r).1, (record g.properties parent r).2) := by
  rw [evaluate_of_located (located_of_groups h hparent), readNodes, h.kind]

/-- A grouping object adds to a record what its properties add. -/
theorem mergeAll_of_groups {g : Schema} (h : g.Groups) {parent : Selection}
    (hparent : parent.isEmpty = false) {fields : Record} (hfields : Ascending fields) (r : Registry) :
    mergeAll true [g] parent fields r = mergeAll true g.properties parent fields r := by
  rw [mergeAll_cons, evaluate_of_groups h hparent, mergeAll_eq_extend g.properties parent hfields]
  change (mergeProperty true g.id g.mergeWithParent _ fields, _) = _
  rw [h.merges]
  rfl

theorem record_inline {g : Schema} (h : g.Groups) {parent : Selection} (hparent : parent.isEmpty = false)
    (before after : List Schema) (r : Registry) :
    record (before ++ [g] ++ after) parent r = record (before ++ g.properties ++ after) parent r := by
  have hbefore : Ascending (mergeAll true before parent [] r).1 := ascending_record before parent r
  unfold record
  rw [mergeAll_append, mergeAll_append, mergeAll_append, mergeAll_append,
    mergeAll_of_groups h hparent hbefore]

/-! ## One object among the properties of a nested record -/

/-- Whether a property has a value. -/
def valued (r : Registry) (parent : Selection) (p : Schema) : Bool :=
  !(evaluate p parent r).1.isNull

theorem nestedRecord_eq_record (properties : List Schema) (parent : Selection) (r : Registry) :
    (nestedRecord properties parent r).1 =
      (record (properties.filter (valued r parent)) parent r).1 := by
  rw [nestedRecord_eq_unionAll, record_eq_unionAll]
  rfl

/-- Both kinds of records look up the same types. -/
theorem nestedRecord_registry (properties : List Schema) (parent : Selection) (r : Registry) :
    (nestedRecord properties parent r).2 = (record properties parent r).2 := by
  unfold nestedRecord record
  rw [mergeAll_registry fun p _ => evaluate_registry p, mergeAll_registry fun p _ => evaluate_registry p]

/-- A nested record keeps all properties of a grouping object, with their nulls. -/
theorem nestedRecord_of_groups {g : Schema} (h : g.Groups) {parent : Selection}
    (hparent : parent.isEmpty = false) (before after : List Schema) (r : Registry) :
    (nestedRecord (before ++ [g] ++ after) parent r).1 =
      (record (before.filter (valued r parent) ++ g.properties ++ after.filter (valued r parent))
        parent r).1 := by
  have hg : valued r parent g = true := by
    rw [valued, evaluate_of_groups h hparent]
    rfl
  rw [nestedRecord_eq_record, List.filter_append, List.filter_append, List.filter_cons_of_pos hg,
    List.filter_nil, record_inline h hparent]

theorem nestedRecord_inline {g : Schema} (h : g.Groups) {parent : Selection}
    (hparent : parent.isEmpty = false) (before after : List Schema) (r : Registry)
    (hvalued : ∀ p ∈ g.properties, (evaluate p parent r).1 ≠ .null) :
    nestedRecord (before ++ [g] ++ after) parent r =
      nestedRecord (before ++ g.properties ++ after) parent r := by
  have hall : g.properties.filter (valued r parent) = g.properties := by
    refine List.filter_eq_self.2 fun p hp => ?_
    have hvalue := hvalued p hp
    unfold valued
    cases hread : (evaluate p parent r).1 with
    | null => exact absurd hread hvalue
    | text | integer | list | map | record => rfl
  refine Prod.ext ?_ ?_
  · rw [nestedRecord_of_groups h hparent, nestedRecord_eq_record, List.filter_append,
      List.filter_append, hall]
  · rw [nestedRecord_registry, nestedRecord_registry, record_inline h hparent]

/-! ## Objects anywhere in a tree -/

theorem located_nonempty {p : Schema} {parent nodes : Selection} (h : located p parent = some nodes) :
    nodes.isEmpty = false := by
  unfold located propertyNodes at h
  split at h
  · cases h
  · next hparent =>
    split at h
    · cases h
      simpa using hparent
    · split at h
      · cases h
      · split at h
        · cases h
        · next hfound =>
          cases h
          simpa using hfound

theorem readRegistered_of_alike {p p' : Schema} {r : Registry} (h : r.ReadsAlike p p') {name : String}
    (hname : p.kind.lookedUp? = some name) (hcss : p'.css = p.css) (nodes : Selection) :
    readNodes.readRegistered p nodes name r = readNodes.readRegistered p' nodes name r := by
  unfold readNodes.readRegistered Registry.lookup
  cases hfound : r.find? name with
  | none => rw [hcss]
  | some resolver => exact congrArg (·, r.toSealed) (h name resolver hname hfound nodes)

/-- The properties of a property matter only for the record that they make and for registered types. -/
theorem evaluate_withProperties {p : Schema} {properties : List Schema} {r : Registry}
    (hrecord : ∀ nodes : Selection, nodes.isEmpty = false →
      record p.properties nodes r = record properties nodes r)
    (halike : r.ReadsAlike p (p.withProperties properties)) (parent : Selection) :
    evaluate p parent r = evaluate (p.withProperties properties) parent r := by
  have hsame : located (p.withProperties properties) parent = located p parent := rfl
  cases hloc : located p parent with
  | none => rw [evaluate_of_located_none hloc, evaluate_of_located_none (hsame.trans hloc)]
  | some nodes =>
    have hkind' : (p.withProperties properties).kind = p.kind := rfl
    rw [evaluate_of_located hloc, evaluate_of_located (hsame.trans hloc), readNodes, readNodes, hkind']
    cases hkind : p.kind with
    | object =>
      have hnodes := hrecord nodes (located_nonempty hloc)
      change (Value.record (record p.properties nodes r).1, (record p.properties nodes r).2) = _
      rw [hnodes]
      rfl
    | urlList => exact readRegistered_of_alike halike (by rw [hkind]; rfl) rfl nodes
    | custom name => exact readRegistered_of_alike halike (by rw [hkind]; rfl) rfl nodes
    | string | longText | image | integer | array | propertyArray => rfl

/-- A property may be replaced by one that reads the same. -/
theorem mergeAll_withProperties (keepNull : Bool) {p : Schema} {properties : List Schema} {parent : Selection}
    {r : Registry} (h : ∀ r' : Registry, r'.types = r.types →
      evaluate p parent r' = evaluate (p.withProperties properties) parent r')
    (before after : List Schema) (fields : Record) :
    mergeAll keepNull (before ++ [p] ++ after) parent fields r =
      mergeAll keepNull (before ++ [p.withProperties properties] ++ after) parent fields r := by
  have hread := h _ (mergeAll_types keepNull before parent fields r)
  rw [mergeAll_append, mergeAll_append, mergeAll_append, mergeAll_append, mergeAll_cons, mergeAll_cons, hread]
  rfl

theorem record_of_inlines {r : Registry} {properties others : List Schema}
    (h : Inlines r properties others) {r' : Registry} (htypes : r'.types = r.types) {parent : Selection}
    (hparent : parent.isEmpty = false) : record properties parent r' = record others parent r' := by
  induction h generalizing r' parent with
  | here before after groups => exact record_inline groups hparent before after r'
  | @within p others before after _ alike ih =>
    -- `p` finds the registry as the properties before it have left it: sealed perhaps, with the same types.
    refine mergeAll_withProperties true (fun r'' hr'' => ?_) before after []
    have hsame := hr''.trans htypes
    exact evaluate_withProperties (fun nodes hnodes => ih hsame hnodes) (alike.of_types hsame) parent

/-- Any number of grouping objects, one after the other. -/
theorem record_of_inlinings {r : Registry} {properties others : List Schema}
    (h : Relation.ReflTransGen (Inlines r) properties others) {r' : Registry} (htypes : r'.types = r.types)
    {parent : Selection} (hparent : parent.isEmpty = false) :
    record properties parent r' = record others parent r' := by
  induction h with
  | refl => rfl
  | tail _ hstep ih => exact ih.trans (record_of_inlines hstep htypes hparent)

/-! ## All records of a document -/

theorem forEach_congr {α : Type} {read read' : Selection → Registered α} {r : Registry}
    (htypes : ∀ sel r, (read' sel r).2.types = r.types) {sels : List Selection}
    (h : ∀ sel ∈ sels, ∀ r', r'.types = r.types → read sel r' = read' sel r') {r' : Registry}
    (hr : r'.types = r.types) : forEach read sels r' = forEach read' sels r' := by
  induction sels generalizing r' with
  | nil => rfl
  | cons sel more ih =>
    have hmore := ih (fun other hother => h other (List.mem_cons_of_mem sel hother))
      ((htypes sel r').trans hr)
    simp only [forEach, h sel List.mem_cons_self r' hr, hmore]

theorem records_of_inlinings {r : Registry} {s : Schema} {others : List Schema}
    (h : Relation.ReflTransGen (Inlines r) s.properties others) (d : Markup.Document) :
    records s d r = records (s.withProperties others) d r := by
  refine forEach_congr (mergeAll_types true others · []) (fun sel hsel r' htypes => ?_) rfl
  obtain ⟨n, -, rfl⟩ := List.mem_map.1 hsel
  exact record_of_inlinings h htypes rfl

/-- **Grouping objects can be taken out wherever they stand, and no record changes**, whatever keys they
share with their neighbours and whatever they hold. A nested record changes only where the object is one of
its own properties, and then by the properties of the object that have no value: it has been made with
them, and is made without them. -/
theorem inlining_transparent (r : Registry) (parent : Selection) (hparent : parent.isEmpty = false) :
    (∀ (before after : List Schema) (g : Schema), g.Groups →
      record (before ++ [g] ++ after) parent r = record (before ++ g.properties ++ after) parent r) ∧
    (∀ (before after : List Schema) (g : Schema), g.Groups →
      let kept := fun properties : List Schema => properties.filter (valued r parent)
      (nestedRecord (before ++ [g] ++ after) parent r).1 =
        (record (kept before ++ g.properties ++ kept after) parent r).1 ∧
      (nestedRecord (before ++ g.properties ++ after) parent r).1 =
        (record (kept before ++ kept g.properties ++ kept after) parent r).1 ∧
      ((∀ p ∈ g.properties, (evaluate p parent r).1 ≠ .null) →
        nestedRecord (before ++ [g] ++ after) parent r =
          nestedRecord (before ++ g.properties ++ after) parent r)) ∧
    ∀ (s : Schema) (others : List Schema), Relation.ReflTransGen (Inlines r) s.properties others →
      record s.properties parent r = record others parent r ∧
      (∀ d, records s d r = records (s.withProperties others) d r) ∧
      (r.ReadsAlike s (s.withProperties others) →
        (∀ sel, evaluate s sel r = evaluate (s.withProperties others) sel r) ∧
        ∀ before after sel, nestedRecord (before ++ [s] ++ after) sel r =
          nestedRecord (before ++ [s.withProperties others] ++ after) sel r) := by
  refine ⟨fun before after g hg => record_inline hg hparent before after r, ?_, ?_⟩
  · intro before after g hg
    refine ⟨nestedRecord_of_groups hg hparent before after r, ?_,
      nestedRecord_inline hg hparent before after r⟩
    rw [nestedRecord_eq_record, List.filter_append, List.filter_append]
  intro s others h
  refine ⟨record_of_inlinings h rfl hparent, records_of_inlinings h, fun halike => ?_⟩
  have hread : ∀ sel (r' : Registry), r'.types = r.types →
      evaluate s sel r' = evaluate (s.withProperties others) sel r' := by
    intro sel r' htypes
    exact evaluate_withProperties (fun nodes hnodes => record_of_inlinings h htypes hnodes)
      (halike.of_types htypes) sel
  constructor
  · intro sel
    exact hread sel r rfl
  · intro before after sel
    exact mergeAll_withProperties false (hread sel) before after []

/-- A group of a count. -/
def countGroup : Schema :=
  { Schema.empty with
    kind := .object
    mergeWithParent := true
    properties := [{ Schema.empty with id := "count", kind := .integer }] }

/-- A group of a title and of another group, which holds a count. -/
def titledCount : Schema :=
  { Schema.empty with
    kind := .object
    mergeWithParent := true
    properties := [{ Schema.empty with id := "title", css := ["", "title"] }, countGroup] }

/-- The group between two properties with the same keys. -/
def crowdedBox : Schema :=
  { Schema.empty with
    kind := .object
    properties := [{ Schema.empty with id := "title" }, titledCount,
      { Schema.empty with id := "count", kind := .longText }] }

/-- The missing title of the group hides the one before it, and the count after the group hides its own. -/
theorem inlining_transparent_crowdedBox :
    let flat := [{ Schema.empty with id := "title" },
      { Schema.empty with id := "title", css := ["", "title"] },
      { Schema.empty with id := "count", kind := .integer },
      { Schema.empty with id := "count", kind := .longText }]
    (Selection.root ratedPage).isEmpty = false ∧
      Relation.ReflTransGen (Inlines onlyPrices) crowdedBox.properties flat ∧
      record crowdedBox.properties (.root ratedPage) onlyPrices =
        record flat (.root ratedPage) onlyPrices ∧
      (record flat (.root ratedPage) onlyPrices).1 = [("count", .text "5"), ("title", .null)] := by
  intro flat
  have hparent : (Selection.root ratedPage).isEmpty = false := rfl
  let flatGroup := titledCount.properties.take 1 ++ countGroup.properties
  have hinner : Inlines onlyPrices titledCount.properties flatGroup := .here [_] [] ⟨rfl, rfl, rfl⟩
  have halike : onlyPrices.ReadsAlike titledCount (titledCount.withProperties flatGroup) := by
    intro name resolver hname
    cases hname
  have hsteps : Relation.ReflTransGen (Inlines onlyPrices) crowdedBox.properties flat := by
    refine .tail (.single (.within [_] [_] hinner halike)) ?_
    exact .here [_] [_] ⟨rfl, rfl, rfl⟩
  exact ⟨hparent, hsteps,
    ((inlining_transparent onlyPrices (.root ratedPage) hparent).2.2 crowdedBox flat hsteps).1, rfl⟩

/-- A dish, and a group of a price that the page does not tell. -/
def groupedPrice : List Schema :=
  [{ Schema.empty with id := "dish" },
    { Schema.empty with
      kind := .object
      mergeWithParent := true
      properties := [{ Schema.empty with id := "price", css := ["", "title"], kind := .integer }] }]

/-- In a nested record the price is null as long as it is in the group, and is left out without the group. -/
theorem inlining_drops_null :
    ∃ dish group : Schema, groupedPrice = [dish] ++ [group] ++ [] ∧ group.Groups ∧
      (Selection.root ratedPage).isEmpty = false ∧
      (nestedRecord groupedPrice (.root ratedPage) .empty).1 = [("dish", .text "5"), ("price", .null)] ∧
      (nestedRecord ([dish] ++ group.properties ++ []) (.root ratedPage) .empty).1 =
        [("dish", .text "5")] :=
  ⟨_, _, rfl, ⟨rfl, rfl, rfl⟩, rfl, rfl, rfl⟩

end Extract

end Harvest
