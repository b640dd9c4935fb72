import Harvest.Proofs.Extract.Record
import Harvest.Proofs.Number.Decimal
import Harvest.Proofs.Text.Label

/-!
# Values keep what their types promise

Without resolvers for the types that a schema names, evaluation is safe: a value is null or of the kind
that its type promises, down to every field of every record, and all text in it is clean (`Conforms`). A
record holds the fields of its own properties and, through objects that merge, those of theirs
(`FieldConforms`). A type that is not registered reads as a string (`Schema.plain`). `evaluate_conforms`
puts this together.
-/

namespace Harvest

/-! ## Types that are looked up -/

/-- The name that a type is looked up by. -/
def PropertyType.lookedUp? : PropertyType → Option String
  | .urlList => some "urllist"
  | .custom name => some name
  | _ => none

theorem PropertyType.lookedUp?_eq_some {kind : PropertyType} {name : String}
    (h : kind.lookedUp? = some name) : (kind = .urlList ∧ name = "urllist") ∨ kind = .custom name := by
  cases kind with
  | urlList => exact .inl ⟨rfl, (Option.some.inj h).symm⟩
  | custom other => exact .inr (congrArg _ (Option.some.inj h))
  | object | string | longText | image | integer | array | propertyArray => cases h

/-- The type by which elements are read if nothing is registered. -/
def PropertyType.plain (kind : PropertyType) : PropertyType :=
  if kind.lookedUp?.isSome then .string else kind

namespace Schema

mutual

/-- The names that the types of a schema tree are looked up by. -/
def customTags : Schema → List String
  | ⟨_, _, _, kind, _, _, _, _, properties⟩ => kind.lookedUp?.toList ++ customTagsOfAll properties

/-- The names that the types of several schema trees are looked up by. -/
def customTagsOfAll : List Schema → List String
  | [] => []
  | p :: more => customTags p ++ customTagsOfAll more

end

mutual

/-- The schema tree with a string for every type that is looked up. -/
def plain : Schema → Schema
  | ⟨id, css, next, kind, merges, keyPath, valPath, limit, properties⟩ =>
    ⟨id, css, next, kind.plain, merges, keyPath, valPath, limit, plainAll properties⟩

/-- The schema trees with strings for the types that are looked up. -/
def plainAll : List Schema → List Schema
  | [] => []
  | p :: more => plain p :: plainAll more

end

theorem plainAll_eq_map (properties : List Schema) : plainAll properties = properties.map plain := by
  induction properties with
  | nil => rw [plainAll, List.map_nil]
  | cons p more ih => rw [plainAll, ih, List.map_cons]

theorem plain_eq (s : Schema) :
    s.plain = { s with kind := s.kind.plain, properties := s.properties.map plain } := by
  obtain ⟨id, css, next, kind, merges, keyPath, valPath, limit, properties⟩ := s
  rw [plain, plainAll_eq_map]

theorem mem_customTags_of_kind {s : Schema} {tag : String} (h : s.kind.lookedUp? = some tag) :
    tag ∈ s.customTags := by
  obtain ⟨id, css, next, kind, merges, keyPath, valPath, limit, properties⟩ := s
  rw [customTags]
  exact List.mem_append_left _ (Option.mem_toList.2 h)

theorem mem_customTagsOfAll {properties : List Schema} {p : Schema} {tag : String}
    (hp : p ∈ properties) (htag : tag ∈ p.customTags) : tag ∈ customTagsOfAll properties := by
  induction properties with
  | nil => cases hp
  | cons q more ih =>
    rw [customTagsOfAll, List.mem_append]
    rcases List.mem_cons.1 hp with rfl | hp
    · exact .inl htag
    · exact .inr (ih hp)

theorem mem_customTags_of_property {s p : Schema} {tag : String} (hp : p ∈ s.properties)
    (htag : tag ∈ p.customTags) : tag ∈ s.customTags := by
  obtain ⟨id, css, next, kind, merges, keyPath, valPath, limit, properties⟩ := s
  rw [customTags]
  exact List.mem_append_right _ (mem_customTagsOfAll hp htag)

end Schema

/-! ## What types promise -/

/-- An entry of a property array. -/
structure EntryConforms (entry : String × String) : Prop where
  key : Text.IsKey entry.1
  value : Text.Cleaned entry.2
  value_nonempty : entry.2 ≠ ""
  value_not_nil : entry.2.toList.map Text.Casing.asciiLower ≠ ['n', 'i', 'l']

mutual

/-- The value is null, or one that the type of the property promises. -/
inductive Conforms : Schema → Value → Prop where
  | null (s : Schema) : Conforms s .null
  | record {s : Schema} {fields : List (String × Value)} (kind : s.kind = .object)
      (fields_conform : ∀ f ∈ fields, FieldConforms s.properties f.1 f.2) :
      Conforms s (.record fields)
  | text {s : Schema} {t : String} (kind : s.kind.plain = .string ∨ s.kind = .image)
      (cleaned : Text.Cleaned t) : Conforms s (.text t)
  /-- Long text keeps its lines, so that cleaning it may change it. -/
  | longText {s : Schema} {t : String} (kind : s.kind = .longText) (tidy : Text.Tidy t) :
      Conforms s (.text t)
  | integer {s : Schema} {i : Int} (kind : s.kind = .integer) (low : Number.minInt64 ≤ i)
      (high : i ≤ Number.maxInt64) : Conforms s (.integer i)
  | list {s : Schema} {items : List String} (kind : s.kind = .array)
      (cleaned : ∀ item ∈ items, Text.Cleaned item) : Conforms s (.list items)
  | map {s : Schema} {entries : List (String × String)} (kind : s.kind = .propertyArray)
      (entries_conform : ∀ e ∈ entries, EntryConforms e) : Conforms s (.map entries)

/-- The field is one that a record of these properties may have. -/
inductive FieldConforms : List Schema → String → Value → Prop where
  /-- The field of a property itself; a record that merges is no field. -/
  | own {properties : List Schema} {p : Schema} {value : Value} (mem : p ∈ properties)
      (not_merged : p.mergeWithParent = true → value.record? = none) (conforms : Conforms p value) :
      FieldConforms properties p.id value
  /-- A field of an object that merges. -/
  | merged {properties : List Schema} {p : Schema} {key : String} {value : Value}
      (mem : p ∈ properties) (kind : p.kind = .object) (merges : p.mergeWithParent = true)
      (field : FieldConforms p.properties key value) : FieldConforms properties key value

end

namespace Extract

/-! ## What each reader gives -/

theorem cleaned_refine (path : Path) (raw : String) : Text.Cleaned (path.refine raw) := by
  rw [Path.refine]
  split
  · exact Text.cleaned_clean _
  · exact Text.cleaned_clean _

theorem cleaned_of_resolve {path : Path} {sel : Selection} {t : String}
    (h : path.resolve sel = some t) : Text.Cleaned t := by
  obtain ⟨raw, -, rfl⟩ := Option.map_eq_some_iff.1 h
  exact cleaned_refine path raw

theorem cleaned_of_resolveOwn {path : Path} {sel : Selection} {t : String}
    (h : path.resolveOwn sel = some t) : Text.Cleaned t := by
  obtain ⟨raw, -, rfl⟩ := Option.map_eq_some_iff.1 h
  exact cleaned_refine path raw

theorem tidy_of_longText {path : Path} {sel : Selection} {t : String}
    (h : longText path sel = some t) : Text.Tidy t := by
  rw [longText] at h
  split at h
  · obtain ⟨raw, -, rfl⟩ := Option.map_eq_some_iff.1 h
    exact (Text.cleaned_clean raw).toTidy
  · rw [← Option.some.inj h]
    exact Text.tidy_trim_stripInvalid sel.text

theorem cleaned_of_mem_array {path : Path} {sel : Selection} {item : String}
    (h : item ∈ array path sel) : Text.Cleaned item := by
  rw [array] at h
  split at h
  · obtain ⟨raw, -, rfl⟩ := List.mem_map.1 h
    exact Text.cleaned_clean raw
  · obtain ⟨node, -, rfl⟩ := List.mem_map.1 h
    exact Text.cleaned_clean _

theorem isKey_of_itemKey? {path : Path} {item : Selection} {key : String}
    (h : itemKey? path item = some key) : Text.IsKey key := by
  obtain ⟨hlabel, hne⟩ := Option.filter_eq_some_iff.1 h
  obtain ⟨label, hread, rfl⟩ := Option.map_eq_some_iff.1 hlabel
  have hcleaned : Text.Cleaned label := by
    split at hread
    · exact cleaned_of_resolveOwn hread
    · obtain ⟨node, -, hread⟩ := Option.bind_eq_some_iff.1 hread
      exact cleaned_of_resolve hread
  exact Text.isKey_normalizeKey hcleaned (by simpa using hne)

theorem value_of_itemValue? {path : Path} {item : Selection} {value : String}
    (h : itemValue? path item = some value) :
    Text.Cleaned value ∧ value ≠ "" ∧
      value.toList.map Text.Casing.asciiLower ≠ ['n', 'i', 'l'] := by
  obtain ⟨hread, hvalue⟩ := Option.filter_eq_some_iff.1 h
  have hcleaned : Text.Cleaned value := by
    split at hread
    · exact cleaned_of_resolve hread
    · obtain ⟨node, -, hread⟩ := Option.bind_eq_some_iff.1 hread
      exact cleaned_of_resolve hread
  have hnil : "nil".toList.map Text.Casing.asciiLower = ['n', 'i', 'l'] := by decide
  rw [isNoValue, Text.Casing.equalIgnoringAsciiCase, hnil] at hvalue
  simp only [Bool.not_eq_true', Bool.or_eq_false_iff, beq_eq_false_iff_ne] at hvalue
  exact ⟨hcleaned, by simpa using hvalue.1, hvalue.2⟩

theorem entryConforms_of_mem_propertyArray {keyPath valPath : Path} {sel : Selection}
    {e : String × String} (h : e ∈ propertyArray keyPath valPath sel) : EntryConforms e := by
  obtain ⟨item, -, hpair⟩ := List.mem_filterMap.1 (Fields.mem_ofList h)
  obtain ⟨key, hkey, hrest⟩ := Option.bind_eq_some_iff.1 hpair
  obtain ⟨value, hvalue, rfl⟩ := Option.map_eq_some_iff.1 hrest
  obtain ⟨hcleaned, hne, hnil⟩ := value_of_itemValue? hvalue
  exact ⟨isKey_of_itemKey? hkey, hcleaned, hne, hnil⟩

theorem conforms_ofText? {s : Schema} {t? : Option String} (h : ∀ t, t? = some t → Conforms s (.text t)) :
    Conforms s (.ofText? t?) := by
  cases t? with
  | none => exact .null s
  | some t => exact h t rfl

theorem conforms_ofInteger? {s : Schema} {i? : Option Int}
    (h : ∀ i, i? = some i → Conforms s (.integer i)) : Conforms s (.ofInteger? i?) := by
  cases i? with
  | none => exact .null s
  | some i => exact h i rfl

/-! ## Types that are not registered -/

theorem readNodes_of_unregistered {s : Schema} {name : String} (hkind : s.kind.lookedUp? = some name)
    {r : Registry} (hname : r.find? name = none) (nodes : Selection) :
    (readNodes s nodes r).1 = .ofText? (Path.resolve s.css nodes) := by
  have hmissing : (readNodes.readRegistered s nodes name r).1 =
      .ofText? (Path.resolve s.css nodes) := by
    unfold readNodes.readRegistered Registry.lookup
    rw [hname]
  rw [readNodes]
  rcases PropertyType.lookedUp?_eq_some hkind with ⟨hs, rfl⟩ | hs
  · rw [hs]
    exact hmissing
  · rw [hs]
    exact hmissing

theorem evaluate_eq_string {s : Schema} {name : String} (hkind : s.kind.lookedUp? = some name)
    {r : Registry} (hname : r.find? name = none) (parent : Selection) :
    (evaluate s parent r).1 = (evaluate { s with kind := .string } parent r).1 := by
  have hsame : located { s with kind := .string } parent = located s parent := rfl
  cases hloc : located s parent with
  | none => rw [evaluate_of_located_none hloc, evaluate_of_located_none (hsame.trans hloc)]
  | some nodes =>
    rw [evaluate_of_located hloc, evaluate_of_located (hsame.trans hloc),
      readNodes_of_unregistered hkind hname]
    rfl

theorem located_plain (s : Schema) (parent : Selection) :
    located s.plain parent = located s parent := by
  rw [Schema.plain_eq]
  rfl

theorem record_map_plain {properties : List Schema} {r : Registry}
    (h : ∀ p ∈ properties, ∀ parent, (evaluate p.plain parent r).1 = (evaluate p parent r).1)
    (nodes : Selection) :
    (record (properties.map Schema.plain) nodes r).1 = (record properties nodes r).1 := by
  have hcontribution : ∀ p ∈ properties, contribution r nodes p.plain = contribution r nodes p := by
    intro p hp
    rw [contribution, contribution, h p hp nodes, Schema.plain_eq]
    rfl
  rw [record_eq_unionAll, record_eq_unionAll, List.map_map]
  exact congrArg _ (List.map_congr_left hcontribution)

/-- Types that are not registered read as strings, wherever they stand in the tree. -/
theorem evaluate_plain {s : Schema} {r : Registry} (h : ∀ tag ∈ s.customTags, r.find? tag = none)
    (parent : Selection) : (evaluate s.plain parent r).1 = (evaluate s parent r).1 := by
  induction s using Schema.induction generalizing parent with
  | node s ih =>
    cases hloc : located s parent with
    | none =>
      rw [evaluate_of_located_none hloc,
        evaluate_of_located_none ((located_plain s parent).trans hloc)]
    | some nodes =>
      rw [evaluate_of_located hloc, evaluate_of_located ((located_plain s parent).trans hloc)]
      cases htag : s.kind.lookedUp? with
      | some name =>
        rw [readNodes_of_unregistered htag (h name (Schema.mem_customTags_of_kind htag)),
          Schema.plain_eq, PropertyType.plain, htag]
        rfl
      | none =>
        have hkind : s.kind.plain = s.kind := by rw [PropertyType.plain, htag]; rfl
        rw [Schema.plain_eq, hkind, readNodes, readNodes]
        cases hs : s.kind with
        | object =>
          have hrecord := record_map_plain (fun p hp => ih p hp fun tag ht =>
            h tag (Schema.mem_customTags_of_property hp ht)) nodes
          exact congrArg Value.record hrecord
        | urlList | custom name =>
          rw [hs] at htag
          cases htag
        | string | longText | image | integer | array | propertyArray => rfl

/-! ## Conformance -/

/-- A value conforms if the fields that the properties of its schema write do. -/
theorem conforms_of_writes {s : Schema} {r : Registry}
    (htags : ∀ tag ∈ s.customTags, r.find? tag = none)
    (hwrites : ∀ p ∈ s.properties, ∀ nodes, ∀ f ∈ writes r p nodes,
      FieldConforms s.properties f.1 f.2)
    (parent : Selection) : Conforms s (evaluate s parent r).1 := by
  cases hloc : located s parent with
  | none =>
    rw [evaluate_of_located_none hloc]
    exact .null s
  | some nodes =>
    rw [evaluate_of_located hloc]
    have htext : s.kind.plain = .string ∨ s.kind = .image →
        Conforms s (.ofText? (Path.resolve s.css nodes)) :=
      fun hkind => conforms_ofText? fun t ht => .text hkind (cleaned_of_resolve ht)
    cases htag : s.kind.lookedUp? with
    | some name =>
      rw [readNodes_of_unregistered htag (htags name (Schema.mem_customTags_of_kind htag))]
      exact htext (.inl (by rw [PropertyType.plain, htag]; rfl))
    | none =>
      rw [readNodes]
      cases hs : s.kind with
      | object =>
        refine .record hs fun f hf => ?_
        rw [record_eq_ofList_writes] at hf
        obtain ⟨p, hp, hf⟩ := mem_writesOfAll (Fields.mem_ofList hf)
        exact hwrites p hp nodes f hf
      | string => exact htext (.inl (by rw [hs]; rfl))
      | image => exact htext (.inr hs)
      | longText => exact conforms_ofText? fun t ht => .longText hs (tidy_of_longText ht)
      | integer =>
        refine conforms_ofInteger? fun i hi => ?_
        obtain ⟨t, -, hparse⟩ := Option.bind_eq_some_iff.1 hi
        obtain ⟨hlow, hhigh⟩ := Number.parseInteger_range hparse
        exact .integer hs hlow hhigh
      | array => exact .list hs fun item hitem => cleaned_of_mem_array hitem
      | propertyArray => exact .map hs fun e he => entryConforms_of_mem_propertyArray he
      | urlList | custom name =>
        rw [hs] at htag
        cases htag

/-- A record comes from an object whose elements are found. -/
theorem located_of_evaluate_record {s : Schema} {parent : Selection} {r : Registry}
    {fields : Record} (hvalue : (evaluate s parent r).1 = .record fields)
    (hconforms : Conforms s (evaluate s parent r).1) :
    s.kind = .object ∧ ∃ nodes, located s parent = some nodes := by
  rw [hvalue] at hconforms
  cases hconforms with
  | record hkind _ =>
    refine ⟨hkind, ?_⟩
    cases hloc : located s parent with
    | none =>
      rw [evaluate_of_located_none hloc] at hvalue
      cases hvalue
    | some nodes => exact ⟨nodes, rfl⟩

/-- The fields that a property writes conform if its value does and those of its own properties do. -/
theorem fieldConforms_of_writes {s : Schema} {r : Registry}
    (hwrites : ∀ p ∈ s.properties, ∀ nodes, ∀ f ∈ writes r p nodes,
      FieldConforms s.properties f.1 f.2)
    {parent : Selection} (hvalue : Conforms s (evaluate s parent r).1) {properties : List Schema}
    (hmem : s ∈ properties) : ∀ f ∈ writes r s parent, FieldConforms properties f.1 f.2 := by
  intro f hf
  by_cases hspliced : s.kind = .object ∧ s.mergeWithParent = true ∧
      ∃ nodes, located s parent = some nodes
  · obtain ⟨hkind, hmerges, nodes, hloc⟩ := hspliced
    rw [writes_of_object r hkind hmerges hloc] at hf
    obtain ⟨p, hp, hf⟩ := mem_writesOfAll hf
    exact .merged hmem hkind hmerges (hwrites p hp nodes f hf)
  · have hnone : s.kind = .object → s.mergeWithParent = true → located s parent = none := by
      intro hkind hmerges
      refine Option.eq_none_iff_forall_ne_some.2 fun nodes hloc => ?_
      exact hspliced ⟨hkind, hmerges, nodes, hloc⟩
    have hown : s.mergeWithParent = true → (evaluate s parent r).1.record? = none := by
      intro hmerges
      cases hv : (evaluate s parent r).1 with
      | record fields =>
        obtain ⟨hkind, hfound⟩ := located_of_evaluate_record hv hvalue
        exact absurd ⟨hkind, hmerges, hfound⟩ hspliced
      | null | text | integer | list | map => rfl
    rw [writes_of_not_object r hnone, contribution, contributed_of_not_merged hown] at hf
    obtain rfl := List.mem_singleton.1 hf
    exact .own hmem hown hvalue

theorem conforms_and_fieldConforms (s : Schema) (r : Registry)
    (htags : ∀ tag ∈ s.customTags, r.find? tag = none) (parent : Selection) :
    Conforms s (evaluate s parent r).1 ∧
      ∀ f ∈ writes r s parent, ∀ properties, s ∈ properties → FieldConforms properties f.1 f.2 := by
  induction s using Schema.induction generalizing parent with
  | node s ih =>
    have hwrites : ∀ p ∈ s.properties, ∀ nodes, ∀ f ∈ writes r p nodes,
        FieldConforms s.properties f.1 f.2 := by
      intro p hp nodes f hf
      have hprop := ih p hp (fun tag ht => htags tag (Schema.mem_customTags_of_property hp ht)) nodes
      exact hprop.2 f hf s.properties hp
    have hvalue := conforms_of_writes htags hwrites parent
    exact ⟨hvalue, fun f hf properties hmem => fieldConforms_of_writes hwrites hvalue hmem f hf⟩

/-- **Without resolvers, every value is of the kind that its type promises, or null, and holds clean text
only**: this goes for all fields of nested and of merged records. A type that is not registered has the
value that a string would have, at the root of the tree and everywhere below. -/
theorem evaluate_conforms (s : Schema) (parent : Selection) (r : Registry)
    (h : ∀ tag ∈ s.customTags, r.find? tag = none) :
    Conforms s (evaluate s parent r).1 ∧
      (∀ name, s.kind.lookedUp? = some name →
        (evaluate s parent r).1 = (evaluate { s with kind := .string } parent r).1) ∧
      (evaluate s parent r).1 = (evaluate s.plain parent r).1 := by
  refine ⟨(conforms_and_fieldConforms s r h parent).1, fun name hname => ?_, ?_⟩
  · exact evaluate_eq_string hname (h name (Schema.mem_customTags_of_kind hname)) parent
  · exact (evaluate_plain h parent).symm

/-- A box that holds a count and, through an object that merges, a rating of a type of its own. -/
def ratedBox : Schema :=
  { Schema.empty with
    kind := .object
    properties := [
      { Schema.empty with id := "count", kind := .integer },
      { Schema.empty with
        id := "rating"
        kind := .object
        mergeWithParent := true
        properties := [{ Schema.empty with id := "stars", kind := .custom "stars" }] }] }

/-- A page of one paragraph, with characters in it that cleaning removes. -/
def ratedPage : Markup.Document :=
  ⟨#[⟨.element ⟨.html, "p", []⟩, 0, none, 0⟩, ⟨.text "\u0007 5 \uFFFD\n", 1, some 0, 1⟩]⟩

/-- Prices can be read, ratings cannot. -/
def onlyPrices : Registry :=
  ⟨[("price", fun _ _ => .null)], false⟩

theorem evaluate_conforms_ratedBox :
    (∀ tag ∈ ratedBox.customTags, onlyPrices.find? tag = none) ∧
      (evaluate ratedBox (.root ratedPage) onlyPrices).1 =
        .record [("count", .integer 5), ("stars", .text "5")] ∧
      Conforms ratedBox (evaluate ratedBox (.root ratedPage) onlyPrices).1 ∧
      (evaluate ratedBox (.root ratedPage) onlyPrices).1 =
        (evaluate ratedBox.plain (.root ratedPage) onlyPrices).1 := by
  have htags : ∀ tag ∈ ratedBox.customTags, onlyPrices.find? tag = none := by
    intro tag htag
    obtain rfl : tag = "stars" := List.mem_singleton.1 htag
    decide
  obtain ⟨hconforms, -, hplain⟩ := evaluate_conforms ratedBox (.root ratedPage) onlyPrices htags
  exact ⟨htags, rfl, hconforms, hplain⟩

end Extract

end Harvest
