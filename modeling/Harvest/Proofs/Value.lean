import Harvest.Proofs.Extract.Record
import Harvest.Proofs.Json.Lookup

/-!
# What values are as JSON

The JSON of a value is what serialising the value makes of it, as a JSON value (`serialize_builder`) and as
JSON text (`serialize_writer`), in whichever order fields are listed. `ofJson` reads a value back with a
record in place of every map (`ofJson_toJson`), so that nothing else is lost (`toJson_eq_iff`). What
evaluation yields is `Ordered`.
-/

namespace Harvest

namespace Json

/-! ## The text of sequences and mappings -/

theorem commaSeparated_cons (part : List Char) (more : List (List Char)) :
    commaSeparated (part :: more) = part ++ more.flatMap (',' :: ·) := by
  induction more generalizing part with
  | nil => simp [commaSeparated]
  | cons next more ih =>
    change part ++ ',' :: commaSeparated (next :: more) = _
    rw [ih, List.flatMap_cons, List.cons_append]

theorem itemsChars_eq (items : List Json) :
    itemsChars items = items.flatMap (fun j => ',' :: chars j) ++ [']'] := by
  induction items with
  | nil => rw [itemsChars, List.flatMap_nil, List.nil_append]
  | cons j more ih => rw [itemsChars, ih, List.flatMap_cons, List.cons_append, List.cons_append, List.append_assoc]

theorem fieldsChars_eq (fields : List (String × Json)) :
    fieldsChars fields = fields.flatMap (fun f => ',' :: (stringChars f.1 ++ ':' :: chars f.2)) ++ ['}'] := by
  induction fields with
  | nil => rw [fieldsChars, List.flatMap_nil, List.nil_append]
  | cons f more ih =>
    obtain ⟨k, v⟩ := f
    rw [fieldsChars, ih, List.flatMap_cons]
    simp

theorem chars_array (items : List Json) : chars (.array items) = writer.sequence (items.map chars) := by
  change _ = '[' :: (commaSeparated (items.map chars) ++ [']'])
  cases items with
  | nil => rw [chars]; rfl
  | cons j more => rw [chars, itemsChars_eq, List.map_cons, commaSeparated_cons, List.flatMap_map, List.append_assoc]

theorem chars_object (fields : List (String × Json)) :
    chars (.object fields) = writer.mapping (fields.map fun f => (f.1, chars f.2)) := by
  change _ = '{' :: (commaSeparated ((fields.map fun f => (f.1, chars f.2)).map fun f =>
    stringChars f.1 ++ ':' :: f.2) ++ ['}'])
  rw [List.map_map]
  cases fields with
  | nil => rw [chars]; rfl
  | cons f more =>
    obtain ⟨k, v⟩ := f
    rw [chars, fieldsChars_eq, List.map_cons, commaSeparated_cons, List.flatMap_map]
    simp

end Json

namespace Value

/-- What passes from the fields of a record to the record holds of all values. -/
@[elab_as_elim]
theorem induction {motive : Value → Prop} (null : motive .null) (text : ∀ t, motive (.text t))
    (integer : ∀ i, motive (.integer i)) (list : ∀ items, motive (.list items))
    (record : ∀ fields, (∀ f ∈ fields, motive f.2) → motive (.record fields))
    (map : ∀ entries, motive (.map entries)) : ∀ v, motive v
  | .null => null
  | .text t => text t
  | .integer i => integer i
  | .list items => list items
  | .map entries => map entries
  | .record fields => record fields fun f _ => induction null text integer list record map f.2
termination_by v => sizeOf v
decreasing_by
  have hmem := List.sizeOf_lt_of_mem ‹f ∈ fields›
  obtain ⟨k, v⟩ := f
  simp only [Prod.mk.sizeOf_spec, Value.record.sizeOf_spec] at hmem ⊢
  omega

/-! ## Records field by field -/

theorem fieldsToJson_eq_map (fields : Record) : fieldsToJson fields = fields.map fun f => (f.1, f.2.toJson) := by
  induction fields with
  | nil => rw [fieldsToJson, List.map_nil]
  | cons f more ih => rw [fieldsToJson, ih, List.map_cons]

theorem serializeFields_eq_map {α : Type} (s : Serializer α) (fields : Record) :
    serializeFields s fields = fields.map fun f => (f.1, f.2.serialize s) := by
  induction fields with
  | nil => rw [serializeFields, List.map_nil]
  | cons f more ih => rw [serializeFields, ih, List.map_cons]

mutual

/-- The value with its fields in order, at every depth. Of equal keys, the last one counts. -/
def sorted : Value → Value
  | .record fields => .record (Fields.ofList (fieldsSorted fields))
  | .map entries => .map (Fields.ofList entries)
  | v => v

def fieldsSorted : List (String × Value) → List (String × Value)
  | [] => []
  | (k, v) :: rest => (k, sorted v) :: fieldsSorted rest

end

mutual

/-- The value with a record of texts for every map. -/
def withoutMaps : Value → Value
  | .record fields => .record (fieldsWithoutMaps fields)
  | .map entries => .record (entries.map fun e => (e.1, .text e.2))
  | v => v

def fieldsWithoutMaps : List (String × Value) → List (String × Value)
  | [] => []
  | (k, v) :: rest => (k, withoutMaps v) :: fieldsWithoutMaps rest

end

theorem fieldsSorted_eq_map (fields : Record) : fieldsSorted fields = fields.map fun f => (f.1, f.2.sorted) := by
  induction fields with
  | nil => rw [fieldsSorted, List.map_nil]
  | cons f more ih => rw [fieldsSorted, ih, List.map_cons]

theorem fieldsWithoutMaps_eq_map (fields : Record) :
    fieldsWithoutMaps fields = fields.map fun f => (f.1, f.2.withoutMaps) := by
  induction fields with
  | nil => rw [fieldsWithoutMaps, List.map_nil]
  | cons f more ih => rw [fieldsWithoutMaps, ih, List.map_cons]

/-! ## Serialisation -/

/-- The fields of a value are in order, at every depth. -/
inductive Ordered : Value → Prop where
  | null : Ordered .null
  | text (t : String) : Ordered (.text t)
  | integer (i : Int) : Ordered (.integer i)
  | list (items : List String) : Ordered (.list items)
  | record {fields : Record} (ascending : Fields.Ascending fields) (values : ∀ f ∈ fields, Ordered f.2) :
      Ordered (.record fields)
  | map {entries : Fields String} (ascending : Fields.Ascending entries) : Ordered (.map entries)

theorem Ordered.sorted_eq {v : Value} (h : v.Ordered) : v.sorted = v := by
  induction h with
  | null | text | integer | list => rw [sorted]; all_goals nofun
  | @record fields hascending _ ih =>
    have hvalues : (fields.map fun f => (f.1, f.2.sorted)) = fields :=
      (Fields.map_congr ih).trans (List.map_id fields)
    rw [sorted, fieldsSorted_eq_map, hvalues, hascending.ofList_eq]
  | map hascending => rw [sorted, hascending.ofList_eq]

/-- Serialising a value builds its JSON, in whichever order its fields are listed. -/
theorem serialize_builder (v : Value) : v.serialize Json.builder = v.sorted.toJson := by
  induction v using Value.induction with
  | null => rfl
  | text t => rfl
  | integer i => rfl
  | list items => rfl
  | record fields ih =>
    -- The mapping inserts fields that are written already, sorting inserts them before: `ofList_mapValues`.
    have hvalues : (fields.map fun f => (f.1, f.2.serialize Json.builder)) =
        (fields.map fun f => (f.1, f.2.sorted)).map fun f => (f.1, f.2.toJson) := by
      rw [List.map_map]
      exact Fields.map_congr ih
    rw [serialize, serializeFields_eq_map, hvalues, sorted, fieldsSorted_eq_map, toJson, fieldsToJson_eq_map,
      ← Fields.ofList_mapValues]
    rfl
  | map entries =>
    rw [serialize, sorted, toJson, ← Fields.ofList_mapValues]
    rfl

theorem serialize_writer (v : Value) : v.serialize Json.writer = v.toJson.chars := by
  induction v using Value.induction with
  | null => rfl
  | text t => rfl
  | integer i => rfl
  | list items =>
    rw [serialize, toJson, Json.chars_array, List.map_map]
    rfl
  | record fields ih =>
    have hvalues : (fields.map fun f => (f.1, f.2.serialize Json.writer)) =
        fields.map fun f => (f.1, f.2.toJson.chars) := Fields.map_congr ih
    rw [serialize, serializeFields_eq_map, hvalues, toJson, fieldsToJson_eq_map, Json.chars_object, List.map_map]
    rfl
  | map entries =>
    rw [serialize, toJson, Json.chars_object, List.map_map]
    rfl

/-! ## Reading values back -/

/-- The text that a JSON value is. -/
def textOf? : Json → Option String
  | .string s => some s
  | _ => none

mutual

/-- Reads a value from its JSON, each object as a record. -/
def ofJson : Json → Value
  | .string s => .text s
  | .int i => .integer i
  | .array items => .list (items.filterMap textOf?)
  | .object fields => .record (fieldsOfJson fields)
  | _ => .null

/-- Reads the fields of a record from those of a JSON object. -/
def fieldsOfJson : List (String × Json) → List (String × Value)
  | [] => []
  | (k, v) :: rest => (k, ofJson v) :: fieldsOfJson rest

end

theorem fieldsOfJson_eq_map (fields : List (String × Json)) :
    fieldsOfJson fields = fields.map fun f => (f.1, ofJson f.2) := by
  induction fields with
  | nil => rw [fieldsOfJson, List.map_nil]
  | cons f more ih => rw [fieldsOfJson, ih, List.map_cons]

theorem ofJson_toJson (v : Value) : ofJson v.toJson = v.withoutMaps := by
  induction v using Value.induction with
  | null => rfl
  | text t => rfl
  | integer i => rfl
  | list items =>
    have hback : (items.map Json.string).filterMap textOf? = items := by
      rw [List.filterMap_map]
      exact List.filterMap_some
    rw [toJson, ofJson, hback]
    rfl
  | record fields ih =>
    rw [toJson, ofJson, withoutMaps, fieldsToJson_eq_map, fieldsOfJson_eq_map, fieldsWithoutMaps_eq_map, List.map_map]
    exact congrArg _ (Fields.map_congr ih)
  | map entries =>
    rw [toJson, ofJson, withoutMaps, fieldsOfJson_eq_map, List.map_map]
    rfl

theorem toJson_withoutMaps (v : Value) : v.withoutMaps.toJson = v.toJson := by
  induction v using Value.induction with
  | null => rfl
  | text t => rfl
  | integer i => rfl
  | list items => rfl
  | record fields ih =>
    rw [withoutMaps, toJson, toJson, fieldsToJson_eq_map, fieldsToJson_eq_map, fieldsWithoutMaps_eq_map, List.map_map]
    exact congrArg _ (Fields.map_congr ih)
  | map entries =>
    rw [withoutMaps, toJson, toJson, fieldsToJson_eq_map, List.map_map]
    rfl

theorem toJson_eq_iff {v w : Value} : v.toJson = w.toJson ↔ v.withoutMaps = w.withoutMaps := by
  constructor
  · intro h
    rw [← ofJson_toJson, h, ofJson_toJson]
  · intro h
    rw [← toJson_withoutMaps, h, toJson_withoutMaps]

/-! ## Records as objects -/

theorem keys_fieldsToJson (r : Record) : Fields.keys (fieldsToJson r) = Fields.keys r := by
  rw [fieldsToJson_eq_map, Fields.keys_mapValues]

theorem lookup?_toJson (r : Record) {key : String} (hne : key ≠ "") (hdotless : '.' ∉ key.toList) :
    r.toJson.lookup? key = (Fields.find? key r).map toJson := by
  rw [Json.lookup?_of_dotless _ hne hdotless, ← Fields.find?_mapValues, ← fieldsToJson_eq_map]
  rfl

/-- **The JSON of a value is its serialisation**, as a JSON value and as text, in whichever order its fields
are listed, and nothing is lost in it but which records are maps. A record becomes an object with the same
keys, and the path of a key leads to the JSON of its value. -/
theorem toJson_faithful (v w : Value) (r : Record) (hv : v.Ordered) :
    (v.serialize Json.builder = v.toJson ∧ v.print = v.toJson.print ∧
      ∀ u : Value, u.sorted = v → u.serialize Json.builder = v.toJson) ∧
    (v.toJson = w.toJson ↔ v.withoutMaps = w.withoutMaps) ∧
    (∃ fields, r.toJson = .object fields ∧ Fields.keys fields = Fields.keys r) ∧
    ∀ key, key ≠ "" → '.' ∉ key.toList → r.toJson.lookup? key = (Fields.find? key r).map toJson := by
  refine ⟨⟨?_, ?_, ?_⟩, toJson_eq_iff, ⟨_, rfl, keys_fieldsToJson r⟩, ?_⟩
  · rw [serialize_builder, hv.sorted_eq]
  · rw [print, serialize_writer]
    rfl
  · rintro u rfl
    exact serialize_builder u
  · intro key hne hdotless
    exact lookup?_toJson r hne hdotless

/-- The fields of an offer whose seller is a record of its own. -/
def offerFields : Record :=
  [("count", .integer 3), ("seller", .record [("name", .text "Ann"), ("site", .null)]),
    ("specs", .map [("color", "red"), ("size", "L")])]

theorem ordered_offerFields : (Value.record offerFields).Ordered := by
  have hoffer : ["count", "seller", "specs"].Pairwise (· < ·) := by decide
  have hseller : ["name", "site"].Pairwise (· < ·) := by decide
  have hspecs : ["color", "size"].Pairwise (· < ·) := by decide
  have hvalues : (Value.record [("name", .text "Ann"), ("site", .null)]).Ordered := by
    refine .record (List.pairwise_map.1 hseller) fun f hf => ?_
    rcases List.mem_pair.1 hf with rfl | rfl
    · exact .text "Ann"
    · exact .null
  refine .record (List.pairwise_map.1 hoffer) fun f hf => ?_
  rcases List.mem_cons.1 hf with rfl | hf
  · exact .integer 3
  rcases List.mem_pair.1 hf with rfl | rfl
  · exact hvalues
  · exact .map (List.pairwise_map.1 hspecs)

theorem toJson_faithful_offerFields :
    (Value.record offerFields).Ordered ∧
      (Value.record offerFields.reverse).serialize Json.builder = Record.toJson offerFields ∧
      (Value.record offerFields).print = (Record.toJson offerFields).print ∧
      Record.toJson offerFields = (Value.record offerFields).withoutMaps.toJson ∧
      (∃ fields, Record.toJson offerFields = .object fields ∧ Fields.keys fields = ["count", "seller", "specs"]) ∧
      (Record.toJson offerFields).lookup? "count" = some (.int 3) := by
  obtain ⟨⟨-, hprint, hbuilt⟩, hsame, hkeys, hlookup⟩ := toJson_faithful (.record offerFields)
    (Value.record offerFields).withoutMaps offerFields ordered_offerFields
  have hcount := hlookup "count" (by decide) (by decide)
  exact ⟨ordered_offerFields, hbuilt (.record offerFields.reverse) rfl, hprint, hsame.2 rfl, hkeys, hcount⟩

end Value

namespace Extract

/-! ## Evaluated values -/

theorem ordered_insert {fields : Record} (h : (Value.record fields).Ordered) (id : String) {value : Value}
    (hvalue : value.Ordered) : (Value.record (Fields.insert id value fields)).Ordered := by
  cases h with
  | record hascending hvalues =>
    refine .record (hascending.insert id value) fun f hf => ?_
    rcases Fields.mem_insert hf with rfl | hf
    · exact hvalue
    · exact hvalues f hf

theorem ordered_mergeProperty (keepNull : Bool) (id : String) (merges : Bool) {value : Value} {fields : Record}
    (hvalue : value.Ordered) (h : (Value.record fields).Ordered) :
    (Value.record (mergeProperty keepNull id merges value fields)).Ordered := by
  have hinsert := ordered_insert h id hvalue
  cases hvalue with
  | null =>
    cases keepNull with
    | true => exact hinsert
    | false => exact h
  | record _ hmore =>
    cases merges with
    | false => exact hinsert
    | true =>
      cases h with
      | record hascending hvalues =>
        refine .record (hascending.extend _) fun f hf => ?_
        rcases Fields.mem_extend hf with hf | hf
        · exact hmore f hf
        · exact hvalues f hf
  | text | integer | list | map => exact hinsert

theorem ordered_mergeAll (keepNull : Bool) {properties : List Schema} {sel : Selection} {r : Registry}
    (hproperties : ∀ p ∈ properties, (evaluate p sel r).1.Ordered) {fields : Record}
    (h : (Value.record fields).Ordered) : (Value.record (mergeAll keepNull properties sel fields r).1).Ordered := by
  rw [mergeAll_eq_foldl]
  induction properties generalizing fields with
  | nil => exact h
  | cons p more ih =>
    rw [List.forall_mem_cons] at hproperties
    exact ih hproperties.2 (ordered_mergeProperty keepNull p.id p.mergeWithParent hproperties.1 h)

theorem ordered_ofText? (t? : Option String) : (Value.ofText? t?).Ordered := by
  cases t? with
  | none => exact .null
  | some t => exact .text t

theorem ordered_readRegistered {r : Registry}
    (hr : ∀ name resolver, r.find? name = some resolver → ∀ s nodes, (resolver s nodes).Ordered) (s : Schema)
    (nodes : Selection) (name : String) : (readNodes.readRegistered s nodes name r).1.Ordered := by
  unfold readNodes.readRegistered Registry.lookup
  cases hfind : r.find? name with
  | none => exact ordered_ofText? _
  | some resolver => exact hr name resolver hfind s nodes

/-- If the registered functions yield ordered values, evaluation does. -/
theorem ordered_evaluate (s : Schema) (parent : Selection) (r : Registry)
    (hr : ∀ name resolver, r.find? name = some resolver → ∀ s nodes, (resolver s nodes).Ordered) :
    (evaluate s parent r).1.Ordered := by
  induction s using Schema.induction generalizing parent with
  | node s ih =>
    cases hloc : located s parent with
    | none =>
      rw [evaluate_of_located_none hloc]
      exact .null
    | some nodes =>
      rw [evaluate_of_located hloc, readNodes]
      cases s.kind with
      | object => exact ordered_mergeAll true (fun p hp => ih p hp nodes) (.record .nil (by simp))
      | string | image | longText => exact ordered_ofText? _
      | integer =>
        dsimp only
        cases (Path.resolve s.css nodes).bind Number.parseInteger with
        | none => exact .null
        | some i => exact .integer i
      | array => exact .list _
      | propertyArray => exact .map (Fields.Ascending.ofList _)
      | urlList => exact ordered_readRegistered hr s nodes "urllist"
      | custom name => exact ordered_readRegistered hr s nodes name

end Extract

end Harvest
