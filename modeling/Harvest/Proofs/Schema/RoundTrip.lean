import Harvest.Schema.Text
import Harvest.Proofs.Extract.Evaluation
import Harvest.Proofs.Json.ReadBack
import Harvest.Proofs.Json.Yields

/-!
# The text of a schema reads back as the schema

A level of a schema takes two levels of brackets, its own and that of its properties, so that of the 127
levels a text may have a schema gets 63. A schema nested no deeper reads back from its text
(`reader_back`), a deeper one is refused (`reader_refuses`). What is read from any text is a schema that
can be written so (`ofText_sound`); whatever other names, orders or shapes the text used are gone after one
reading.
-/

namespace Harvest

/-- The names that stand for built-in types. -/
def PropertyType.builtIn : List String :=
  ["", "object", "string", "longtext", "imageurl", "image", "integer", "array", "property_array",
   "urllist"]

theorem PropertyType.ofTag_eq_custom {tag name : String} (h : ofTag tag = .custom name) :
    name ∉ builtIn := by
  unfold ofTag at h
  split at h <;> simp_all [builtIn]

theorem PropertyType.ofTag_of_not_builtIn {name : String} (h : name ∉ builtIn) :
    ofTag name = .custom name := by
  unfold ofTag
  split <;> simp_all [builtIn]

namespace Schema

/-- The limits fit in 64 bits, and no type is named like a built-in one. -/
inductive Sound : Schema → Prop
  | node {s : Schema} (limit : s.limit ≤ Number.maxNat64)
      (kind : ∀ name, s.kind = .custom name → name ∉ PropertyType.builtIn)
      (properties : ∀ p ∈ s.properties, Sound p) : Sound s

mutual

/-- How many schemas stand within each other, the outermost one included. -/
def height : Schema → Nat
  | ⟨_, _, _, _, _, _, _, _, properties⟩ => heights properties + 1

/-- The greatest height in a list. -/
def heights : List Schema → Nat
  | [] => 0
  | s :: more => max (height s) (heights more)

end

theorem heights_le_iff {ps : List Schema} {k : Nat} : heights ps ≤ k ↔ ∀ p ∈ ps, p.height ≤ k := by
  induction ps with
  | nil => simp [heights]
  | cons p ps ih => rw [heights, Nat.max_le, ih, List.forall_mem_cons]

theorem height_eq (s : Schema) : s.height = heights s.properties + 1 := by
  cases s
  rw [height]

theorem listToJson_eq_map (ps : List Schema) : listToJson ps = ps.map toJson := by
  induction ps with
  | nil => rfl
  | cons p ps ih => rw [listToJson, ih, List.map_cons]

/-! ## What a schema is written as -/

/-- The entries of a schema, all but the list of properties. -/
def ownEntries (s : Schema) : List (String × Json) :=
  [("id", .string s.id), ("css", textsToJson s.css), ("next", textsToJson s.next),
   ("type", .string s.kind.tag), ("mergeWithParent", .bool s.mergeWithParent),
   ("key", textsToJson s.keyPath), ("val", textsToJson s.valPath), ("limit", .int s.limit)]

/-- Their names, the last one first. -/
def ownNames : List String :=
  ["limit", "val", "key", "mergeWithParent", "type", "next", "css", "id"]

theorem toJson_eq (s : Schema) :
    s.toJson = .object (s.ownEntries ++ [("properties", .array (s.properties.map toJson))]) := by
  cases s
  rw [toJson, listToJson_eq_map]
  rfl

theorem Sound.properties {s : Schema} (h : s.Sound) : ∀ p ∈ s.properties, p.Sound := by
  obtain ⟨-, -, hproperties⟩ := h
  exact hproperties

theorem Sound.limit_le {s : Schema} (h : s.Sound) : s.limit ≤ Number.maxNat64 := by
  obtain ⟨hlimit, -, -⟩ := h
  exact hlimit

theorem ofTag_tag {s : Schema} (h : s.Sound) : PropertyType.ofTag s.kind.tag = s.kind := by
  obtain ⟨-, hkind, -⟩ := h
  cases hs : s.kind with
  | custom name => exact PropertyType.ofTag_of_not_builtIn (hkind name hs)
  | _ => rfl

/-! ## Reading back -/

theorem texts_back (depth : Nat) (texts : List String) :
    Json.ReadsBack (Json.readList (depth + 1) Json.readString) (Json.chars (textsToJson texts)) texts :=
  Json.readList_back (fun text _ => Json.readString_back text) depth

/-- The entries of a schema but its properties lead to the schema without properties. -/
theorem ownEntries_lead {s : Schema} (hs : s.Sound) (depth : Nat) (property : Json.Reader Schema) :
    Json.Leads (fields (depth + 1) property) [] empty s.ownEntries ownNames
      { s with properties := [] } := by
  refine .cons rfl rfl ((Json.readString_back s.id).map _) ?_
  refine .cons rfl rfl ((texts_back depth s.css).map _) ?_
  refine .cons rfl rfl ((texts_back depth s.next).map _) ?_
  show Json.Leads _ _ (⟨s.id, s.css, s.next, .string, false, [], [], 0, []⟩ : Schema) _ _ _
  refine .cons rfl rfl ((Json.readString_back s.kind.tag).map _) ?_
  refine .cons rfl rfl ((Json.readBool_back s.mergeWithParent).map _) ?_
  rw [ofTag_tag hs]
  show Json.Leads _ _ (⟨s.id, s.css, s.next, s.kind, s.mergeWithParent, [], [], 0, []⟩ : Schema) _ _ _
  refine .cons rfl rfl ((texts_back depth s.keyPath).map _) ?_
  refine .cons rfl rfl ((texts_back depth s.valPath).map _) ?_
  refine .cons rfl rfl ((Json.readNat_back hs.limit_le (Nat.le_refl _)).map _) ?_
  show Json.Leads _ _ { s with properties := [] } _ _ _
  exact .nil

/-- With two levels of brackets for each level of the schema, and one to spare, a schema reads back. -/
theorem reader_back {k : Nat} {s : Schema} (hs : s.Sound) (hk : s.height ≤ k) :
    Json.ReadsBack (reader (2 * k + 1)) (Json.chars s.toJson) s := by
  induction k generalizing s with
  | zero => rw [height_eq] at hk; omega
  | succ k ih =>
    have hlow : ∀ p ∈ s.properties, p.height ≤ k := by
      rw [height_eq] at hk
      exact heights_le_iff.1 (Nat.le_of_succ_le_succ hk)
    have hlist : Json.ReadsBack (Json.readList (2 * k + 2) (reader (2 * k + 1)))
        (Json.chars (.array (s.properties.map toJson))) s.properties :=
      Json.readList_back (fun p hp => ih (hs.properties p hp) (hlow p hp)) _
    have hlast : Json.Leads (fields (2 * k + 2) (reader (2 * k + 1))) ownNames
        { s with properties := [] } [("properties", .array (s.properties.map toJson))]
        ("properties" :: ownNames) s := by
      cases s
      exact .cons rfl rfl (hlist.map _) .nil
    rw [toJson_eq]
    exact Json.readStructure_back ((ownEntries_lead hs _ _).append hlast) expectation _

/-- A schema nested deeper than the brackets allow is refused. -/
theorem reader_refuses {k : Nat} {s : Schema} (hs : s.Sound) (hk : k < s.height) :
    Json.Refuses (reader (2 * k + 1)) (Json.chars s.toJson) := by
  induction k generalizing s with
  | zero =>
    -- the schema itself takes the last bracket, and its first list finds none left
    have hid : Json.Leads (fields 0 fun t => .error (Json.faultAt .tooDeep t)) [] empty
        [("id", .string s.id)] ["id"] { empty with id := s.id } :=
      .cons rfl rfl ((Json.readString_back s.id).map _) .nil
    have hcss : Json.Refuses (Json.readList 0 Json.readString) (Json.chars (textsToJson s.css)) :=
      Json.readList_tooDeep Json.readString _
    rw [toJson_eq]
    exact Json.readStructure_refuses hid rfl rfl (hcss.map _) _ expectation 0
  | succ k ih =>
    have hitems : ∀ p ∈ s.properties,
        Json.ReadsBack (reader (2 * k + 1)) (Json.chars p.toJson) p ∨
          Json.Refuses (reader (2 * k + 1)) (Json.chars p.toJson) := fun p hp =>
      (Nat.lt_or_ge k p.height).elim (fun h => .inr (ih (hs.properties p hp) h))
        fun h => .inl (reader_back (hs.properties p hp) h)
    have hdeep : ∃ p ∈ s.properties, k < p.height := by
      rw [height_eq, Nat.add_lt_add_iff_right, ← Nat.not_le, heights_le_iff] at hk
      simpa only [not_forall, Nat.not_le, exists_prop] using hk
    obtain ⟨p, hp, hpk⟩ := hdeep
    have hlist : Json.Refuses (Json.readList (2 * k + 2) (reader (2 * k + 1)))
        (Json.chars (.array (s.properties.map toJson))) :=
      Json.readList_refuses hitems ⟨p, hp, ih (hs.properties p hp) hpk⟩ _
    rw [toJson_eq]
    exact Json.readStructure_refuses (ownEntries_lead hs _ _) rfl rfl (hlist.map _) [] expectation _

/-! ## What is read -/

theorem empty_sound : empty.Sound := by
  refine ⟨Nat.zero_le _, ?_, ?_⟩
  · rintro name ⟨⟩
  · rintro p ⟨⟩

/-- Whatever field is read next, the schema so far stays sound. -/
theorem fields_sound {property : Json.Reader Schema} (h : Json.Yields property Sound) (depth : Nat) :
    ∀ field ∈ fields depth property, ∀ s : Schema, s.Sound → Json.Yields (field.read s) Sound := by
  intro field hfield s hs
  obtain ⟨hlimit, hkind, hproperties⟩ := hs
  simp only [fields, List.mem_cons, List.not_mem_nil, or_false] at hfield
  rcases hfield with rfl | rfl | rfl | rfl | rfl | rfl | rfl | rfl | rfl
  case inr.inr.inr.inl =>
    exact (Json.Yields.trivial _).of_map fun tag _ =>
      ⟨hlimit, fun name hname => PropertyType.ofTag_eq_custom hname, hproperties⟩
  case inr.inr.inr.inr.inr.inr.inr.inl =>
    exact (Json.readNat_yields _ _).of_map fun n hn => ⟨hn, hkind, hproperties⟩
  case inr.inr.inr.inr.inr.inr.inr.inr =>
    exact (Json.readList_yields depth h).of_map fun ps hps => ⟨hlimit, hkind, hps⟩
  all_goals exact (Json.Yields.trivial _).of_map fun _ _ => ⟨hlimit, hkind, hproperties⟩

theorem reader_sound : ∀ depth, Json.Yields (reader depth) Sound
  | 0 => Json.readStructure_yields (fun _ h => by cases h) empty_sound expectation 0
  | 1 =>
    have hnone : Json.Yields (fun s => .error (Json.faultAt .tooDeep s)) Sound := by
      rintro s v rest ⟨⟩
    Json.readStructure_yields (fields_sound hnone 0) empty_sound expectation 1
  | depth + 2 =>
    Json.readStructure_yields (fields_sound (reader_sound depth) (depth + 1)) empty_sound expectation
      (depth + 2)

theorem ofText_sound {text : String} {s : Schema} (h : ofText text = .ok s) : s.Sound :=
  Json.readShaped_yields (reader_sound Json.maxDepth) h

/-! ## The round trip -/

theorem ofText_toText_iff {s : Schema} (hs : s.Sound) :
    ofText s.toText = .ok s ↔ s.height ≤ 63 := by
  constructor
  · intro h
    by_contra hdeep
    obtain ⟨e, he⟩ := Json.readShaped_print_refused (reader_refuses hs (Nat.lt_of_not_le hdeep))
    rw [ofText, toText, show Json.maxDepth = 2 * 63 + 1 from rfl, he] at h
    cases h
  · intro hk
    exact Json.readShaped_print (reader_back hs hk)

theorem eq_of_toText_eq {s t : Schema} (hs : s.Sound) (hk : s.height ≤ 63) (ht : t.Sound)
    (hl : t.height ≤ 63) (h : s.toText = t.toText) : s = t := by
  have hread := (ofText_toText_iff hs).2 hk
  rw [h, (ofText_toText_iff ht).2 hl] at hread
  exact (Except.ok.inj hread).symm

/-- A schema, whatever it holds, reads back from its text exactly if it is nested no deeper than the
brackets of a text may be. What was read from any text, in whatever shape the schema stood there, reads
back from its own text. -/
theorem text_round_trip :
    (∀ s : Schema, s.Sound → (ofText s.toText = .ok s ↔ s.height ≤ 63)) ∧
      ∀ text s, ofText text = .ok s → s.height ≤ 63 → ofText s.toText = .ok s :=
  ⟨fun _ hs => ofText_toText_iff hs, fun _ _ h hk => (ofText_toText_iff (ofText_sound h)).2 hk⟩

/-- A picture, as an alias names it, with an unknown field and a property that stands as a sequence. -/
def pictureText : String :=
  "\x7b\"type\":\"image\",\"size\":[1,\x7b\x7d],\"css\":[\"img\",\"src\"]," ++
    "\"properties\":[[\"alt\",[\"a\\n\"]],\x7b\"limit\":7,\"type\":\"price\"\x7d]\x7d"

/-- What is read from it. -/
def picture : Schema :=
  { empty with
    kind := .image
    css := ["img", "src"]
    properties :=
      [{ empty with id := "alt", css := ["a\n"] }, { empty with limit := 7, kind := .custom "price" }] }

theorem text_round_trip_picture :
    ofText pictureText = .ok picture ∧ picture.Sound ∧ picture.height ≤ 63 ∧
      (ofText picture.toText = .ok picture ↔ picture.height ≤ 63) ∧
      ofText picture.toText = .ok picture := by
  have hheight : picture.height ≤ 63 := by decide
  have hsound : picture.Sound := by
    refine ⟨by decide, by rintro name ⟨⟩, ?_⟩
    rintro p (_ | ⟨_, _ | ⟨_, ⟨⟩⟩⟩)
    · exact ⟨by decide, by rintro name ⟨⟩, by rintro p ⟨⟩⟩
    · exact ⟨by decide, by rintro name ⟨⟩; decide, by rintro p ⟨⟩⟩
  have hread : ofText pictureText = .ok picture := by
    have hchars : (ofText pictureText).map (fun s => s.toJson.chars) = .ok picture.toJson.chars := by
      decide +kernel
    have hlow : (ofText pictureText).map height = .ok 2 := by decide +kernel
    cases h : ofText pictureText with
    | error e =>
      rw [h] at hchars
      cases hchars
    | ok s =>
      rw [h] at hchars hlow
      have hlow : s.height = 2 := Except.ok.inj hlow
      have htext : s.toText = picture.toText := congrArg String.ofList (Except.ok.inj hchars)
      rw [eq_of_toText_eq (ofText_sound h) (by omega) hsound hheight htext]
  exact ⟨hread, hsound, hheight, text_round_trip.1 picture hsound,
    text_round_trip.2 pictureText picture hread hheight⟩

end Schema

end Harvest
