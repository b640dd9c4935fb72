import Harvest.Proofs.Extract.Evaluation
import Harvest.Proofs.Extract.Find

/-!
# The entries of a property array

An item of a property array has an entry if a key and a value can be read from it (`HasEntry`): each from the
item itself, or from the first element below it that a selector describes (`PartOf`). The map is what is left
when the entries are put in one after the other, in the order of the items (`map_of_entries`). An item without
an entry leaves no trace.
-/

namespace Harvest

open Markup (Document)

namespace Extract

open Fields (Ascending find? keys unionAll)

/-- The element that a part of an item is read from: the item itself, or the first element below it that the
selector of the part describes. -/
inductive PartOf (d : Document) (item : Nat) (selector : String) : Nat → Prop where
  | whole (empty : selector = "") : PartOf d item selector item
  | below {s : Selector} {n : Nat} {before after : List Nat} (nonempty : selector ≠ "")
      (parsed : Selector.parse? selector = some s)
      (split : d.elementsOf (d.descendants item) = before ++ n :: after)
      (here : s.matchesElement d (some item) n = true)
      (first : ∀ m ∈ before, s.matchesElement d (some item) m = false) : PartOf d item selector n

/-- The label that the key of an item is made of; of the item itself only its own text counts. -/
def labelOf? (path : Path) (part : Selection) : Option String :=
  if path.selector = "" then path.resolveOwn part else path.resolve part

/-- A key and a value can be read from an item, and the value stands for one. -/
structure HasEntry (keyPath valPath : Path) (d : Document) (item : Nat) (key value : String) : Prop where
  label : ∃ n label, PartOf d item keyPath.selector n ∧ labelOf? keyPath ⟨d, [n]⟩ = some label ∧
    Text.normalizeKey label = key
  key_nonempty : key ≠ ""
  text : ∃ n, PartOf d item valPath.selector n ∧ valPath.resolve ⟨d, [n]⟩ = some value
  value_nonempty : value ≠ ""
  value_not_nil : value.toList.map Text.Casing.asciiLower ≠ ['n', 'i', 'l']

/-- The entries of several items, in their order; items without one are passed over. -/
inductive Entries (keyPath valPath : Path) (d : Document) : List Nat → List (String × String) → Prop where
  | nil : Entries keyPath valPath d [] []
  | entry {item : Nat} {key value : String} {items : List Nat} {entries : List (String × String)}
      (has : HasEntry keyPath valPath d item key value) (rest : Entries keyPath valPath d items entries) :
      Entries keyPath valPath d (item :: items) ((key, value) :: entries)
  | none {item : Nat} {items : List Nat} {entries : List (String × String)}
      (lacks : ∀ key value, ¬HasEntry keyPath valPath d item key value)
      (rest : Entries keyPath valPath d items entries) :
      Entries keyPath valPath d (item :: items) entries

/-! ## Parts of an item -/

theorem nodes_find_one (d : Document) (item : Nat) (s : Selector) :
    (Selection.find ⟨d, [item]⟩ s).nodes = Selection.matchesWithin d s item := by
  rw [Selection.nodes_find_cons]
  simp [Selection.find, Selection.ofNodes, Selection.distinct]

theorem subNode?_eq (selector : String) (d : Document) (item : Nat) :
    subNode? selector ⟨d, [item]⟩ = (Selector.parse? selector).bind fun s =>
      ((d.elementsOf (d.descendants item)).find? (s.matchesElement d (some item))).map
        fun n => ⟨d, [n]⟩ := by
  unfold subNode?
  cases Selector.parse? selector with
  | none => rfl
  | some s =>
    dsimp only [Option.bind_some]
    rw [← List.head?_filter, ← Selection.matchesWithin, ← nodes_find_one, Selection.isEmpty, Selection.first]
    cases (Selection.find ⟨d, [item]⟩ s).nodes with
    | nil => rfl
    | cons n more => rfl

/-- Below an item a part is found exactly if it is the first that the selector describes. -/
theorem subNode?_eq_some_iff {selector : String} (hne : selector ≠ "") {d : Document} {item : Nat}
    {part : Selection} :
    subNode? selector ⟨d, [item]⟩ = some part ↔ ∃ n, PartOf d item selector n ∧ part = ⟨d, [n]⟩ := by
  rw [subNode?_eq]
  constructor
  · intro h
    obtain ⟨s, hparse, h⟩ := Option.bind_eq_some_iff.1 h
    obtain ⟨n, hfind, rfl⟩ := Option.map_eq_some_iff.1 h
    obtain ⟨hmatch, before, after, hsplit, hfirst⟩ := List.find?_eq_some_iff_append.1 hfind
    exact ⟨n, .below hne hparse hsplit hmatch fun m hm => by simpa using hfirst m hm, rfl⟩
  · rintro ⟨n, hpart, rfl⟩
    cases hpart with
    | whole hempty => exact absurd hempty hne
    | @below s _ before after _ hparse hsplit hmatch hfirst =>
      refine Option.bind_eq_some_iff.2 ⟨s, hparse, Option.map_eq_some_iff.2 ⟨n, ?_, rfl⟩⟩
      refine List.find?_eq_some_iff_append.2 ⟨hmatch, before, after, hsplit, fun m hm => ?_⟩
      simp [hfirst m hm]

/-- What is read from a part of an item, or from the item itself if the selector is empty. -/
theorem read_part_iff {path : Path} {whole : Selection → Option String} {d : Document} {item : Nat}
    {text : String} :
    (if path.selector.isEmpty then whole ⟨d, [item]⟩
      else (subNode? path.selector ⟨d, [item]⟩).bind path.resolve) = some text ↔
    ∃ n, PartOf d item path.selector n ∧
      (if path.selector = "" then whole ⟨d, [n]⟩ else path.resolve ⟨d, [n]⟩) = some text := by
  by_cases hempty : path.selector = ""
  · rw [if_pos (by rw [hempty]; rfl)]
    simp only [hempty, if_true]
    constructor
    · intro h
      exact ⟨item, .whole rfl, h⟩
    · rintro ⟨n, hpart, h⟩
      cases hpart with
      | whole => exact h
      | below hne => exact absurd rfl hne
  · rw [if_neg (by simpa [String.isEmpty_iff] using hempty)]
    simp only [if_neg hempty]
    constructor
    · intro h
      obtain ⟨part, hpart, h⟩ := Option.bind_eq_some_iff.1 h
      obtain ⟨n, hn, rfl⟩ := (subNode?_eq_some_iff hempty).1 hpart
      exact ⟨n, hn, h⟩
    · rintro ⟨n, hn, h⟩
      exact Option.bind_eq_some_iff.2 ⟨_, (subNode?_eq_some_iff hempty).2 ⟨n, hn, rfl⟩, h⟩

/-! ## One item -/

variable {keyPath valPath : Path} {d : Document}

theorem itemKey?_eq_some_iff {item : Nat} {key : String} :
    itemKey? keyPath ⟨d, [item]⟩ = some key ↔
      (∃ n label, PartOf d item keyPath.selector n ∧ labelOf? keyPath ⟨d, [n]⟩ = some label ∧
        Text.normalizeKey label = key) ∧ key ≠ "" := by
  unfold itemKey? labelOf?
  dsimp only
  rw [Option.filter_eq_some_iff, Option.map_eq_some_iff]
  simp only [read_part_iff]
  constructor
  · rintro ⟨⟨label, ⟨n, hpart, hread⟩, hkey⟩, hne⟩
    exact ⟨⟨n, label, hpart, hread, hkey⟩, by simpa using hne⟩
  · rintro ⟨⟨n, label, hpart, hread, hkey⟩, hne⟩
    exact ⟨⟨label, ⟨n, hpart, hread⟩, hkey⟩, by simpa using hne⟩

theorem itemValue?_eq_some_iff {item : Nat} {value : String} :
    itemValue? valPath ⟨d, [item]⟩ = some value ↔
      (∃ n, PartOf d item valPath.selector n ∧ valPath.resolve ⟨d, [n]⟩ = some value) ∧
        value ≠ "" ∧ value.toList.map Text.Casing.asciiLower ≠ ['n', 'i', 'l'] := by
  have hnil : "nil".toList.map Text.Casing.asciiLower = ['n', 'i', 'l'] := by decide
  unfold itemValue? isNoValue Text.Casing.equalIgnoringAsciiCase
  dsimp only
  rw [Option.filter_eq_some_iff, read_part_iff, hnil]
  simp

/-- An item is taken into the map exactly if it has an entry. -/
theorem pairOf?_eq_some_iff {item : Nat} {key value : String} :
    pairOf? keyPath valPath ⟨d, [item]⟩ = some (key, value) ↔
      HasEntry keyPath valPath d item key value := by
  unfold pairOf?
  constructor
  · intro h
    obtain ⟨key', hkey, h⟩ := Option.bind_eq_some_iff.1 h
    obtain ⟨value', hvalue, h⟩ := Option.map_eq_some_iff.1 h
    cases h
    obtain ⟨hlabel, hkeyne⟩ := itemKey?_eq_some_iff.1 hkey
    obtain ⟨htext, hne, hnil⟩ := itemValue?_eq_some_iff.1 hvalue
    exact ⟨hlabel, hkeyne, htext, hne, hnil⟩
  · intro h
    have hkey := itemKey?_eq_some_iff.2 ⟨h.label, h.key_nonempty⟩
    have hvalue := itemValue?_eq_some_iff.2 ⟨h.text, h.value_nonempty, h.value_not_nil⟩
    rw [hkey, Option.bind_some, hvalue, Option.map_some]

theorem pairOf?_eq_none_iff {item : Nat} :
    pairOf? keyPath valPath ⟨d, [item]⟩ = none ↔
      ∀ key value, ¬HasEntry keyPath valPath d item key value := by
  rw [Option.eq_none_iff_forall_ne_some]
  constructor
  · intro h key value hentry
    exact h (key, value) (pairOf?_eq_some_iff.2 hentry)
  · rintro h ⟨key, value⟩ hpair
    exact h key value (pairOf?_eq_some_iff.1 hpair)

/-! ## All items -/

/-- Several items have one list of entries. -/
theorem entries_iff {items : List Nat} {entries : List (String × String)} :
    Entries keyPath valPath d items entries ↔
      entries = items.filterMap fun n => pairOf? keyPath valPath ⟨d, [n]⟩ := by
  constructor
  · intro h
    induction h with
    | nil => rfl
    | entry has _ ih => rw [List.filterMap_cons, pairOf?_eq_some_iff.2 has, ih]
    | none lacks _ ih => rw [List.filterMap_cons, pairOf?_eq_none_iff.2 lacks, ih]
  · rintro rfl
    induction items with
    | nil => exact .nil
    | cons item items ih =>
      rw [List.filterMap_cons]
      cases hpair : pairOf? keyPath valPath ⟨d, [item]⟩ with
      | none => exact .none (pairOf?_eq_none_iff.1 hpair) ih
      | some pair => exact .entry (pairOf?_eq_some_iff.1 hpair) ih

theorem propertyArray_eq (items : List Nat) :
    propertyArray keyPath valPath ⟨d, items⟩ =
      Fields.ofList (items.filterMap fun n => pairOf? keyPath valPath ⟨d, [n]⟩) := by
  rw [propertyArray, Selection.each, List.filterMap_map]
  rfl

theorem propertyArray_eq_unionAll (items : List Nat) :
    propertyArray keyPath valPath ⟨d, items⟩ =
      unionAll (items.map fun n => (pairOf? keyPath valPath ⟨d, [n]⟩).toList) := by
  rw [propertyArray_eq, Fields.unionAll_eq_ofList, List.filterMap_eq_flatMap_toList, List.flatMap]

/-- A key has the value of the last item with an entry for it. -/
theorem find?_propertyArray {items : List Nat} {key value : String} :
    find? key (propertyArray keyPath valPath ⟨d, items⟩) = some value ↔
      ∃ before item after, items = before ++ item :: after ∧ HasEntry keyPath valPath d item key value ∧
        ∀ later ∈ after, ∀ value, ¬HasEntry keyPath valPath d later key value := by
  have hfind : ∀ n value, find? key (pairOf? keyPath valPath ⟨d, [n]⟩).toList = some value ↔
      HasEntry keyPath valPath d n key value := by
    intro n value
    rw [← pairOf?_eq_some_iff]
    cases pairOf? keyPath valPath ⟨d, [n]⟩ with
    | none => simp
    | some pair =>
      obtain ⟨k, v⟩ := pair
      simp [Fields.find?_cons]
  have hkeys : ∀ n, key ∉ keys (pairOf? keyPath valPath ⟨d, [n]⟩).toList ↔
      ∀ value, ¬HasEntry keyPath valPath d n key value := by
    intro n
    rw [Fields.mem_keys_iff, not_exists]
    exact forall_congr' fun value => not_congr (hfind n value)
  have hasc : ∀ n ∈ items, Ascending (pairOf? keyPath valPath ⟨d, [n]⟩).toList := by
    intro n _
    cases pairOf? keyPath valPath ⟨d, [n]⟩ with
    | none => exact .nil
    | some pair => exact List.pairwise_singleton _ _
  rw [propertyArray_eq_unionAll, Fields.find?_unionAll_map_eq_some_iff hasc]
  simp only [hfind, hkeys]

/-- An item without an entry might as well not be there. -/
theorem propertyArray_skip {item : Nat} (h : ∀ key value, ¬HasEntry keyPath valPath d item key value)
    (before after : List Nat) :
    propertyArray keyPath valPath ⟨d, before ++ item :: after⟩ =
      propertyArray keyPath valPath ⟨d, before ++ after⟩ := by
  have hnone : pairOf? keyPath valPath ⟨d, [item]⟩ = none := pairOf?_eq_none_iff.2 h
  simp only [propertyArray_eq, List.filterMap_append, List.filterMap_cons, hnone]

theorem evaluate_propertyArray {s : Schema} {parent items : Selection} (hkind : s.kind = .propertyArray)
    (hparent : parent.isEmpty = false) (hitems : propertyNodes s.selector parent = some items)
    (r : Registry) : evaluate s parent r = (.map (propertyArray s.keyPath s.valPath items), r) := by
  have hlocated : located s parent = some items := by
    rw [located, if_neg (by simp [hparent])]
    exact hitems
  rw [evaluate_of_located hlocated, readNodes, hkind]

/-- **A property array is the map of the entries of its items.** The entries are put in one after the other,
so that the last one with a key counts, and an item without an entry changes nothing. -/
theorem map_of_entries (s : Schema) (parent items : Selection) (r : Registry)
    (hkind : s.kind = .propertyArray) (hparent : parent.isEmpty = false)
    (hitems : propertyNodes s.selector parent = some items) :
    ∃ entries, (∀ other, Entries s.keyPath s.valPath items.document items.nodes other ↔ other = entries) ∧
      let map := entries.foldl (fun map entry => Fields.insert entry.1 entry.2 map) []
      evaluate s parent r = (.map map, r) ∧
      (∀ key value, find? key map = some value ↔
        ∃ before item after, items.nodes = before ++ item :: after ∧
          HasEntry s.keyPath s.valPath items.document item key value ∧
          ∀ later ∈ after, ∀ value, ¬HasEntry s.keyPath s.valPath items.document later key value) ∧
      ∀ before item after, items.nodes = before ++ item :: after →
        (∀ key value, ¬HasEntry s.keyPath s.valPath items.document item key value) →
        propertyArray s.keyPath s.valPath ⟨items.document, before ++ after⟩ = map := by
  obtain ⟨d, nodes⟩ := items
  refine ⟨_, fun _ => entries_iff, ?_⟩
  intro map
  have hmap : propertyArray s.keyPath s.valPath ⟨d, nodes⟩ = map := propertyArray_eq nodes
  refine ⟨?_, ?_, ?_⟩
  · rw [evaluate_propertyArray hkind hparent hitems, hmap]
  · intro key value
    rw [← hmap]
    exact find?_propertyArray
  · rintro before item after rfl hlacks
    rw [← propertyArray_skip hlacks]
    exact hmap

/-- Facts of which the second says nothing and the last has no label. -/
def facts : String :=
  "<dl><dd>Volts.<b>18 V</b><dd>VOLTS:<b>Nil</b><dd>Amps<b>2</b><dd>:<b>3</b>"

/-- Each fact is named by its own text and read from what is bold in it. -/
def factTable : Schema :=
  { Schema.empty with id := "facts", kind := .propertyArray, keyPath := [""], valPath := ["b"] }

theorem map_of_entries_facts :
    let parent : Selection := ⟨.parse facts, [4, 8, 12, 16]⟩
    (factTable.kind = .propertyArray ∧ parent.isEmpty = false ∧
      propertyNodes factTable.selector parent = some parent) ∧
    evaluate factTable parent .empty = (.map [("amps", "2"), ("volts", "18 V")], .empty) ∧
    ∃ before item after, [4, 8, 12, 16] = before ++ item :: after ∧
      HasEntry [""] ["b"] (.parse facts) item "volts" "18 V" ∧
      ∀ later ∈ after, ∀ value, ¬HasEntry [""] ["b"] (.parse facts) later "volts" value := by
  intro parent
  have hread : propertyArray [""] ["b"] parent = [("amps", "2"), ("volts", "18 V")] := by decide +kernel
  have hvalue : evaluate factTable parent .empty = (.map [("amps", "2"), ("volts", "18 V")], .empty) := by
    rw [← hread]
    exact evaluate_propertyArray rfl rfl rfl .empty
  obtain ⟨entries, -, hmap, hfind, -⟩ := map_of_entries factTable parent parent .empty rfl rfl rfl
  rw [hvalue] at hmap
  have hentries : [("amps", "2"), ("volts", "18 V")] =
      entries.foldl (fun map entry => Fields.insert entry.1 entry.2 map) [] :=
    Value.map.inj (congrArg Prod.fst hmap)
  refine ⟨⟨rfl, rfl, rfl⟩, hvalue, (hfind "volts" "18 V").1 ?_⟩
  rw [← hentries]
  decide

end Extract

end Harvest
