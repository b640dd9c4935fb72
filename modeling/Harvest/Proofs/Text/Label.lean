import Harvest.Text.Label
import Harvest.Proofs.Text.Casing
import Harvest.Proofs.Text.Trim

/-!
# Keys from labels

A key has none of the separators of labels and no underscore at its ends, and the key for a key is the
key itself. Labels that differ in nothing but what a key does not show (`Edit`) have the same key
(`normalizeKey_canonical`). The key for a cleaned label has no white space either (`isKey_normalizeKey`).

Underscores are trimmed before letters become lower case, so that all of this needs that lower case makes no
character that was removed before.
-/

namespace Harvest.Text

/-- A key as it stands in a property array. -/
structure IsKey (key : String) : Prop where
  nonempty : key ≠ ""
  no_blank : ∀ c ∈ key.toList, isBlank c = false
  no_separator : ∀ c ∈ key.toList, c ≠ ',' ∧ c ≠ '.' ∧ c ≠ ':'
  first : ∀ c ∈ key.toList.head?, c ≠ '_'
  last : ∀ c ∈ key.toList.getLast?, c ≠ '_'

/-! ## Stems -/

/-- The key for a label before its letters become lower case. -/
def stem (cs : List Char) : List Char :=
  trimWhere (· == '_') ((cs.filter fun c => !isKeyNoise c).map foldSeparator)

theorem toList_normalizeKey (label : String) :
    (normalizeKey label).toList = Casing.lowerChars (stem label.toList) :=
  String.toList_ofList

theorem isKeyNoise_eq_false_iff {c : Char} : isKeyNoise c = false ↔ c ≠ ',' ∧ c ≠ '.' := by
  simp [isKeyNoise]

theorem mem_stem {cs : List Char} {c : Char} (h : c ∈ stem cs) :
    c = '_' ∨ (c ∈ cs ∧ c ≠ ',' ∧ c ≠ '.' ∧ c ≠ ':' ∧ c ≠ ' ') := by
  obtain ⟨d, hd, rfl⟩ := List.mem_map.1 (mem_of_mem_trimWhere h)
  obtain ⟨hlabel, hkeep⟩ := List.mem_filter.1 hd
  have hnoise : isKeyNoise d = false := by simpa using hkeep
  rw [foldSeparator]
  split
  · exact .inl rfl
  · next hother =>
    simp only [Bool.or_eq_true, beq_iff_eq, not_or] at hother
    obtain ⟨hcomma, hstop⟩ := isKeyNoise_eq_false_iff.1 hnoise
    exact .inr ⟨hlabel, hcomma, hstop, hother⟩

theorem stem_eq_self {cs : List Char} (h : ∀ c ∈ cs, c ≠ ',' ∧ c ≠ '.' ∧ c ≠ ':' ∧ c ≠ ' ')
    (hfirst : ∀ c ∈ cs.head?, c ≠ '_') (hlast : ∀ c ∈ cs.getLast?, c ≠ '_') : stem cs = cs := by
  have hfilter : (cs.filter fun c => !isKeyNoise c) = cs := by
    refine List.filter_eq_self.2 fun c hc => ?_
    obtain ⟨hcomma, hstop, -⟩ := h c hc
    rw [isKeyNoise_eq_false_iff.2 ⟨hcomma, hstop⟩]
    rfl
  have hfold : cs.map foldSeparator = cs := by
    refine (List.map_congr_left fun c hc => ?_).trans (List.map_id cs)
    obtain ⟨-, -, hcolon, hspace⟩ := h c hc
    simp [foldSeparator, hcolon, hspace]
  rw [stem, hfilter, hfold]
  exact trimWhere_eq_self (fun c hc => by simpa using hfirst c hc) fun c hc => by simpa using hlast c hc

/-! ## Keys -/

section
variable {label : String} {c : Char}

theorem ne_of_mem_normalizeKey (h : c ∈ (normalizeKey label).toList) :
    c ≠ ',' ∧ c ≠ '.' ∧ c ≠ ':' ∧ c ≠ ' ' := by
  rw [toList_normalizeKey] at h
  rcases Casing.mem_lowerAfter h with hc | hc
  · rcases mem_stem hc with rfl | ⟨-, hne⟩
    · decide
    · exact hne
  · obtain ⟨hcomma, hstop, hcolon⟩ := hc.no_separator
    refine ⟨hcomma, hstop, hcolon, ?_⟩
    rintro rfl
    exact absurd hc.no_blank (by decide)

theorem ne_of_mem_head?_normalizeKey (h : c ∈ (normalizeKey label).toList.head?) : c ≠ '_' := by
  rw [toList_normalizeKey] at h
  rcases Casing.mem_head?_lowerAfter h with hc | hc
  · simpa using not_of_mem_head?_trimWhere hc
  · exact hc.no_underscore

theorem ne_of_mem_getLast?_normalizeKey (h : c ∈ (normalizeKey label).toList.getLast?) : c ≠ '_' := by
  rw [toList_normalizeKey] at h
  rcases Casing.mem_getLast?_lowerAfter h with hc | hc
  · simpa using not_of_mem_getLast?_trimWhere hc
  · exact hc.no_underscore

/-- A cleaned label has no white space but spaces, which are folded. -/
theorem isBlank_of_mem_normalizeKey (hlabel : Cleaned label) (h : c ∈ (normalizeKey label).toList) :
    isBlank c = false := by
  rw [toList_normalizeKey] at h
  rcases Casing.mem_lowerAfter h with hc | hc
  · rcases mem_stem hc with rfl | ⟨hmem, -, -, -, hspace⟩
    · decide
    · cases hblank : isBlank c with
      | false => rfl
      | true => exact absurd (hlabel.eq_space hmem hblank) hspace
  · exact hc.no_blank

end

/-- **The key for a cleaned label is proper, unless nothing of the label is left.** -/
theorem isKey_normalizeKey {label : String} (h : Cleaned label) (hne : normalizeKey label ≠ "") :
    IsKey (normalizeKey label) where
  nonempty := hne
  no_blank _ hc := isBlank_of_mem_normalizeKey h hc
  no_separator c hc := by
    obtain ⟨hcomma, hstop, hcolon, -⟩ := ne_of_mem_normalizeKey hc
    exact ⟨hcomma, hstop, hcolon⟩
  first _ hc := ne_of_mem_head?_normalizeKey hc
  last _ hc := ne_of_mem_getLast?_normalizeKey hc

theorem normalizeKey_normalizeKey (label : String) :
    normalizeKey (normalizeKey label) = normalizeKey label := by
  have hstem : stem (normalizeKey label).toList = (normalizeKey label).toList :=
    stem_eq_self (fun _ => ne_of_mem_normalizeKey) (fun _ => ne_of_mem_head?_normalizeKey)
      fun _ => ne_of_mem_getLast?_normalizeKey
  apply String.toList_inj.1
  rw [toList_normalizeKey, hstem, toList_normalizeKey, Casing.lowerChars_lowerChars]

/-! ## Labels with the same key -/

/-- A change of a label that its key does not show. -/
inductive Edit : List Char → List Char → Prop where
  /-- An ASCII letter in lower case. -/
  | letter (before after : List Char) (c : Char) : Edit (before ++ c :: after) (before ++ c.toLower :: after)
  /-- One comma or full stop less, anywhere. -/
  | noise (before after : List Char) {c : Char} (h : c = ',' ∨ c = '.') :
    Edit (before ++ c :: after) (before ++ after)
  | separator (before after : List Char) : Edit (before ++ ':' :: after) (before ++ ' ' :: after)
  /-- One separator less at the start. -/
  | first (cs : List Char) {c : Char} (h : c = ':' ∨ c = ' ' ∨ c = '_') : Edit (c :: cs) cs
  /-- One separator less at the end. -/
  | last (cs : List Char) {c : Char} (h : c = ':' ∨ c = ' ' ∨ c = '_') : Edit (cs ++ [c]) cs

/-- Such changes, each made or undone, lead from one label to the other. -/
def Alike (s t : String) : Prop :=
  Relation.EqvGen Edit s.toList t.toList

theorem toLower_eq_asciiLower (c : Char) : c.toLower = Casing.asciiLower c := by
  unfold Char.toLower Casing.asciiLower
  by_cases h : c.val ≥ 'A'.val ∧ c.val ≤ 'Z'.val
  · have hupper : ('A' ≤ c && c ≤ 'Z') = true := by simpa [Char.le_def] using h
    rw [dif_pos h, if_pos hupper]
    have hle : c.toNat ≤ 90 := h.2
    have hvalid : (c.toNat + 32).isValidChar := Or.inl (by omega)
    refine Char.ext (UInt32.toNat_inj.1 ?_)
    have hval : Char.ofNat (c.toNat + 32) = Char.ofNatAux (c.toNat + 32) hvalid := dif_pos hvalid
    rw [hval]
    change (c.val + 32).toNat = c.toNat + 32
    rw [UInt32.toNat_add]
    exact Nat.mod_eq_of_lt (by change c.toNat + 32 < _; omega)
  · have hother : ('A' ≤ c && c ≤ 'Z') = false := by simpa [Char.le_def] using h
    rw [dif_neg h, hother]
    rfl

theorem foldSeparator_asciiLower (c : Char) :
    foldSeparator (Casing.asciiLower c) = Casing.asciiLower (foldSeparator c) := by
  have hcolon : (Casing.asciiLower c == ':') = (c == ':') := Casing.asciiLower_beq (by decide)
  have hspace : (Casing.asciiLower c == ' ') = (c == ' ') := Casing.asciiLower_beq (by decide)
  have hunderscore : Casing.asciiLower '_' = '_' := by decide
  rw [foldSeparator, hcolon, hspace, foldSeparator]
  split
  · exact hunderscore.symm
  · rfl

theorem isKeyNoise_asciiLower (c : Char) : isKeyNoise (Casing.asciiLower c) = isKeyNoise c := by
  have hcomma : (Casing.asciiLower c == ',') = (c == ',') := Casing.asciiLower_beq (by decide)
  have hstop : (Casing.asciiLower c == '.') = (c == '.') := Casing.asciiLower_beq (by decide)
  rw [isKeyNoise, hcomma, hstop, isKeyNoise]

/-- Punctuation is told from letters, whatever their case. -/
theorem stem_map_asciiLower (cs : List Char) :
    stem (cs.map Casing.asciiLower) = (stem cs).map Casing.asciiLower := by
  have hnoise : (fun c => !isKeyNoise c) ∘ Casing.asciiLower = fun c => !isKeyNoise c := by
    funext c
    rw [Function.comp_apply, isKeyNoise_asciiLower]
  have hfold : foldSeparator ∘ Casing.asciiLower = Casing.asciiLower ∘ foldSeparator :=
    funext foldSeparator_asciiLower
  have hunderscore : (· == '_') ∘ Casing.asciiLower = (· == '_') := by
    funext c
    rw [Function.comp_apply, Casing.asciiLower_beq (by decide)]
  rw [stem, List.filter_map, hnoise, List.map_map, hfold, ← List.map_map, trimWhere_map, hunderscore, stem]

theorem keeps_separator {c : Char} (h : c = ':' ∨ c = ' ' ∨ c = '_') :
    isKeyNoise c = false ∧ foldSeparator c = '_' := by
  rcases h with rfl | rfl | rfl <;> decide

theorem Edit.lowerChars_stem {cs ds : List Char} (h : Edit cs ds) :
    Casing.lowerChars (stem cs) = Casing.lowerChars (stem ds) := by
  cases h with
  | letter before after c =>
    have hmap : (before ++ c :: after).map Casing.asciiLower =
        (before ++ c.toLower :: after).map Casing.asciiLower := by
      rw [List.map_append, List.map_cons, List.map_append, List.map_cons, toLower_eq_asciiLower,
        Casing.asciiLower_asciiLower]
    rw [← Casing.lowerChars_map_asciiLower, ← stem_map_asciiLower, hmap, stem_map_asciiLower,
      Casing.lowerChars_map_asciiLower]
  | @noise before after c hc =>
    have hnoise : isKeyNoise c = true := by rcases hc with rfl | rfl <;> rfl
    rw [stem, stem, List.filter_append, List.filter_append, List.filter_cons_of_neg (by simp [hnoise])]
  | separator before after =>
    have hsame : stem (before ++ ':' :: after) = stem (before ++ ' ' :: after) := by
      simp [stem, isKeyNoise, foldSeparator]
    rw [hsame]
  | @first _ c hc =>
    obtain ⟨hkeep, hfold⟩ := keeps_separator hc
    rw [stem, List.filter_cons_of_pos (by simp [hkeep]), List.map_cons, hfold, trimWhere_cons (by decide),
      ← stem]
  | @last _ c hc =>
    obtain ⟨hkeep, hfold⟩ := keeps_separator hc
    rw [stem, List.filter_append, List.filter_cons_of_pos (by simp [hkeep]), List.filter_nil,
      List.map_append, List.map_singleton, hfold, trimWhere_concat (by decide), ← stem]

theorem lowerChars_stem_of_eqvGen {cs ds : List Char} (h : Relation.EqvGen Edit cs ds) :
    Casing.lowerChars (stem cs) = Casing.lowerChars (stem ds) := by
  induction h with
  | rel cs ds h => exact h.lowerChars_stem
  | refl => rfl
  | symm cs ds _ ih => exact ih.symm
  | trans cs ds es _ _ ih ih' => exact ih.trans ih'

theorem Alike.normalizeKey_eq {s t : String} (h : Alike s t) : normalizeKey t = normalizeKey s := by
  apply String.toList_inj.1
  rw [toList_normalizeKey, toList_normalizeKey, lowerChars_stem_of_eqvGen h]

/-- **Keys are canonical.** The key for a key is the key itself, it has no separator of labels and no
underscore at its ends, none of the white space of a cleaned label, and it is the key for all labels that are
alike. -/
theorem normalizeKey_canonical (label : String) :
    normalizeKey (normalizeKey label) = normalizeKey label ∧
      (∀ c ∈ (normalizeKey label).toList, c ≠ ',' ∧ c ≠ '.' ∧ c ≠ ':' ∧ c ≠ ' ') ∧
      (∀ c ∈ (normalizeKey label).toList.head?, c ≠ '_') ∧
      (∀ c ∈ (normalizeKey label).toList.getLast?, c ≠ '_') ∧
      (clean label = label → ∀ c ∈ (normalizeKey label).toList, isBlank c = false) ∧
      ∀ other, Alike label other → normalizeKey other = normalizeKey label := by
  refine ⟨normalizeKey_normalizeKey label, fun _ => ne_of_mem_normalizeKey,
    fun _ => ne_of_mem_head?_normalizeKey, fun _ => ne_of_mem_getLast?_normalizeKey, ?_,
    fun _ h => h.normalizeKey_eq⟩
  intro hclean c hc
  have hcleaned : Cleaned label := hclean ▸ cleaned_clean label
  exact isBlank_of_mem_normalizeKey hcleaned hc

/-- A sigma that ends a word, in front of a colon in one label and of a space in the other. -/
theorem normalizeKey_canonical_sigma :
    clean "ΟΣ:A." = "ΟΣ:A." ∧ Alike "ΟΣ:A." "ΟΣ a" ∧
      (∀ c ∈ (normalizeKey "ΟΣ:A.").toList, isBlank c = false) ∧
      normalizeKey "ΟΣ a" = normalizeKey "ΟΣ:A." := by
  have hclean : clean "ΟΣ:A." = "ΟΣ:A." := by decide +kernel
  have halike : Alike "ΟΣ:A." "ΟΣ a" := by
    have hstop : Edit "ΟΣ:A.".toList "ΟΣ:A".toList := Edit.noise "ΟΣ:A".toList [] (.inr rfl)
    have hcolon : Edit "ΟΣ:A".toList "ΟΣ A".toList := Edit.separator "ΟΣ".toList ['A']
    have hletter : Edit "ΟΣ A".toList "ΟΣ a".toList := Edit.letter "ΟΣ ".toList [] 'A'
    exact .trans _ _ _ (.rel _ _ hstop) (.trans _ _ _ (.rel _ _ hcolon) (.rel _ _ hletter))
  obtain ⟨-, -, -, -, hblank, hsame⟩ := normalizeKey_canonical "ΟΣ:A."
  exact ⟨hclean, halike, hblank hclean, hsame _ halike⟩

end Harvest.Text
