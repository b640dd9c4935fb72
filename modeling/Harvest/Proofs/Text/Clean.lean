import Harvest.Text.Clean

/-!
# Clean text

Cleaned text has no character that cleaning removes and no white space at its ends, and cleaning it again
changes nothing (`cleaned_clean`). Text that is only stripped and then trimmed is as tidy at its ends but
keeps the white space within (`tidy_trim_stripInvalid`).
-/

namespace Harvest.Text

/-- Text of valid characters that neither starts nor ends with white space. -/
structure Tidy (s : String) : Prop where
  no_replacement : ∀ c ∈ s.toList, c ≠ '\uFFFD'
  control_blank : ∀ c ∈ s.toList, isControl c = true → isBlank c = true
  first : ∀ c ∈ s.toList.head?, isBlank c = false
  last : ∀ c ∈ s.toList.getLast?, isBlank c = false

/-- Tidy text that cleaning leaves as it is. -/
structure Cleaned (s : String) : Prop extends Tidy s where
  clean_eq : clean s = s

theorem isInvalid_eq_false_iff {c : Char} :
    isInvalid c = false ↔ c ≠ '\uFFFD' ∧ (isControl c = true → isBlank c = true) := by
  rw [isInvalid, replacement]
  cases isControl c <;> cases isBlank c <;> simp

theorem Tidy.of_valid {s : String} (hvalid : ∀ c ∈ s.toList, isInvalid c = false)
    (hfirst : ∀ c ∈ s.toList.head?, isBlank c = false)
    (hlast : ∀ c ∈ s.toList.getLast?, isBlank c = false) : Tidy s where
  no_replacement c hc := (isInvalid_eq_false_iff.1 (hvalid c hc)).1
  control_blank c hc := (isInvalid_eq_false_iff.1 (hvalid c hc)).2
  first := hfirst
  last := hlast

theorem isInvalid_of_mem_stripInvalidChars {cs : List Char} {c : Char}
    (h : c ∈ stripInvalidChars cs) : isInvalid c = false := by
  have hkeep := (List.mem_filter.1 h).2
  simpa using hkeep

/-! ## Collapsed white space -/

/-- What is written between the collapsed text so far and the next word. -/
def Gap.space : Gap → List Char
  | .blank => [' ']
  | .start => []
  | .word => []

/-- The gap in front of collapsed text: its own white space is already written. -/
def Gap.closed : Gap → Gap
  | .start => .start
  | .word => .word
  | .blank => .word

theorem Gap.closed_afterBlank (g : Gap) : g.afterBlank.closed = g.closed := by
  cases g <;> rfl

theorem collapse_of_blank {c : Char} (hc : isBlank c = true) (g : Gap) (cs : List Char) :
    collapse g (c :: cs) = collapse g.afterBlank cs := by
  cases g <;> exact if_pos hc

theorem collapse_of_not_blank {c : Char} (hc : isBlank c = false) (g : Gap) (cs : List Char) :
    collapse g (c :: cs) = g.space ++ c :: collapse .word cs := by
  have hnot : ¬isBlank c = true := by
    rw [hc]
    exact Bool.false_ne_true
  cases g <;> exact if_neg hnot

theorem isBlank_of_mem_space {g : Gap} {c : Char} (h : c ∈ g.space) : c = ' ' := by
  cases g with
  | blank => exact List.mem_singleton.1 h
  | start | word => cases h

/-- Collapsed text is made of words and single spaces. -/
theorem mem_collapse {g : Gap} {cs : List Char} {c : Char} (h : c ∈ collapse g cs) :
    c = ' ' ∨ (c ∈ cs ∧ isBlank c = false) := by
  induction cs generalizing g with
  | nil => cases h
  | cons d cs ih =>
    cases hd : isBlank d with
    | true =>
      rw [collapse_of_blank hd] at h
      exact (ih h).imp_right fun hc => ⟨List.mem_cons_of_mem d hc.1, hc.2⟩
    | false =>
      rw [collapse_of_not_blank hd, List.mem_append, List.mem_cons] at h
      rcases h with h | rfl | h
      · exact .inl (isBlank_of_mem_space h)
      · exact .inr ⟨List.mem_cons_self, hd⟩
      · exact (ih h).imp_right fun hc => ⟨List.mem_cons_of_mem d hc.1, hc.2⟩

theorem collapse_collapse (g : Gap) (cs : List Char) :
    collapse g.closed (collapse g cs) = collapse g cs := by
  induction cs generalizing g with
  | nil => rfl
  | cons c cs ih =>
    cases hc : isBlank c with
    | true => rw [collapse_of_blank hc, ← g.closed_afterBlank, ih]
    | false =>
      have hword : collapse .word (collapse .word cs) = collapse .word cs := ih .word
      rw [collapse_of_not_blank hc]
      cases g with
      | start | word => exact (collapse_of_not_blank hc _ _).trans (by rw [hword]; rfl)
      | blank =>
        change collapse .word (' ' :: c :: collapse .word cs) = _
        rw [collapse_of_blank (by decide), collapse_of_not_blank hc, hword]
        rfl

theorem isBlank_head?_collapse {cs : List Char} {c : Char} (h : c ∈ (collapse .start cs).head?) :
    isBlank c = false := by
  induction cs with
  | nil => cases h
  | cons d cs ih =>
    cases hd : isBlank d with
    | true =>
      rw [collapse_of_blank hd] at h
      exact ih h
    | false =>
      rw [collapse_of_not_blank hd] at h
      cases h
      exact hd

theorem isBlank_getLast?_collapse {g : Gap} {cs : List Char} {c : Char}
    (h : c ∈ (collapse g cs).getLast?) : isBlank c = false := by
  induction cs generalizing g with
  | nil => cases h
  | cons d cs ih =>
    cases hd : isBlank d with
    | true =>
      rw [collapse_of_blank hd] at h
      exact ih h
    | false =>
      rw [collapse_of_not_blank hd, List.getLast?_append, List.getLast?_cons] at h
      cases hlast : (collapse .word cs).getLast? with
      | none =>
        rw [hlast] at h
        cases h
        exact hd
      | some e =>
        rw [hlast] at h
        cases h
        exact ih hlast

/-! ## Cleaned text -/

theorem isInvalid_of_mem_cleanChars {cs : List Char} {c : Char} (h : c ∈ cleanChars cs) :
    isInvalid c = false := by
  rcases mem_collapse h with rfl | ⟨hc, -⟩
  · decide
  · exact isInvalid_of_mem_stripInvalidChars hc

theorem eq_space_of_mem_cleanChars {cs : List Char} {c : Char} (h : c ∈ cleanChars cs)
    (hc : isBlank c = true) : c = ' ' := by
  rcases mem_collapse h with rfl | ⟨-, hnot⟩
  · rfl
  · rw [hc] at hnot
    cases hnot

theorem cleanChars_cleanChars (cs : List Char) : cleanChars (cleanChars cs) = cleanChars cs := by
  have hstrip : stripInvalidChars (cleanChars cs) = cleanChars cs := by
    refine List.filter_eq_self.2 fun c hc => ?_
    rw [isInvalid_of_mem_cleanChars hc]
    rfl
  rw [cleanChars, hstrip]
  exact collapse_collapse .start _

theorem toList_clean (s : String) : (clean s).toList = cleanChars s.toList :=
  String.toList_ofList

/-- **Cleaning gives tidy text that a second cleaning leaves as it is.** -/
theorem cleaned_clean (s : String) : Cleaned (clean s) where
  toTidy := by
    refine Tidy.of_valid (fun c hc => ?_) (fun c hc => ?_) (fun c hc => ?_)
    · rw [toList_clean] at hc
      exact isInvalid_of_mem_cleanChars hc
    · rw [toList_clean] at hc
      exact isBlank_head?_collapse hc
    · rw [toList_clean] at hc
      exact isBlank_getLast?_collapse hc
  clean_eq := by rw [clean, toList_clean, cleanChars_cleanChars, ← clean]

/-- The only white space in cleaned text is the space. -/
theorem Cleaned.eq_space {s : String} (h : Cleaned s) {c : Char} (hc : c ∈ s.toList)
    (hblank : isBlank c = true) : c = ' ' := by
  rw [← h.clean_eq, toList_clean] at hc
  exact eq_space_of_mem_cleanChars hc hblank

/-! ## Trimmed text -/

section
variable {α : Type} {p : α → Bool} {xs : List α} {x : α}

theorem mem_of_mem_trimWhere (h : x ∈ trimWhere p xs) : x ∈ xs := by
  rw [trimWhere, List.mem_reverse] at h
  have hrev : x ∈ (xs.dropWhile p).reverse := (List.dropWhile_sublist p).subset h
  exact (List.dropWhile_sublist p).subset (List.mem_reverse.1 hrev)

theorem not_of_mem_head?_dropWhile (h : x ∈ (xs.dropWhile p).head?) : p x = false := by
  have hhead := List.head?_dropWhile_not p xs
  rw [Option.mem_def.1 h] at hhead
  exact hhead

theorem not_of_mem_getLast?_trimWhere (h : x ∈ (trimWhere p xs).getLast?) : p x = false := by
  rw [trimWhere, List.getLast?_reverse] at h
  exact not_of_mem_head?_dropWhile h

/-- What is dropped at the end leaves the start as it is. -/
theorem not_of_mem_head?_trimWhere (h : x ∈ (trimWhere p xs).head?) : p x = false := by
  rw [trimWhere, List.head?_reverse] at h
  obtain ⟨ys, hys⟩ := List.getLast?_eq_some_iff.1 (Option.mem_def.1 h)
  obtain ⟨dropped, hdropped⟩ := List.dropWhile_suffix (l := (xs.dropWhile p).reverse) p
  rw [hys, ← List.append_assoc] at hdropped
  have hlast : (xs.dropWhile p).reverse.getLast? = some x :=
    List.getLast?_eq_some_iff.2 ⟨_, hdropped.symm⟩
  rw [List.getLast?_reverse] at hlast
  exact not_of_mem_head?_dropWhile hlast

end

/-- Stripping comes first: white space that it lays bare at the ends is trimmed as well. -/
theorem tidy_trim_stripInvalid (s : String) : Tidy (trim (stripInvalid s)) := by
  have hchars : (trim (stripInvalid s)).toList = trimWhere isBlank (stripInvalidChars s.toList) := by
    rw [trim, stripInvalid, String.toList_ofList, String.toList_ofList, trimChars]
  refine Tidy.of_valid (fun c hc => ?_) (fun c hc => ?_) (fun c hc => ?_)
  · rw [hchars] at hc
    exact isInvalid_of_mem_stripInvalidChars (mem_of_mem_trimWhere hc)
  · rw [hchars] at hc
    exact not_of_mem_head?_trimWhere hc
  · rw [hchars] at hc
    exact not_of_mem_getLast?_trimWhere hc

end Harvest.Text
