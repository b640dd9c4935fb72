import Harvest.Proofs.Text.Normal
import Harvest.Proofs.Text.Split
import Mathlib.Data.List.TakeWhile

/-!
# Trimming before and after cleaning

Cleaning does not see white space at the ends, so that a text may be stripped and trimmed before it
(`clean_trim_stripInvalid`). Of normal text every piece is normal up to its ends: cleaning a piece trims it and
does nothing else (`Normal.cleanChars_piece`). What trimming leaves of stripped text is framed by the first
and the last character that belong to words (`Framed.trimChars_stripInvalidChars`).
-/

namespace Harvest.Text

/-! ## What trimming takes away -/

section
variable {α : Type} {p : α → Bool}

theorem dropWhile_append_of_head? {xs ys : List α} (hx : ∀ x ∈ xs.head?, p x = false)
    (hy : ∀ y ∈ ys, p y = true) : (xs ++ ys).dropWhile p = xs ++ if xs.isEmpty then [] else ys := by
  cases xs with
  | nil =>
    rw [List.nil_append, List.dropWhile_eq_nil_iff.2 hy]
    rfl
  | cons x xs => exact List.dropWhile_cons_of_neg (by simp [hx x rfl])

/-- Trimming takes away what satisfies `p` at both ends, and nothing more. -/
theorem trimWhere_append {before mid after : List α} (hbefore : ∀ x ∈ before, p x = true)
    (hafter : ∀ x ∈ after, p x = true) (hfirst : ∀ x ∈ mid.head?, p x = false)
    (hlast : ∀ x ∈ mid.getLast?, p x = false) : trimWhere p (before ++ (mid ++ after)) = mid := by
  rw [trimWhere, List.dropWhile_append_of_pos hbefore, dropWhile_append_of_head? hfirst hafter]
  cases mid with
  | nil => rfl
  | cons x mid =>
    have hreverse : ∀ y ∈ after.reverse, p y = true := fun y hy => hafter y (List.mem_reverse.1 hy)
    simp only [List.isEmpty_cons, Bool.false_eq_true, if_false]
    rw [List.reverse_append, List.dropWhile_append_of_pos hreverse, dropWhile_eq_self, List.reverse_reverse]
    rwa [List.head?_reverse]

/-- Around what is left, everything that was taken away satisfies `p`. -/
theorem exists_eq_trimWhere (p : α → Bool) (xs : List α) : ∃ before after,
    xs = before ++ (trimWhere p xs ++ after) ∧ (∀ x ∈ before, p x = true) ∧ ∀ x ∈ after, p x = true := by
  refine ⟨xs.takeWhile p, ((xs.dropWhile p).reverse.takeWhile p).reverse, ?_, ?_, ?_⟩
  · have hrest : trimWhere p xs ++ ((xs.dropWhile p).reverse.takeWhile p).reverse = xs.dropWhile p := by
      rw [trimWhere, ← List.reverse_append, List.takeWhile_append_dropWhile, List.reverse_reverse]
    rw [hrest, List.takeWhile_append_dropWhile]
  · intro x hx
    exact List.mem_takeWhile_imp hx
  · intro x hx
    exact List.mem_takeWhile_imp (List.mem_reverse.1 hx)

theorem trimWhere_cons {x : α} (h : p x = true) (xs : List α) : trimWhere p (x :: xs) = trimWhere p xs := by
  rw [trimWhere, List.dropWhile_cons_of_pos h, trimWhere]

theorem trimWhere_concat {x : α} (h : p x = true) (xs : List α) :
    trimWhere p (xs ++ [x]) = trimWhere p xs := by
  obtain ⟨before, after, hxs, hbefore, hafter⟩ := exists_eq_trimWhere p xs
  have hlonger : xs ++ [x] = before ++ (trimWhere p xs ++ (after ++ [x])) := by
    rw [← List.append_assoc (trimWhere p xs), ← List.append_assoc before, ← hxs]
  rw [hlonger]
  refine trimWhere_append hbefore ?_ (fun y => not_of_mem_head?_trimWhere) fun y =>
    not_of_mem_getLast?_trimWhere
  intro y hy
  rcases List.mem_append.1 hy with hy | hy
  · exact hafter y hy
  · exact List.mem_singleton.1 hy ▸ h

theorem trimWhere_map {β : Type} (f : β → α) (xs : List β) :
    trimWhere p (xs.map f) = (trimWhere (p ∘ f) xs).map f := by
  rw [trimWhere, List.dropWhile_map, ← List.map_reverse, List.dropWhile_map, ← List.map_reverse, trimWhere]

theorem isInfix_trimWhere (p : α → Bool) (xs : List α) : trimWhere p xs <:+: xs := by
  obtain ⟨before, after, h, -, -⟩ := exists_eq_trimWhere p xs
  exact ⟨before, after, by rw [List.append_assoc, ← h]⟩

end

/-! ## Cleaning does not see the ends -/

theorem collapse_eq_nil {cs : List Char} (h : ∀ c ∈ cs, isBlank c = true) (g : Gap) : collapse g cs = [] := by
  induction cs generalizing g with
  | nil => rfl
  | cons c cs ih =>
    rw [collapse_of_blank (h c List.mem_cons_self)]
    exact ih (fun d hd => h d (List.mem_cons_of_mem c hd)) _

theorem Gap.after_start {cs : List Char} (h : ∀ c ∈ cs, isBlank c = true) : Gap.start.after cs = .start := by
  induction cs with
  | nil => rfl
  | cons c cs ih =>
    have hstep : Gap.start.after (c :: cs) = Gap.start.after cs := by
      simp [Gap.after, h c List.mem_cons_self, Gap.afterBlank]
    rw [hstep, ih fun d hd => h d (List.mem_cons_of_mem c hd)]

theorem collapse_trimChars (cs : List Char) : collapse .start (trimChars cs) = collapse .start cs := by
  obtain ⟨before, after, h, hbefore, hafter⟩ := exists_eq_trimWhere isBlank cs
  have htext : collapse .start cs = collapse .start (before ++ (trimChars cs ++ after)) := congrArg _ h
  rw [htext, collapse_append, collapse_eq_nil hbefore, Gap.after_start hbefore, collapse_append,
    collapse_eq_nil hafter]
  simp

theorem stripInvalidChars_eq_self {cs : List Char} (h : ∀ c ∈ cs, isInvalid c = false) :
    stripInvalidChars cs = cs :=
  List.filter_eq_self.2 fun c hc => by simp [h c hc]

/-- Text that was stripped and trimmed is cleaned like the text itself. -/
theorem clean_trim_stripInvalid (s : String) : clean (trim (stripInvalid s)) = clean s := by
  have hvalid : ∀ c ∈ trimChars (stripInvalidChars s.toList), isInvalid c = false := by
    intro c hc
    exact isInvalid_of_mem_stripInvalidChars (mem_of_mem_trimWhere hc)
  unfold clean trim stripInvalid cleanChars
  simp only [String.toList_ofList]
  rw [stripInvalidChars_eq_self hvalid, collapse_trimChars]

/-! ## Pieces of normal text -/

section
variable {cs piece : List Char} (h : Normal cs) (hpiece : piece <:+: cs)

include h hpiece

theorem Normal.isInvalid_of_mem {c : Char} (hc : c ∈ piece) : isInvalid c = false := by
  rw [isInvalid_eq_false_iff]
  have hmem : c ∈ cs := hpiece.subset hc
  refine ⟨h.no_replacement c hmem, ?_⟩
  intro hcontrol
  rw [h.no_control c hmem] at hcontrol
  cases hcontrol

/-- A piece of normal text is normal once it has been trimmed. -/
theorem Normal.trimChars : Normal (trimChars piece) where
  no_replacement c hc := h.no_replacement c (hpiece.subset (mem_of_mem_trimWhere hc))
  no_control c hc := h.no_control c (hpiece.subset (mem_of_mem_trimWhere hc))
  blank_eq_space c hc := h.blank_eq_space c (hpiece.subset (mem_of_mem_trimWhere hc))
  first hc := absurd (not_of_mem_head?_trimWhere (Option.mem_def.2 hc)) (by decide)
  last hc := absurd (not_of_mem_getLast?_trimWhere (Option.mem_def.2 hc)) (by decide)
  no_double before after hc := by
    have hdouble : before ++ ' ' :: ' ' :: after <:+: cs := hc ▸ (isInfix_trimWhere isBlank piece).trans hpiece
    obtain ⟨pre, post, hcs⟩ := hdouble
    exact h.no_double (pre ++ before) (after ++ post) (by rw [← hcs]; simp)

/-- Cleaning a piece of normal text trims it and does nothing else. -/
theorem Normal.cleanChars_piece : cleanChars piece = Text.trimChars piece := by
  have hvalid : ∀ c ∈ piece, isInvalid c = false := fun c hc => h.isInvalid_of_mem hpiece hc
  have htrimmed : ∀ c ∈ Text.trimChars piece, isInvalid c = false :=
    fun c hc => hvalid c (mem_of_mem_trimWhere hc)
  calc cleanChars piece
      = collapse .start piece := by rw [cleanChars, stripInvalidChars_eq_self hvalid]
    _ = collapse .start (Text.trimChars piece) := (collapse_trimChars piece).symm
    _ = cleanChars (Text.trimChars piece) := by rw [cleanChars, stripInvalidChars_eq_self htrimmed]
    _ = Text.trimChars piece := (h.trimChars hpiece).cleanChars_eq

end

/-! ## From the first word to the last -/

/-- A text in three parts, of which the middle one runs from the first character of a word to the last. -/
structure Framed (cs before mid after : List Char) : Prop where
  split : cs = before ++ (mid ++ after)
  before_wordless : ∀ c ∈ before, isWordChar c = false
  after_wordless : ∀ c ∈ after, isWordChar c = false
  first : ∀ c ∈ mid.head?, isWordChar c = true
  last : ∀ c ∈ mid.getLast?, isWordChar c = true

theorem exists_framed (cs : List Char) : ∃ before mid after, Framed cs before mid after := by
  obtain ⟨before, after, h, hbefore, hafter⟩ := exists_eq_trimWhere (fun c => !isWordChar c) cs
  refine ⟨before, _, after, h, ?_, ?_, ?_, ?_⟩
  · intro c hc
    simpa using hbefore c hc
  · intro c hc
    simpa using hafter c hc
  · intro c hc
    simpa using not_of_mem_head?_trimWhere hc
  · intro c hc
    simpa using not_of_mem_getLast?_trimWhere hc

theorem head?_stripInvalidChars {cs : List Char} (h : ∀ c ∈ cs.head?, isWordChar c = true) :
    (stripInvalidChars cs).head? = cs.head? := by
  cases cs with
  | nil => rfl
  | cons c cs =>
    have hvalid : isInvalid c = false := (isWordChar_iff.1 (h c rfl)).1
    simp [stripInvalidChars, hvalid]

theorem getLast?_stripInvalidChars {cs : List Char} (h : ∀ c ∈ cs.getLast?, isWordChar c = true) :
    (stripInvalidChars cs).getLast? = cs.getLast? := by
  have hreverse : (stripInvalidChars cs).reverse = stripInvalidChars cs.reverse := List.filter_reverse.symm
  rw [← List.head?_reverse, hreverse, head?_stripInvalidChars, List.head?_reverse]
  rwa [List.head?_reverse]

/-- White space between words survives stripping and trimming, and so does everything else that is valid. -/
theorem Framed.trimChars_stripInvalidChars {cs before mid after : List Char}
    (h : Framed cs before mid after) : trimChars (stripInvalidChars cs) = stripInvalidChars mid := by
  have hsplit : stripInvalidChars cs =
      stripInvalidChars before ++ (stripInvalidChars mid ++ stripInvalidChars after) := by
    rw [h.split, stripInvalidChars, List.filter_append, List.filter_append]
    rfl
  rw [hsplit]
  apply trimWhere_append
  · intro c hc
    exact isBlank_of_mem_gap h.before_wordless hc
  · intro c hc
    exact isBlank_of_mem_gap h.after_wordless hc
  · intro c hc
    rw [head?_stripInvalidChars h.first] at hc
    exact (isWordChar_iff.1 (h.first c hc)).2
  · intro c hc
    rw [getLast?_stripInvalidChars h.last] at hc
    exact (isWordChar_iff.1 (h.last c hc)).2

end Harvest.Text
