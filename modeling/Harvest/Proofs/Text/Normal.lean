import Harvest.Proofs.Text.Clean
import Mathlib.Data.List.Chain

/-!
# The normal form of text

Cleaned text consists of words with one space between any two of them. `Normal` says so, and cleaning leaves
exactly the texts of that form as they are (`clean_eq_self_iff`). What cleaning does to any other text is
fixed by its words: their characters stay as they are and in their order, and a space stands between two of
them if there was white space (`collapse_between`). So removed characters join what stands around them, and
control characters that are white space do not.
-/

namespace Harvest.Text

/-- The characters that words are made of. -/
def isWordChar (c : Char) : Bool :=
  !isBlank c && c != '\uFFFD' && !isControl c

/-- Words with single spaces between them. -/
structure Normal (cs : List Char) : Prop where
  no_replacement : ∀ c ∈ cs, c ≠ '\uFFFD'
  no_control : ∀ c ∈ cs, isControl c = false
  blank_eq_space : ∀ c ∈ cs, isBlank c = true → c = ' '
  first : cs.head? ≠ some ' '
  last : cs.getLast? ≠ some ' '
  no_double : ∀ before after, cs ≠ before ++ ' ' :: ' ' :: after

theorem isWordChar_eq (c : Char) : isWordChar c = (!isInvalid c && !isBlank c) := by
  unfold isWordChar isInvalid replacement
  cases isBlank c <;> cases isControl c <;> simp [bne]

theorem isWordChar_iff {c : Char} : isWordChar c = true ↔ isInvalid c = false ∧ isBlank c = false := by
  simp [isWordChar_eq]

theorem isInvalid_of_isBlank {c : Char} (h : isBlank c = true) : isInvalid c = false := by
  rw [isInvalid_eq_false_iff]
  refine ⟨?_, fun _ => h⟩
  rintro rfl
  exact absurd h (by decide)

/-! ## Collapsed text in two parts -/

/-- What collapsed text ends with when more characters have been read. -/
def Gap.after (g : Gap) (cs : List Char) : Gap :=
  cs.foldl (fun g c => if isBlank c then g.afterBlank else .word) g

theorem collapse_append (g : Gap) (cs more : List Char) :
    collapse g (cs ++ more) = collapse g cs ++ collapse (g.after cs) more := by
  induction cs generalizing g with
  | nil => rfl
  | cons c cs ih =>
    have hafter : g.after (c :: cs) =
        (if isBlank c then g.afterBlank else Gap.word).after cs := rfl
    cases hc : isBlank c with
    | true => rw [List.cons_append, collapse_of_blank hc, collapse_of_blank hc, ih, hafter, if_pos hc]
    | false =>
      rw [List.cons_append, collapse_of_not_blank hc, collapse_of_not_blank hc, ih, hafter,
        if_neg (by simp [hc])]
      simp

theorem collapse_of_all_blank {cs : List Char} (h : ∀ c ∈ cs, isBlank c = true) (more : List Char) :
    collapse .blank (cs ++ more) = collapse .blank more := by
  induction cs with
  | nil => rfl
  | cons c cs ih =>
    rw [List.cons_append, collapse_of_blank (h c List.mem_cons_self)]
    exact ih fun d hd => h d (List.mem_cons_of_mem c hd)

/-- White space after a word is written as one space if a word follows. -/
theorem collapse_gap {gap : List Char} (hgap : ∀ c ∈ gap, isBlank c = true) {b : Char}
    (hb : isBlank b = false) (after : List Char) :
    collapse .word (gap ++ b :: after) =
      (if gap.isEmpty then [] else [' ']) ++ b :: collapse .word after := by
  cases gap with
  | nil => exact collapse_of_not_blank hb .word after
  | cons c gap =>
    rw [List.cons_append, collapse_of_blank (hgap c List.mem_cons_self)]
    have hmore := collapse_of_all_blank (fun d hd => hgap d (List.mem_cons_of_mem c hd)) (b :: after)
    exact hmore.trans (collapse_of_not_blank hb .blank after)

/-- Two characters of words with nothing but white space between them. -/
theorem collapse_between {a b : Char} (ha : isBlank a = false) (hb : isBlank b = false)
    {gap : List Char} (hgap : ∀ c ∈ gap, isBlank c = true) (before after : List Char) :
    collapse .start (before ++ a :: (gap ++ b :: after)) =
      (collapse .start before ++ (Gap.start.after before).space) ++
        a :: ((if gap.isEmpty then [] else [' ']) ++ b :: collapse .word after) := by
  rw [collapse_append, collapse_of_not_blank ha, collapse_gap hgap hb, List.append_assoc]

/-! ## The characters of words -/

theorem filter_space (g : Gap) : g.space.filter (· != ' ') = [] := by
  cases g <;> rfl

/-- Collapsing keeps the words and nothing else but spaces. -/
theorem filter_collapse (g : Gap) (cs : List Char) :
    (collapse g cs).filter (· != ' ') = cs.filter fun c => !isBlank c := by
  induction cs generalizing g with
  | nil => rfl
  | cons c cs ih =>
    cases hc : isBlank c with
    | true => simp [collapse_of_blank hc, ih, hc]
    | false =>
      have hne : c ≠ ' ' := by
        rintro rfl
        exact absurd hc (by decide)
      simp [collapse_of_not_blank hc, filter_space, ih, hc, hne]

theorem filter_stripInvalidChars (cs : List Char) :
    ((stripInvalidChars cs).filter fun c => !isBlank c) = cs.filter isWordChar := by
  rw [stripInvalidChars, List.filter_filter]
  refine List.filter_congr fun c _ => ?_
  rw [isWordChar_eq, Bool.and_comm]

theorem filter_cleanChars (cs : List Char) :
    (cleanChars cs).filter (· != ' ') = cs.filter isWordChar := by
  rw [cleanChars, filter_collapse, filter_stripInvalidChars]

section
variable {gap : List Char} (hgap : ∀ c ∈ gap, isWordChar c = false)

include hgap in
/-- Between two words only white space survives. -/
theorem isBlank_of_mem_gap {c : Char} (hc : c ∈ stripInvalidChars gap) : isBlank c = true := by
  have hnot := hgap c (List.mem_of_mem_filter hc)
  rw [isWordChar_eq, isInvalid_of_mem_stripInvalidChars hc] at hnot
  simpa using hnot

include hgap in
theorem isEmpty_gap : (stripInvalidChars gap).isEmpty = !gap.any isBlank := by
  rw [Bool.eq_iff_iff, List.isEmpty_iff, Bool.not_eq_true', List.any_eq_false]
  constructor
  · intro hnone c hc hblank
    have hmem : c ∈ stripInvalidChars gap :=
      List.mem_filter.2 ⟨hc, by simp [isInvalid_of_isBlank hblank]⟩
    rw [hnone] at hmem
    cases hmem
  · intro hnone
    refine List.eq_nil_iff_forall_not_mem.2 fun c hc => ?_
    exact hnone c (List.mem_of_mem_filter hc) (isBlank_of_mem_gap hgap hc)

include hgap in
/-- Where two characters of words follow each other, cleaning leaves at most one space between them. -/
theorem cleanChars_between {a b : Char} (ha : isWordChar a = true) (hb : isWordChar b = true)
    (pre post : List Char) :
    ∃ before after,
      cleanChars (pre ++ a :: (gap ++ b :: post)) =
        before ++ a :: ((if gap.any isBlank then [' '] else []) ++ b :: after) ∧
      before.filter (· != ' ') = pre.filter isWordChar ∧
      after.filter (· != ' ') = post.filter isWordChar := by
  obtain ⟨havalid, hablank⟩ := isWordChar_iff.1 ha
  obtain ⟨hbvalid, hbblank⟩ := isWordChar_iff.1 hb
  have hstrip : stripInvalidChars (pre ++ a :: (gap ++ b :: post)) =
      stripInvalidChars pre ++ a :: (stripInvalidChars gap ++ b :: stripInvalidChars post) := by
    simp [stripInvalidChars, havalid, hbvalid]
  let before := collapse .start (stripInvalidChars pre) ++ (Gap.start.after (stripInvalidChars pre)).space
  refine ⟨before, collapse .word (stripInvalidChars post), ?_, ?_, ?_⟩
  · rw [cleanChars, hstrip, collapse_between hablank hbblank (fun c hc => isBlank_of_mem_gap hgap hc),
      isEmpty_gap hgap]
    cases gap.any isBlank <;> rfl
  · rw [List.filter_append, filter_space, filter_collapse, filter_stripInvalidChars, List.append_nil]
  · rw [filter_collapse, filter_stripInvalidChars]

end

/-! ## Cleaned text is normal -/

/-- Of two neighbours in collapsed text one belongs to a word. -/
theorem isChain_collapse (g : Gap) (cs : List Char) :
    (collapse g cs).IsChain fun a b => isBlank a = false ∨ isBlank b = false := by
  induction cs generalizing g with
  | nil => exact .nil
  | cons c cs ih =>
    cases hc : isBlank c with
    | true =>
      rw [collapse_of_blank hc]
      exact ih _
    | false =>
      have hword : (c :: collapse .word cs).IsChain fun a b => isBlank a = false ∨ isBlank b = false :=
        (ih .word).cons fun _ _ => .inl hc
      rw [collapse_of_not_blank hc]
      cases g with
      | start | word => exact hword
      | blank =>
        refine hword.cons fun d hd => .inr ?_
        cases hd
        exact hc

theorem isControl_of_not_invalid {c : Char} (hvalid : isInvalid c = false)
    (hc : c = ' ' ∨ isBlank c = false) : isControl c = false := by
  rcases hc with rfl | hc
  · decide
  · by_contra hcontrol
    have hblank := (isInvalid_eq_false_iff.1 hvalid).2 (by simpa using hcontrol)
    rw [hc] at hblank
    cases hblank

theorem normal_cleanChars (cs : List Char) : Normal (cleanChars cs) where
  no_replacement c hc := (isInvalid_eq_false_iff.1 (isInvalid_of_mem_cleanChars hc)).1
  no_control c hc :=
    isControl_of_not_invalid (isInvalid_of_mem_cleanChars hc) ((mem_collapse hc).imp_right And.right)
  blank_eq_space c hc hblank := eq_space_of_mem_cleanChars hc hblank
  first h := absurd (isBlank_head?_collapse (Option.mem_def.2 h)) (by decide)
  last h := absurd (isBlank_getLast?_collapse (Option.mem_def.2 h)) (by decide)
  no_double before after h := by
    have hchain := isChain_collapse .start (stripInvalidChars cs)
    rw [← cleanChars, h] at hchain
    have hpair := (List.isChain_append_cons_cons.1 hchain).2.1
    exact absurd hpair (by decide)

/-! ## Normal text is clean -/

/-- In the middle of normal text each space follows a word and is followed by one. -/
theorem collapse_word_of_normal {cs : List Char} (hspace : ∀ c ∈ cs, isBlank c = true → c = ' ')
    (hlast : cs.getLast? ≠ some ' ') (hdouble : ∀ before after, cs ≠ before ++ ' ' :: ' ' :: after) :
    collapse .word cs = cs := by
  induction cs with
  | nil => rfl
  | cons c cs ih =>
    have htail : collapse .word cs = cs := by
      refine ih (fun d hd => hspace d (List.mem_cons_of_mem c hd)) ?_ ?_
      · intro h
        exact hlast (by rw [List.getLast?_cons, h]; rfl)
      · rintro before after rfl
        exact hdouble (c :: before) after rfl
    cases hc : isBlank c with
    | false => rw [collapse_of_not_blank hc, htail]; rfl
    | true =>
      obtain rfl := hspace c List.mem_cons_self hc
      rw [collapse_of_blank hc]
      -- The space is written together with the next character, so `htail` has to be opened once more.
      cases cs with
      | nil => exact absurd rfl hlast
      | cons d cs =>
        have hd : isBlank d = false := by
          by_contra hblank
          have hdspace := hspace d (List.mem_cons_of_mem _ List.mem_cons_self) (by simpa using hblank)
          exact hdouble [] cs (by rw [hdspace]; rfl)
        rw [collapse_of_not_blank hd] at htail
        exact (collapse_of_not_blank hd .blank cs).trans (congrArg (' ' :: ·) htail)

theorem Normal.cleanChars_eq {cs : List Char} (h : Normal cs) : cleanChars cs = cs := by
  have hstrip : stripInvalidChars cs = cs := by
    refine List.filter_eq_self.2 fun c hc => ?_
    simp [isInvalid, replacement, h.no_replacement c hc, h.no_control c hc]
  rw [cleanChars, hstrip]
  cases cs with
  | nil => rfl
  | cons c cs =>
    have hc : isBlank c = false := by
      by_contra hblank
      have hspace := h.blank_eq_space c List.mem_cons_self (by simpa using hblank)
      exact h.first (by rw [hspace]; rfl)
    have hword := collapse_word_of_normal h.blank_eq_space h.last h.no_double
    rw [collapse_of_not_blank hc] at hword ⊢
    exact hword

/-- Normal text is all that cleaning leaves as it is. -/
theorem clean_eq_self_iff {s : String} : clean s = s ↔ Normal s.toList := by
  rw [← String.toList_inj, toList_clean]
  constructor
  · intro h
    rw [← h]
    exact normal_cleanChars s.toList
  · intro h
    exact h.cleanChars_eq

/-- **Cleaning brings text into normal form and changes nothing about its words.** -/
theorem clean_normalizes (s : String) :
    Normal (clean s).toList ∧
    (clean s).toList.filter (· != ' ') = s.toList.filter isWordChar ∧
    (∀ pre a gap b post, s.toList = pre ++ a :: (gap ++ b :: post) →
      isWordChar a = true → isWordChar b = true → (∀ c ∈ gap, isWordChar c = false) →
      ∃ before after,
        (clean s).toList = before ++ a :: ((if gap.any isBlank then [' '] else []) ++ b :: after) ∧
        before.filter (· != ' ') = pre.filter isWordChar ∧
        after.filter (· != ' ') = post.filter isWordChar) ∧
    (clean s = s ↔ Normal s.toList) ∧
    clean (clean s) = clean s ∧
    ∀ t : String, Normal t.toList → ∃ s, clean s = t := by
  refine ⟨?_, ?_, ?_, clean_eq_self_iff, (cleaned_clean s).clean_eq, ?_⟩
  · rw [toList_clean]
    exact normal_cleanChars s.toList
  · rw [toList_clean, filter_cleanChars]
  · intro pre a gap b post hs ha hb hgap
    rw [toList_clean, hs]
    exact cleanChars_between hgap ha hb pre post
  · intro t ht
    exact ⟨t, clean_eq_self_iff.2 ht⟩

/-- A tab divides words, a bell does not. -/
example : clean "\ta\u0007\uFFFDb\u0007\t\uFFFDc\u0007" = "ab c" := by decide

end Harvest.Text
