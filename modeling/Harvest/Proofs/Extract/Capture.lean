import Harvest.Extract.Path
import Harvest.Proofs.Pattern.Groups
import Harvest.Proofs.Text.Trim

/-!
# What a pattern takes out of a text

A path leads to no text exactly if it names an attribute that the first element lacks; its pattern has no say in
this. The pattern narrows the text that is there: it leaves a piece of it that is normal again (`Narrowed`), the
first group without the spaces at its ends, or all of the text where there is no first group (`Pattern.Silent`).
-/

namespace Harvest

namespace Pattern

/-- A pattern that takes nothing out of a text, with the reason why. -/
inductive Silent (pattern : String) (cs : List Char) : Prop where
  | invalid (none : Expr.ofText? pattern = none)
  | unmatched {e : Expr} (valid : Expr.ofText? pattern = some e) (none : search (.ofExpr e) cs = none)
  | groupless {e : Expr} (valid : Expr.ofText? pattern = some e) (none : e.captures = false)
  | apart {e : Expr} {span : Span} (valid : Expr.ofText? pattern = some e)
      (found : search (.ofExpr e) cs = some span) (open_ended : span.first = none ∨ span.last = none)

variable {pattern value : String}

theorem capture_of_silent (h : Silent pattern value.toList) : capture pattern value = value := by
  cases h with
  | invalid hnone => rw [capture, hnone]
  | unmatched hvalid hnone => simp only [capture, hvalid, firstGroup?, hnone]
  | groupless hvalid hnone => simp only [capture, hvalid, firstGroup?_of_not_captures hnone]
  | @apart e span hvalid hfound hopen =>
    obtain ⟨first, last⟩ := span
    simp only [capture, hvalid, firstGroup?, hfound]
    rcases hopen with h | h
    · obtain rfl : first = none := h
      rfl
    · obtain rfl : last = none := h
      cases first <;> rfl

theorem capture_of_found {e : Expr} {first last : Nat} (hvalid : Expr.ofText? pattern = some e)
    (hfound : search (.ofExpr e) value.toList = some ⟨some first, some last⟩) :
    capture pattern value = String.ofList ((value.toList.drop first).take (last - first)) := by
  simp only [capture, hvalid, firstGroup?, hfound]

/-- What is captured stands in the text without a gap. -/
theorem isInfix_capture (pattern value : String) : (capture pattern value).toList <:+: value.toList := by
  unfold capture
  split
  · exact List.infix_refl _
  · split
    · next cs hgroup =>
      unfold firstGroup? at hgroup
      split at hgroup
      · next first last _ =>
        cases hgroup
        rw [String.toList_ofList]
        exact (List.take_prefix _ _).isInfix.trans (List.drop_suffix first _).isInfix
      · cases hgroup
    · exact List.infix_refl _

end Pattern

/-- The first element, if there is one, does not have the attribute. -/
def Selection.Lacks (sel : Selection) (name : String) : Prop :=
  ∀ n ∈ sel.nodes.head?, Selection.attributeOf? sel.document name n = Option.none

theorem Selection.attribute?_eq_none_iff {sel : Selection} {name : String} :
    sel.attribute? name = Option.none ↔ sel.Lacks name := by
  unfold Selection.attribute? Selection.Lacks
  rw [Option.bind_eq_none_iff]
  rfl

namespace Path

open Pattern (Expr Silent search)

/-- The selector and the attribute of a path. -/
def withoutPattern (path : Path) : Path :=
  path.take 2

/-- What a pattern leaves of a whole text: a piece that is normal, all of it if the pattern takes nothing out,
and otherwise the first group without the white space at its ends. -/
structure Narrowed (pattern? : Option String) (whole part : String) : Prop where
  within : part.toList <:+: whole.toList
  normal : Text.Normal part.toList
  unchanged : (∀ pattern, pattern? = some pattern → pattern = "" ∨ Silent pattern whole.toList) → part = whole
  captured : ∀ pattern e first last, pattern? = some pattern → pattern ≠ "" → Expr.ofText? pattern = some e →
    search (.ofExpr e) whole.toList = some ⟨some first, some last⟩ →
    part = Text.trim (String.ofList ((whole.toList.drop first).take (last - first)))

/-- What a way of reading paths gives, against the same path without its pattern. -/
structure Narrows (read : Path → Selection → Option String) (path : Path) (sel : Selection) : Prop where
  none_iff : read path sel = none ↔ ∃ name, path[1]? = some name ∧ name ≠ "" ∧ sel.Lacks name
  none_without_pattern : read path sel = none ↔ read path.withoutPattern sel = none
  narrowed : ∀ whole, read path.withoutPattern sel = some whole →
    ∃ part, read path sel = some part ∧ Narrowed path[2]? whole part

/-! ## One text -/

theorem attribute?_eq_some_iff {path : Path} {name : String} :
    path.attribute? = some name ↔ path[1]? = some name ∧ name ≠ "" := by
  simp [attribute?, Option.filter_eq_some_iff]

theorem pattern?_eq_some_iff {path : Path} {pattern : String} :
    path.pattern? = some pattern ↔ path[2]? = some pattern ∧ pattern ≠ "" := by
  simp [pattern?, Option.filter_eq_some_iff]

theorem attribute?_withoutPattern (path : Path) : path.withoutPattern.attribute? = path.attribute? := by
  simp [withoutPattern, attribute?]

theorem refine_withoutPattern (path : Path) (raw : String) : path.withoutPattern.refine raw = Text.clean raw := by
  have hnone : path.withoutPattern[2]? = none := List.getElem?_eq_none (List.length_take_le 2 path)
  rw [refine, pattern?, hnone, Option.filter_none]

theorem clean_piece {whole piece : String} (hwhole : Text.Normal whole.toList)
    (hpiece : piece.toList <:+: whole.toList) : Text.clean piece = Text.trim piece := by
  rw [Text.clean, hwhole.cleanChars_piece hpiece, ← Text.trim]

/-- A pattern is applied to clean text, and what it takes out of it only has to be trimmed. -/
theorem narrowed_refine (path : Path) (raw : String) : Narrowed path[2]? (Text.clean raw) (path.refine raw) := by
  have hnormal : Text.Normal (Text.clean raw).toList := Text.clean_eq_self_iff.1 (Text.cleaned_clean raw).clean_eq
  rw [refine]
  cases hpattern : path.pattern? with
  | none =>
    refine ⟨List.infix_refl _, hnormal, fun _ => rfl, ?_⟩
    intro pattern e first last hp hne
    have := pattern?_eq_some_iff.2 ⟨hp, hne⟩
    rw [hpattern] at this
    cases this
  | some pattern =>
    obtain ⟨hget, hne⟩ := pattern?_eq_some_iff.1 hpattern
    have hpiece := Pattern.isInfix_capture pattern (Text.clean raw)
    dsimp only
    refine ⟨?_, ?_, ?_, ?_⟩
    · rw [clean_piece hnormal hpiece, Text.trim, String.toList_ofList]
      exact (Text.isInfix_trimWhere _ _).trans hpiece
    · exact Text.clean_eq_self_iff.1 (Text.cleaned_clean _).clean_eq
    · intro hsilent
      have hsilent : Silent pattern (Text.clean raw).toList := (hsilent pattern hget).resolve_left hne
      rw [Pattern.capture_of_silent hsilent, (Text.cleaned_clean raw).clean_eq]
    · intro other e first last hother _ hvalid hfound
      obtain rfl : pattern = other := Option.some.inj (hget.symm.trans hother)
      rw [clean_piece hnormal hpiece, Pattern.capture_of_found hvalid hfound]

/-! ## Any text of a selection -/

/-- Whatever text of the selection counts, a path is read in the same way. -/
theorem narrows_of_text (text : Selection → String) (path : Path) (sel : Selection) :
    Narrows (fun path sel => (path.raw? (text sel) sel).map path.refine) path sel := by
  have hraw : path.withoutPattern.raw? (text sel) sel = path.raw? (text sel) sel := by
    rw [raw?, raw?, attribute?_withoutPattern]
  refine ⟨?_, ?_, ?_⟩
  · rw [Option.map_eq_none_iff, raw?]
    cases hname : path.attribute? with
    | none =>
      simp only [reduceCtorEq, false_iff, not_exists, not_and]
      intro name hget hne
      have := attribute?_eq_some_iff.2 ⟨hget, hne⟩
      rw [hname] at this
      cases this
    | some name =>
      obtain ⟨hget, hne⟩ := attribute?_eq_some_iff.1 hname
      dsimp only
      rw [Selection.attribute?_eq_none_iff]
      constructor
      · intro h
        exact ⟨name, hget, hne, h⟩
      · rintro ⟨other, hother, -, h⟩
        obtain rfl : name = other := Option.some.inj (hget.symm.trans hother)
        exact h
  · rw [Option.map_eq_none_iff, Option.map_eq_none_iff, hraw]
  · intro whole h
    rw [hraw] at h
    obtain ⟨raw, hsome, rfl⟩ := Option.map_eq_some_iff.1 h
    refine ⟨path.refine raw, by rw [hsome]; rfl, ?_⟩
    rw [refine_withoutPattern]
    exact narrowed_refine path raw

/-- **A pattern only narrows what a path leads to.** There is no text exactly where an attribute is missing, and
else a normal piece of the text that the path leads to without its pattern. -/
theorem resolve_narrows (path : Path) (sel : Selection) :
    Narrows resolve path sel ∧ Narrows resolveOwn path sel :=
  ⟨narrows_of_text Selection.text path sel, narrows_of_text Selection.ownText path sel⟩

end Path

end Harvest
