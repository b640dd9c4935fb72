import Harvest.Proofs.Extract.Capture
import Harvest.Proofs.Extract.Evaluation

/-!
# Text with its lines and text without

The same elements may be read as long text, which keeps its lines, or as plain text, which does not. Cleaning
takes the one to the other (`resolve_withoutPattern`), so that one is missing exactly if the other is. Long text
loses nothing between its first word and its last but invalid characters (`longText_keeps`).
-/

namespace Harvest

/-- The property read as long text. -/
def Schema.asLongText (s : Schema) : Schema :=
  { s with kind := .longText }

/-- The property read as plain text, without its pattern. -/
def Schema.asPlainText (s : Schema) : Schema :=
  { s with kind := .string, css := Path.withoutPattern s.css }

namespace Extract

open Text (Framed isBlank isInvalid stripInvalidChars)

theorem located_asPlainText (s : Schema) (parent : Selection) :
    located s.asPlainText parent = located s parent := by
  have hselector : s.asPlainText.selector = s.selector := by
    simp [Schema.asPlainText, Schema.selector, Path.withoutPattern, List.head?_take]
  rw [located, located, hselector]

theorem evaluate_asLongText (s : Schema) (parent : Selection) (r : Registry) :
    (evaluate s.asLongText parent r).1 = .ofText? ((located s parent).bind (longText s.css)) := by
  have hsame : located s.asLongText parent = located s parent := rfl
  rw [evaluate_eq, hsame]
  cases located s parent <;> rfl

theorem evaluate_asPlainText (s : Schema) (parent : Selection) (r : Registry) :
    (evaluate s.asPlainText parent r).1 =
      .ofText? ((located s parent).bind (Path.resolve (Path.withoutPattern s.css))) := by
  rw [evaluate_eq, located_asPlainText]
  cases located s parent <;> rfl

/-- Plain text is long text once it has been cleaned. -/
theorem resolve_withoutPattern (path : Path) (nodes : Selection) :
    Path.resolve (Path.withoutPattern path) nodes = (longText path nodes).map Text.clean := by
  have hrefine : (Path.withoutPattern path).refine = Text.clean := funext (Path.refine_withoutPattern path)
  rw [Path.resolve, hrefine, Path.raw?, Path.attribute?_withoutPattern, longText]
  cases Path.attribute? path with
  | none =>
    dsimp only
    rw [Option.map_some, Option.map_some, Text.clean_trim_stripInvalid]
  | some name =>
    dsimp only
    rw [Option.map_map]
    refine Option.map_congr fun raw _ => ?_
    exact (Text.cleaned_clean raw).clean_eq.symm

/-- An attribute has no lines to keep. -/
theorem resolve_withoutPattern_of_attribute {path : Path} {name : String} (h : Path.attribute? path = some name)
    (nodes : Selection) : Path.resolve (Path.withoutPattern path) nodes = longText path nodes := by
  have hrefine : (Path.withoutPattern path).refine = Text.clean := funext (Path.refine_withoutPattern path)
  rw [Path.resolve, hrefine, Path.raw?, Path.attribute?_withoutPattern, longText, h]

/-- Long text is what stands between the first word and the last, less the invalid characters. -/
theorem longText_keeps {path : Path} (h : Path.attribute? path = none) (nodes : Selection) :
    ∃ t before mid after, longText path nodes = some t ∧ Framed nodes.text.toList before mid after ∧
      t.toList = stripInvalidChars mid := by
  obtain ⟨before, mid, after, hframed⟩ := Text.exists_framed nodes.text.toList
  refine ⟨_, before, mid, after, by rw [longText, h], hframed, ?_⟩
  rw [Text.trim, Text.stripInvalid, String.toList_ofList, String.toList_ofList,
    hframed.trimChars_stripInvalidChars]

/-- White space is never invalid, so that a run of it stays as it is. -/
theorem stripInvalidChars_run {run : List Char} (hrun : ∀ c ∈ run, isBlank c = true) (lead rest : List Char) :
    stripInvalidChars (lead ++ (run ++ rest)) = stripInvalidChars lead ++ (run ++ stripInvalidChars rest) := by
  have hself : stripInvalidChars run = run :=
    Text.stripInvalidChars_eq_self fun c hc => Text.isInvalid_of_isBlank (hrun c hc)
  have happend : ∀ cs more, stripInvalidChars (cs ++ more) = stripInvalidChars cs ++ stripInvalidChars more :=
    fun _ _ => List.filter_append ..
  rw [happend, happend, hself]

/-- **Long text and plain text differ in white space and in nothing else.** Both are missing for the same
elements, cleaning turns the one into the other, an attribute reads the same as either, and long text keeps what
stands between its first word and its last. -/
theorem longText_refines (s : Schema) (parent : Selection) (r : Registry) :
    let long := (evaluate s.asLongText parent r).1
    let plain := (evaluate s.asPlainText parent r).1
    (long = .null ↔ plain = .null) ∧
    (long ≠ .null → ∃ t, long = .text t ∧ plain = .text (Text.clean t)) ∧
    (∀ name, s.css[1]? = some name → name ≠ "" → long = plain) ∧
    ∀ nodes, located s parent = some nodes → (∀ name, s.css[1]? = some name → name = "") →
      ∃ t before mid after, long = .text t ∧ Framed nodes.text.toList before mid after ∧
        t.toList = mid.filter (fun c => !isInvalid c) ∧
        ∀ lead run rest, mid = lead ++ (run ++ rest) → (∀ c ∈ run, isBlank c = true) →
          t.toList = stripInvalidChars lead ++ (run ++ stripInvalidChars rest) := by
  intro long plain
  have hlong : long = .ofText? ((located s parent).bind (longText s.css)) := evaluate_asLongText s parent r
  have hplain : plain = .ofText? (((located s parent).bind (longText s.css)).map Text.clean) := by
    have hresolve : Path.resolve (Path.withoutPattern s.css) = fun nodes => (longText s.css nodes).map Text.clean :=
      funext (resolve_withoutPattern s.css)
    dsimp only [plain]
    rw [evaluate_asPlainText, hresolve, Option.map_bind]
    rfl
  generalize hfound : (located s parent).bind (longText s.css) = found at hlong hplain
  refine ⟨?_, ?_, ?_, ?_⟩
  · rw [hlong, hplain]
    cases found <;> simp [Value.ofText?]
  · intro hne
    cases found with
    | none => exact absurd hlong hne
    | some t => exact ⟨t, hlong, hplain⟩
  · intro name hget hne
    have hname := Path.attribute?_eq_some_iff.2 ⟨hget, hne⟩
    have hsame : Path.resolve (Path.withoutPattern s.css) = longText s.css :=
      funext (resolve_withoutPattern_of_attribute hname)
    rw [hlong, ← hfound, ← hsame]
    exact (evaluate_asPlainText s parent r).symm
  · intro nodes hnodes hunnamed
    have hnone : Path.attribute? s.css = none := by
      rw [Option.eq_none_iff_forall_ne_some]
      intro name hname
      obtain ⟨hget, hne⟩ := Path.attribute?_eq_some_iff.1 hname
      exact hne (hunnamed name hget)
    obtain ⟨t, before, mid, after, htext, hframed, hkept⟩ := longText_keeps hnone nodes
    rw [hnodes, Option.bind_some, htext] at hfound
    refine ⟨t, before, mid, after, by rw [hlong, ← hfound]; rfl, hframed, hkept, ?_⟩
    rintro lead run rest rfl hrun
    rw [hkept, stripInvalidChars_run hrun]

end Extract

end Harvest
