import Harvest.Extract.Selection
import Mathlib.Data.List.Nodup

/-!
# Which elements a selection holds

`Selection.distinct` keeps every element once. So the selection that the text of a selector makes of a
document holds each of the elements it describes, and each once (`mem_ofDocument`, `nodup_ofDocument`).
Where the elements stand in the order in which they were made, the selection has them as they stand
(`ofDocument_of_inOrder`).
-/

namespace Harvest

open Markup (Document)

theorem Markup.Document.mem_elementsByBirth {d : Document} {n : Nat} :
    n ∈ d.elementsByBirth ↔ (d.element? n).isSome = true := by
  rw [Document.elementsByBirth, List.mem_mergeSort, Document.elementsOf, List.mem_filter, List.mem_range]
  refine and_iff_right_of_imp fun h => ?_
  by_contra hge
  have hnone : d.nodes[n]? = none := Array.getElem?_eq_none (Nat.le_of_not_lt hge)
  simp [Document.element?, hnone] at h

/-- The elements stand in the order in which they were made. -/
def Markup.Document.InOrder (d : Document) : Prop :=
  let birth (n : Nat) : Nat := ((d.nodes[n]?).map (·.birth)).getD 0
  (d.elementsOf (List.range d.nodes.size)).Pairwise fun m n => birth m ≤ birth n

instance (d : Document) : Decidable d.InOrder :=
  inferInstanceAs (Decidable (List.Pairwise _ _))

theorem Markup.Document.InOrder.elementsByBirth {d : Document} (h : d.InOrder) :
    d.elementsByBirth = d.elementsOf (List.range d.nodes.size) :=
  List.mergeSort_of_pairwise (h.imp fun hle => decide_eq_true hle)

namespace Selection

theorem mem_distinct {ns : List Nat} {n : Nat} : n ∈ distinct ns ↔ n ∈ ns := by
  induction ns with
  | nil => rfl
  | cons m more ih =>
    rw [distinct, List.mem_cons, List.mem_cons, List.mem_filter, ih, bne_iff_ne]
    by_cases h : n = m
    · simp [h]
    · simp [h]

theorem nodup_distinct (ns : List Nat) : (distinct ns).Nodup := by
  induction ns with
  | nil => exact .nil
  | cons m more ih =>
    rw [distinct, List.nodup_cons]
    refine ⟨?_, ih.filter _⟩
    simp [List.mem_filter]

/-- The text of a selector describes an element of a document: the outermost one if it is empty, and
otherwise those that match the selector that it stands for. -/
def Describes (selector : String) (d : Document) (n : Nat) : Prop :=
  if selector = "" then n = d.root
  else ∃ s, Selector.parse? selector = some s ∧ (d.element? n).isSome = true ∧
    Selector.matchesElement s d Option.none n = true

theorem ofDocument_document (d : Document) (selector : String) :
    (ofDocument d selector).document = d := by
  unfold ofDocument
  split
  · rfl
  · cases Selector.parse? selector <;> rfl

theorem mem_ofDocument {d : Document} {selector : String} {n : Nat} :
    n ∈ (ofDocument d selector).nodes ↔ Describes selector d n := by
  unfold ofDocument Describes
  by_cases hempty : selector = ""
  · rw [if_pos hempty, if_pos (by rw [hempty]; rfl), root]
    exact List.mem_singleton
  · rw [if_neg hempty, if_neg (by simpa [String.isEmpty_iff] using hempty)]
    cases Selector.parse? selector with
    | none => simp [Selection.none]
    | some s => simp [select, ofNodes, mem_distinct, Document.mem_elementsByBirth]

theorem nodup_ofDocument (d : Document) (selector : String) : (ofDocument d selector).nodes.Nodup := by
  unfold ofDocument
  split
  · exact List.nodup_singleton _
  · cases Selector.parse? selector with
    | none => exact .nil
    | some s => exact nodup_distinct _

/-- The elements that the text of a selector describes, as they stand in the document. -/
def standing (d : Document) (selector : String) : List Nat :=
  if selector.isEmpty then [d.root]
  else match Selector.parse? selector with
    | some s => distinct ((d.elementsOf (List.range d.nodes.size)).filter (s.matchesElement d Option.none))
    | Option.none => []

theorem ofDocument_of_inOrder {d : Document} (h : d.InOrder) (selector : String) :
    ofDocument d selector = ⟨d, standing d selector⟩ := by
  unfold ofDocument standing
  split
  · rfl
  · cases Selector.parse? selector with
    | none => rfl
    | some s => simp only [select, h.elementsByBirth, ofNodes]

end Selection

end Harvest
