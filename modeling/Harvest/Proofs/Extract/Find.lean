import Harvest.Proofs.Extract.Evaluation
import Harvest.Proofs.Extract.Selection
import Harvest.Proofs.Markup.Tree
import Harvest.Proofs.Selector.Scope

/-!
# What a search finds, and in which order

`Selection.find` searches below the selected nodes one after the other, and what is below the first of them
comes before what the others add (`nodes_find_cons`). So the elements it finds stand in the order in which
they are discovered (`find_discovered`). The nodes below a node are an interval of the document. Hence, if
the selected nodes stand in document order and it does not matter where a search starts, what a later node
adds comes after all that is below an earlier one, and the elements found stand in document order too
(`find_ascending`), as do those of any chain of searches (`foldl_find_ascending`).
-/

namespace Harvest

open Markup (Document)

namespace Selection

variable {d : Document} {s : Selector} {nodes : List Nat} {m n : Nat}

/-! ## Each element once -/

theorem distinct_of_nodup {ns : List Nat} (h : ns.Nodup) : distinct ns = ns := by
  induction ns with
  | nil => rfl
  | cons n more ih =>
    obtain ⟨hout, hmore⟩ := List.nodup_cons.1 h
    have hkeep : more.filter (· != n) = more :=
      List.filter_eq_self.2 fun m hm => bne_iff_ne.2 fun hmn => hout (hmn ▸ hm)
    rw [distinct, ih hmore, hkeep]

/-- Of a list at the end only what is new is kept. -/
theorem distinct_append (ns more : List Nat) :
    distinct (ns ++ more) = distinct ns ++ (distinct more).filter fun m => !ns.contains m := by
  induction ns with
  | nil => simp [distinct]
  | cons n ns ih =>
    have hnew : ∀ m, (m != n && !ns.contains m) = !(n :: ns).contains m := by
      intro m
      rw [List.contains_cons, Bool.not_or]
      rfl
    rw [List.cons_append, distinct, distinct, ih, List.filter_append, List.filter_filter, List.cons_append]
    simp only [hnew]

/-! ## Below one node -/

theorem mem_matchesWithin :
    m ∈ matchesWithin d s n ↔
      m ∈ d.descendants n ∧ (d.element? m).isSome = true ∧ s.matchesElement d (some n) m = true := by
  rw [matchesWithin, List.mem_filter, Document.elementsOf, List.mem_filter, and_assoc]

theorem matchesWithin_ascending (d : Document) (s : Selector) (n : Nat) :
    (matchesWithin d s n).Pairwise (· < ·) :=
  ((d.descendants_ascending n).filter _).filter _

/-! ## Below several nodes -/

/-- What is below the first node comes first, and then what the other nodes add. -/
theorem nodes_find_cons (d : Document) (s : Selector) (n : Nat) (nodes : List Nat) :
    (find ⟨d, n :: nodes⟩ s).nodes =
      matchesWithin d s n ++
        (find ⟨d, nodes⟩ s).nodes.filter fun m => !(matchesWithin d s n).contains m := by
  have hnodup : (matchesWithin d s n).Nodup := (matchesWithin_ascending d s n).imp Nat.ne_of_lt
  rw [find, ofNodes, List.flatMap_cons, distinct_append, distinct_of_nodup hnodup]
  rfl

theorem mem_added {found : List Nat} :
    m ∈ found.filter (fun m => !(matchesWithin d s n).contains m) ↔
      m ∈ found ∧ m ∉ matchesWithin d s n := by
  rw [List.mem_filter, Bool.not_eq_true', ← Bool.not_eq_true, List.contains_iff_mem]

theorem mem_find : m ∈ (find ⟨d, nodes⟩ s).nodes ↔ ∃ n ∈ nodes, m ∈ matchesWithin d s n := by
  rw [find, ofNodes, mem_distinct, List.mem_flatMap]

/-- The place of the first selected node below which a search discovers an element. -/
def discovery (sel : Selection) (s : Selector) (m : Nat) : Nat :=
  sel.nodes.findIdx fun n => (matchesWithin sel.document s n).contains m

theorem discovery_of_mem (h : m ∈ matchesWithin d s n) : discovery ⟨d, n :: nodes⟩ s m = 0 := by
  rw [discovery, List.findIdx_cons, List.contains_iff_mem.2 h]
  rfl

theorem discovery_of_not_mem (h : m ∉ matchesWithin d s n) :
    discovery ⟨d, n :: nodes⟩ s m = discovery ⟨d, nodes⟩ s m + 1 := by
  have hnot : (matchesWithin d s n).contains m = false := by simpa using h
  rw [discovery, List.findIdx_cons, hnot]
  rfl

/-- One element is discovered before another: below an earlier node, or before it below the same. -/
def DiscoveredBefore (sel : Selection) (s : Selector) (a b : Nat) : Prop :=
  sel.discovery s a < sel.discovery s b ∨ sel.discovery s a = sel.discovery s b ∧ a < b

theorem find_discovered (d : Document) (s : Selector) (nodes : List Nat) :
    (find ⟨d, nodes⟩ s).nodes.Pairwise (DiscoveredBefore ⟨d, nodes⟩ s) := by
  induction nodes with
  | nil => exact .nil
  | cons n nodes ih =>
    rw [nodes_find_cons, List.pairwise_append]
    refine ⟨?_, ?_, ?_⟩
    · refine (matchesWithin_ascending d s n).imp_of_mem fun ha hb hab => Or.inr ⟨?_, hab⟩
      rw [discovery_of_mem ha, discovery_of_mem hb]
    · refine (ih.filter _).imp_of_mem fun ha hb hab => ?_
      rw [DiscoveredBefore, discovery_of_not_mem (mem_added.1 ha).2,
        discovery_of_not_mem (mem_added.1 hb).2]
      rcases hab with hlt | ⟨heq, hlt⟩
      · exact Or.inl (Nat.succ_lt_succ hlt)
      · exact Or.inr ⟨congrArg Nat.succ heq, hlt⟩
    · intro a ha b hb
      refine Or.inl ?_
      rw [discovery_of_mem ha, discovery_of_not_mem (mem_added.1 hb).2]
      exact Nat.succ_pos _

/-! ## Document order -/

/-- If a later node adds an element, that is not below an earlier one, and so comes after all that is. -/
theorem lt_of_not_mem_matchesWithin {a b n' : Nat} (hscope : s.IgnoresScope d) (hlt : n < n')
    (ha : a ∈ matchesWithin d s n) (hb : b ∈ matchesWithin d s n') (hout : b ∉ matchesWithin d s n) :
    a < b := by
  obtain ⟨hbelow, -, -⟩ := mem_matchesWithin.1 ha
  obtain ⟨hbelow', helement, hmatches⟩ := mem_matchesWithin.1 hb
  have hn' : n' < b := (Document.mem_descendants.1 hbelow').1
  refine Document.lt_of_not_mem_descendants hbelow (Nat.lt_trans hlt hn') fun hin => hout ?_
  exact mem_matchesWithin.2 ⟨hin, helement, (hscope b helement n n').trans hmatches⟩

theorem find_ascending (hscope : s.IgnoresScope d) (hnodes : nodes.Pairwise (· < ·)) :
    (find ⟨d, nodes⟩ s).nodes.Pairwise (· < ·) := by
  induction nodes with
  | nil => exact .nil
  | cons n nodes ih =>
    obtain ⟨hfirst, hrest⟩ := List.pairwise_cons.1 hnodes
    rw [nodes_find_cons, List.pairwise_append]
    refine ⟨matchesWithin_ascending d s n, (ih hrest).filter _, ?_⟩
    intro a ha b hb
    obtain ⟨hfound, hout⟩ := mem_added.1 hb
    obtain ⟨n', hn', hb'⟩ := mem_find.1 hfound
    exact lt_of_not_mem_matchesWithin hscope (hfirst n' hn') ha hb' hout

@[simp] theorem find_document (sel : Selection) (s : Selector) : (sel.find s).document = sel.document :=
  rfl

/-- Chains of searches keep document order. -/
theorem foldl_find_ascending {sel : Selection} (hnodes : sel.nodes.Pairwise (· < ·)) {chain : List Selector}
    (hscope : ∀ s ∈ chain, s.IgnoresScope sel.document) :
    (chain.foldl find sel).nodes.Pairwise (· < ·) := by
  induction chain generalizing sel with
  | nil => exact hnodes
  | cons s chain ih =>
    obtain ⟨hs, hchain⟩ := List.forall_mem_cons.1 hscope
    exact ih (find_ascending hs hnodes) hchain

/-! ## Pages -/

/-- Elements are what a search for them in a page finds. -/
structure Finds (sel : Selection) (s : Selector) (found : List Nat) : Prop where
  nodup : found.Nodup
  /-- The elements that lie in a selected node and match there. -/
  mem_iff : ∀ m, m ∈ found ↔ (sel.document.element? m).isSome = true ∧
    ∃ n ∈ sel.nodes, sel.document.LiesIn m n ∧ s.matchesElement sel.document (some n) m = true
  discovered : found.Pairwise (DiscoveredBefore sel s)
  ascending : s.IgnoresScope sel.document → sel.nodes.Pairwise (· < ·) → found.Pairwise (· < ·)

theorem finds_find (hd : d.Nested) (s : Selector) (nodes : List Nat) :
    Finds ⟨d, nodes⟩ s (find ⟨d, nodes⟩ s).nodes where
  nodup := nodup_distinct _
  mem_iff := by
    intro m
    rw [mem_find]
    constructor
    · rintro ⟨n, hn, hm⟩
      obtain ⟨hbelow, helement, hmatches⟩ := mem_matchesWithin.1 hm
      exact ⟨helement, n, hn, hd.mem_descendants_iff.1 hbelow, hmatches⟩
    · rintro ⟨helement, n, hn, hin, hmatches⟩
      exact ⟨n, hn, mem_matchesWithin.2 ⟨hd.mem_descendants_iff.2 hin, helement, hmatches⟩⟩
  discovered := find_discovered d s nodes
  ascending := find_ascending

end Selection

/-! ## Arrays -/

namespace Extract

/-- The entries of an array: the text of every element, or the attribute of those that have it. -/
def entries (path : Path) (d : Document) (found : List Nat) : List String :=
  match path.attribute? with
  | none => found.map fun n => Text.clean (d.text n)
  | some name => found.filterMap fun n => (Selection.attributeOf? d name n).map Text.clean

theorem array_eq_entries (path : Path) (sel : Selection) :
    array path sel = entries path sel.document sel.nodes := by
  rw [array, entries]
  cases path.attribute? with
  | none =>
    dsimp only
    rw [Selection.each, List.map_map]
    refine List.map_congr_left fun n _ => congrArg Text.clean ?_
    simp [Selection.text, String.join]
  | some name =>
    dsimp only
    rw [List.map_filterMap]

/-- An array is read from what its selector finds, if that is anything. -/
theorem evaluate_array {p : Schema} {s : Selector} {sel : Selection} (hkind : p.kind = .array)
    (hne : p.selector ≠ "") (hparse : Selector.parse? p.selector = some s)
    (hfound : (sel.find s).nodes ≠ []) (r : Registry) :
    evaluate p sel r = (.list (entries p.css sel.document (sel.find s).nodes), r) := by
  have hsel : sel.isEmpty = false := by
    rw [Selection.isEmpty, List.isEmpty_eq_false_iff]
    rintro hnone
    refine hfound ?_
    rw [Selection.find, hnone]
    rfl
  have hsome : (sel.find s).isEmpty = false := by
    rw [Selection.isEmpty, List.isEmpty_eq_false_iff]
    exact hfound
  have hlocated : located p sel = some (sel.find s) := by
    rw [located, if_neg (by simp [hsel]), propertyNodes, if_neg (by simpa [String.isEmpty_iff] using hne),
      hparse]
    exact if_neg (by simp [hsome])
  rw [evaluate_of_located hlocated, readNodes, hkind]
  dsimp only
  rw [array_eq_entries, Selection.find_document]

end Extract

open Extract

/-- What a search below the nodes of any page finds. Without `:scope` document order is kept, also by chains
of searches; and an array has the entries of just the elements found, in their order. -/
theorem find_finds (text : String) (nodes : List Nat) :
    (∀ s, Selection.Finds ⟨.parse text, nodes⟩ s (Selection.find ⟨.parse text, nodes⟩ s).nodes) ∧
      (∀ chain : List Selector, nodes.Pairwise (· < ·) → (∀ s ∈ chain, s.IgnoresScope (.parse text)) →
        (chain.foldl Selection.find ⟨.parse text, nodes⟩).nodes.Nodup ∧
          (chain.foldl Selection.find ⟨.parse text, nodes⟩).nodes.Pairwise (· < ·)) ∧
      ∀ (p : Schema) (s : Selector), p.kind = .array → p.selector ≠ "" →
        Selector.parse? p.selector = some s → (Selection.find ⟨.parse text, nodes⟩ s).nodes ≠ [] →
        ∀ r, evaluate p ⟨.parse text, nodes⟩ r =
          (.list (entries p.css (.parse text) (Selection.find ⟨.parse text, nodes⟩ s).nodes), r) := by
  refine ⟨fun s => Selection.finds_find (Document.nested_parse text) s nodes, ?_, ?_⟩
  · intro chain hnodes hscope
    have hascending : (chain.foldl Selection.find ⟨.parse text, nodes⟩).nodes.Pairwise (· < ·) :=
      Selection.foldl_find_ascending hnodes hscope
    exact ⟨hascending.imp Nat.ne_of_lt, hascending⟩
  · intro p s hkind hne hparse hfound r
    exact evaluate_array hkind hne hparse hfound r

/-- A list within an item of another list. -/
def nestedLists : String :=
  "<ul><li title='x y'>A<ul><li>B</ul></ul>"

/-- The selector `li`. -/
def itemSelector : Selector :=
  ⟨[.compound [.elementName "li"]]⟩

/-- The titles of the items. -/
def titles : Schema :=
  { Schema.empty with id := "titles", css := ["li", "title"], kind := .array }

theorem find_finds_nestedLists :
    ((Document.parse nestedLists).LiesIn 6 3 ∧ Selector.parse? "li" = some itemSelector) ∧
      Selection.Finds ⟨.parse nestedLists, [3, 6]⟩ itemSelector [4, 7] ∧
      ([itemSelector, itemSelector].foldl Selection.find ⟨.parse nestedLists, [3, 6]⟩).nodes.Pairwise
        (· < ·) ∧
      evaluate titles ⟨.parse nestedLists, [3, 6]⟩ .empty = (.list ["x y"], .empty) := by
  have hparse : Selector.parse? "li" = some itemSelector := by with_unfolding_all rfl
  have hfound : (Selection.find ⟨.parse nestedLists, [3, 6]⟩ itemSelector).nodes = [4, 7] := by
    decide +kernel
  have hbelow : 6 ∈ (Document.parse nestedLists).descendants 3 := by decide +kernel
  have hentries : entries titles.css (.parse nestedLists) [4, 7] = ["x y"] := by decide +kernel
  have hscope : ∀ s ∈ [itemSelector, itemSelector], s.IgnoresScope (.parse nestedLists) := by
    intro s hs
    refine Selector.ignoresScope_of_not_mentionsScope ?_ _
    rcases List.mem_pair.1 hs with rfl | rfl <;> rfl
  obtain ⟨hfinds, hchain, harray⟩ := find_finds nestedLists [3, 6]
  have hone := hfinds itemSelector
  have hread := harray titles itemSelector rfl (by decide) hparse (by simp [hfound]) .empty
  rw [hfound] at hone hread
  rw [hentries] at hread
  exact ⟨⟨(Document.nested_parse nestedLists).mem_descendants_iff.1 hbelow, hparse⟩, hone,
    (hchain _ (by decide) hscope).2, hread⟩

end Harvest
