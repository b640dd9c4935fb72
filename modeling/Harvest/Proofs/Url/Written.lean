import Harvest.Proofs.Url.Tail

/-!
# How an address is written

The text of an address is its scheme, its hierarchy (authority and path), and its tail (query and
fragment). In a tail that was read only visible characters stand (`isVisible_of_mem_tail`), nothing of it
is lost (`length_le_tail`), and a query of pairs reads back in front of such a fragment
(`withTail_query`).
-/

namespace Harvest.Url

/-! ## The text of an address -/

/-- What an address is written as between its scheme and its query. -/
def hierarchy (u : Url) : List Char :=
  (u.authority ++ u.path.toText).toList

/-- A part behind its mark, if there is one. -/
def marked (mark : Char) : Option String → List Char
  | some part => mark :: part.toList
  | none => []

/-- What the query and the fragment of an address are written as. -/
def tail (u : Url) : List Char :=
  marked '?' u.query ++ marked '#' u.fragment

theorem toList_toText (u : Url) :
    u.toText.toList = u.scheme.toList ++ ':' :: (u.hierarchy ++ u.tail) := by
  cases hquery : u.query <;> cases hfragment : u.fragment <;>
    simp [toText, hierarchy, tail, marked, hquery, hfragment]

theorem isTail_tail (u : Url) : IsTail u.tail := by
  unfold tail
  cases u.query with
  | some q => rintro c ⟨⟩; rfl
  | none =>
    cases u.fragment with
    | some f => rintro c ⟨⟩; rfl
    | none => exact isTail_nil

/-! ## Encoded parts -/

theorem mem_encode {set : Char → Bool} {cs : List Char} {c : Char} (h : c ∈ Percent.encode set cs) :
    isComponentChar c = true ∨ c ∈ cs ∧ set c = false := by
  obtain ⟨d, hmem, hd⟩ := List.mem_flatMap.1 h
  split at hd
  · obtain ⟨b, -, hb⟩ := List.mem_flatMap.1 hd
    exact Or.inl (isComponentChar_of_mem_encodeByte hb)
  · rename_i hset
    rw [List.mem_singleton.1 hd]
    exact Or.inr ⟨hmem, by simpa using hset⟩

theorem encode_eq_self {set : Char → Bool} {cs : List Char} (h : ∀ c ∈ cs, set c = false) :
    Percent.encode set cs = cs := by
  induction cs with
  | nil => rfl
  | cons c cs ih =>
    rw [Percent.encode, List.flatMap_cons, ← Percent.encode, ih fun c hc => h c (List.mem_cons_of_mem _ hc),
      h c (List.mem_cons_self ..)]
    rfl

theorem length_le_encode (set : Char → Bool) (cs : List Char) :
    cs.length ≤ (Percent.encode set cs).length := by
  induction cs with
  | nil => exact Nat.zero_le _
  | cons c cs ih =>
    have hpos : 1 ≤ (if set c then Percent.encodeWhole c else [c]).length := by
      obtain ⟨b, bs, hbytes, -⟩ := Text.Utf8.step_encodeChar c []
      split
      · simp [Percent.encodeWhole, hbytes, Percent.encodeByte]
      · exact Nat.le_refl 1
    rw [Percent.encode, List.flatMap_cons, ← Percent.encode, List.length_append, List.length_cons]
    omega

/-- The visible characters of ASCII. -/
def IsVisible (c : Char) : Prop :=
  0x20 < c.toNat ∧ c.toNat < 0x7F

/-- Encoding with a set that holds all else leaves visible characters only. -/
theorem isVisible_of_mem_encode {set : Char → Bool} (hset : ∀ c, set c = false → IsVisible c)
    {cs : List Char} {c : Char} (h : c ∈ Percent.encode set cs) : IsVisible c :=
  (mem_encode h).elim isComponentChar_range fun h => hset c h.2

theorem isVisible_of_inQuery {c : Char} (h : Percent.inQuery c = false) : IsVisible c := by
  simp only [Percent.inQuery, Percent.isControl, Bool.or_eq_false_iff, decide_eq_false_iff_not] at h
  have hspace : c.toNat ≠ 0x20 := by
    intro heq
    obtain rfl : c = ' ' := Char.toNat_inj.1 heq
    exact absurd h.2 (by decide)
  exact ⟨by omega, by omega⟩

theorem isVisible_of_inFragment {c : Char} (h : Percent.inFragment c = false) : IsVisible c := by
  simp only [Percent.inFragment, Percent.isControl, Bool.or_eq_false_iff,
    decide_eq_false_iff_not] at h
  have hspace : c.toNat ≠ 0x20 := by
    intro heq
    obtain rfl : c = ' ' := Char.toNat_inj.1 heq
    exact absurd h.2 (by decide)
  exact ⟨by omega, by omega⟩

theorem isBlank_of_isVisible {c : Char} (h : IsVisible c) : Text.isBlank c = false := by
  obtain ⟨hlow, hhigh⟩ := h
  simp [Text.isBlank]
  omega

theorem isControl_of_isVisible {c : Char} (h : IsVisible c) : Percent.isControl c = false := by
  simp only [Percent.isControl, Bool.or_eq_false_iff, decide_eq_false_iff_not]
  exact ⟨by have := h.1; omega, by have := h.2; omega⟩

theorem inFragment_of_isComponentChar {c : Char} (h : isComponentChar c = true) :
    Percent.inFragment c = false := by
  rw [Bool.eq_false_iff]
  intro hin
  rw [Percent.inFragment, isControl_of_isVisible (isComponentChar_range h)] at hin
  simp only [Bool.false_or, List.contains_iff_mem, List.mem_cons, List.not_mem_nil, or_false] at hin
  rcases hin with rfl | rfl | rfl | rfl | rfl <;> exact absurd h (by decide)

theorem inSpecialQuery_of_isQueryChar {c : Char} (h : isQueryChar c = true) :
    Percent.inSpecialQuery c = false := by
  rw [Bool.eq_false_iff]
  intro hin
  rw [Percent.inSpecialQuery, Percent.inQuery, isControl_of_isVisible (isQueryChar_range h)] at hin
  simp only [Bool.false_or, Bool.or_eq_true, beq_iff_eq, List.contains_iff_mem, List.mem_cons,
    List.not_mem_nil, or_false] at hin
  rcases hin with (rfl | rfl | rfl | rfl | rfl) | rfl <;> exact absurd h (by decide)

/-- The characters that are encoded in a query. -/
def querySet (kind : SchemeKind) : Char → Bool :=
  if kind.isSpecial then Percent.inSpecialQuery else Percent.inQuery

theorem inQuery_of_querySet {kind : SchemeKind} {c : Char} (h : querySet kind c = false) :
    Percent.inQuery c = false := by
  unfold querySet at h
  split at h
  · exact (Bool.or_eq_false_iff.1 h).1
  · exact h

theorem querySet_of_isQueryChar (kind : SchemeKind) {c : Char} (h : isQueryChar c = true) :
    querySet kind c = false := by
  have hspecial := inSpecialQuery_of_isQueryChar h
  unfold querySet
  split
  · exact hspecial
  · exact (Bool.or_eq_false_iff.1 hspecial).1

/-! ## Tails -/

theorem takeTail_cases (kind : SchemeKind) {cs : List Char} (hcs : IsTail cs) :
    (cs = [] ∧ takeTail kind cs = (none, none)) ∨
    (∃ f, cs = '#' :: f ∧ takeTail kind cs = (none, some (encoded Percent.inFragment f))) ∨
    (∃ q, cs = '?' :: q ∧ takeTail kind cs = (some (encoded (querySet kind) q), none)) ∨
    ∃ q f, cs = '?' :: (q ++ '#' :: f) ∧
      takeTail kind cs =
        (some (encoded (querySet kind) q), some (encoded Percent.inFragment f)) := by
  cases cs with
  | nil => exact Or.inl ⟨rfl, rfl⟩
  | cons c cs =>
    refine Or.inr ?_
    rcases endsPath_cases (hcs c rfl) with rfl | rfl
    · refine Or.inr ?_
      cases hcut : Text.cutAt (· == '#') cs with
      | mk q fragment =>
        cases fragment with
        | none =>
          refine Or.inl ⟨q, by rw [Text.eq_of_cutAt_none hcut], ?_⟩
          simp only [takeTail, hcut]
          rfl
        | some f =>
          obtain ⟨s, hs, rfl⟩ := Text.eq_of_cutAt hcut
          refine Or.inr ⟨q, f, by rw [eq_of_beq hs], ?_⟩
          simp only [takeTail, hcut]
          rfl
    · exact Or.inl ⟨cs, rfl, rfl⟩

/-- Nothing of a tail is lost. -/
theorem length_le_tail (u : Url) {cs : List Char} (hcs : IsTail cs) :
    cs.length ≤ (withTail u cs).tail.length := by
  have hq := length_le_encode (querySet u.kind)
  have hf := length_le_encode Percent.inFragment
  rcases takeTail_cases u.kind hcs with
    ⟨rfl, htail⟩ | ⟨f, rfl, htail⟩ | ⟨q, rfl, htail⟩ | ⟨q, f, rfl, htail⟩
  · exact Nat.zero_le _
  · simpa [withTail, htail, tail, marked, encoded] using hf f
  · simpa [withTail, htail, tail, marked, encoded] using hq q
  · have := hq q
    have := hf f
    simp [withTail, htail, tail, marked, encoded]
    omega

theorem fragment_plain (u : Url) {cs : List Char} (hcs : IsTail cs) :
    ∀ f, (withTail u cs).fragment = some f → ∀ c ∈ f.toList, Percent.inFragment c = false := by
  have hencoded : ∀ part : List Char, ∀ c ∈ (encoded Percent.inFragment part).toList,
      Percent.inFragment c = false := by
    intro part c hc
    rw [encoded, String.toList_ofList] at hc
    exact (mem_encode hc).elim inFragment_of_isComponentChar And.right
  intro f hf
  rcases takeTail_cases u.kind hcs with
    ⟨rfl, htail⟩ | ⟨f, rfl, htail⟩ | ⟨q, rfl, htail⟩ | ⟨q, f, rfl, htail⟩ <;>
    rw [withTail, htail] at hf <;> cases hf
  · exact hencoded f
  · exact hencoded f

theorem isVisible_of_mem_tail (u : Url) {cs : List Char} (hcs : IsTail cs) :
    ∀ c ∈ (withTail u cs).tail, IsVisible c := by
  have hquery : ∀ part : List Char, ∀ c ∈ marked '?' (some (encoded (querySet u.kind) part)),
      IsVisible c := by
    intro part c hc
    rw [marked, encoded, String.toList_ofList] at hc
    rcases List.mem_cons.1 hc with rfl | hc
    · exact ⟨by decide, by decide⟩
    · exact isVisible_of_mem_encode (fun c h => isVisible_of_inQuery (inQuery_of_querySet h)) hc
  have hfragment : ∀ part : List Char, ∀ c ∈ marked '#' (some (encoded Percent.inFragment part)),
      IsVisible c := by
    intro part c hc
    rw [marked, encoded, String.toList_ofList] at hc
    rcases List.mem_cons.1 hc with rfl | hc
    · exact ⟨by decide, by decide⟩
    · exact isVisible_of_mem_encode (fun c => isVisible_of_inFragment) hc
  intro c hc
  rcases takeTail_cases u.kind hcs with
    ⟨rfl, htail⟩ | ⟨f, rfl, htail⟩ | ⟨q, rfl, htail⟩ | ⟨q, f, rfl, htail⟩ <;>
    rw [tail, withTail, htail] at hc
  · cases hc
  · exact hfragment f c hc
  · exact hquery q c (by simpa [marked] using hc)
  · exact (List.mem_append.1 hc).elim (hquery q c) (hfragment f c)

/-- An address with another query. -/
def withQuery (u : Url) (q : String) : Url :=
  { u with query := some q }

/-- The tail of an address with a query of pairs is read as that query and the fragment. -/
theorem withTail_query {u : Url} {q : String} (hq : ∀ c ∈ q.toList, isQueryChar c = true)
    (hf : ∀ f, u.fragment = some f → ∀ c ∈ f.toList, Percent.inFragment c = false) :
    withTail u (u.withQuery q).tail = u.withQuery q := by
  have hquery : encoded (querySet u.kind) q.toList = q := by
    rw [encoded, encode_eq_self fun c hc => querySet_of_isQueryChar u.kind (hq c hc),
      String.ofList_toList]
  have hmark : ∀ c ∈ q.toList, (c == '#') = false := by
    intro c hc
    rw [beq_eq_false_iff_ne]
    rintro rfl
    exact absurd (hq '#' hc) (by decide)
  have htake : takeTail u.kind ('?' :: (q.toList ++ marked '#' u.fragment)) =
      (some q, u.fragment) := by
    cases hfragment : u.fragment with
    | none =>
      rw [marked, List.append_nil, takeTail, Text.cutAt_of_none hmark]
      exact Prod.ext (congrArg some hquery) rfl
    | some f =>
      have hplain : encoded Percent.inFragment f.toList = f := by
        rw [encoded, encode_eq_self (hf f hfragment), String.ofList_toList]
      rw [marked, takeTail, Text.cutAt_append hmark rfl]
      exact Prod.ext (congrArg some hquery) (congrArg some hplain)
  have htail : (u.withQuery q).tail = '?' :: (q.toList ++ marked '#' u.fragment) := rfl
  rw [htail, withTail, htake]
  rfl

end Harvest.Url
