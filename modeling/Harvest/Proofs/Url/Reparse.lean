import Harvest.Proofs.Url.Hierarchy

/-!
# An address with another query reads back

An address that reads back from its own text does so with any other query that is made of pairs, alone or
against any base (`parseAgainst_withQuery`). What precedes the query is read as before, since the parser
does not look at the tail (`ReadsTail`), and the base does not matter since the text has a scheme and,
where the scheme requires a host, two slashes.
-/

namespace Harvest.Url

/-! ## Schemes -/

/-- A scheme as it is read: a letter, then letters, digits and a few marks, all in lower case. -/
structure IsScheme (scheme : String) : Prop where
  first : ∃ c more, scheme.toList = c :: more ∧ isLetter c = true
  chars : ∀ c ∈ scheme.toList, isSchemeChar c = true
  lower : ∀ c ∈ scheme.toList, Text.Casing.asciiLower c = c

theorem isSchemeChar_lt {c : Char} (h : isSchemeChar c = true) : c.toNat < 128 := by
  simp only [isSchemeChar, isLetter, Bool.or_eq_true, Bool.and_eq_true, decide_eq_true_eq,
    beq_iff_eq] at h
  rcases h with ((((h | h) | h) | rfl) | rfl) | rfl
  · exact Nat.lt_of_le_of_lt h.2 (by decide)
  · exact Nat.lt_of_le_of_lt h.2 (by decide)
  · have := (Number.isDigit_iff.1 h).2
    omega
  all_goals decide

theorem isVisible_of_isSchemeChar {c : Char} (h : isSchemeChar c = true) : IsVisible c := by
  have hall : ∀ n < 128, isSchemeChar (Char.ofNat n) = true →
      0x20 < (Char.ofNat n).toNat ∧ (Char.ofNat n).toNat < 0x7F := by
    decide
  have := hall c.toNat (isSchemeChar_lt h)
  rw [Char.ofNat_toNat] at this
  exact this h

theorem asciiLower_spec {c : Char} (h : isSchemeChar c = true) :
    isSchemeChar (Text.Casing.asciiLower c) = true ∧
      Text.Casing.asciiLower (Text.Casing.asciiLower c) = Text.Casing.asciiLower c ∧
      (isLetter c = true → isLetter (Text.Casing.asciiLower c) = true) := by
  have hall : ∀ n < 128, isSchemeChar (Char.ofNat n) = true →
      isSchemeChar (Text.Casing.asciiLower (Char.ofNat n)) = true ∧
        Text.Casing.asciiLower (Text.Casing.asciiLower (Char.ofNat n)) =
          Text.Casing.asciiLower (Char.ofNat n) ∧
        (isLetter (Char.ofNat n) = true →
          isLetter (Text.Casing.asciiLower (Char.ofNat n)) = true) := by
    decide
  have := hall c.toNat (isSchemeChar_lt h)
  rw [Char.ofNat_toNat] at this
  exact this h

theorem isScheme_of_takeScheme? {cs rest : List Char} {scheme : String}
    (h : takeScheme? cs = some (scheme, rest)) :
    IsScheme scheme ∧ ∃ before, cs = before ++ ':' :: rest := by
  unfold takeScheme? at h
  split at h
  · cases h
  · rename_i c more
    split at h
    · rename_i hletter
      have hc : isSchemeChar c = true := by simp [isSchemeChar, hletter]
      split at h
      · rename_i hrest
        cases h
        have hchars : ∀ d ∈ (c :: more).takeWhile isSchemeChar, isSchemeChar d = true :=
          List.all_eq_true.1 List.all_takeWhile
        refine ⟨⟨?_, ?_, ?_⟩, (c :: more).takeWhile isSchemeChar, ?_⟩
        · rw [List.takeWhile_cons_of_pos hc, String.toList_ofList]
          exact ⟨_, _, rfl, (asciiLower_spec hc).2.2 hletter⟩
        · intro d hd
          rw [String.toList_ofList] at hd
          obtain ⟨e, he, rfl⟩ := List.mem_map.1 hd
          exact (asciiLower_spec (hchars e he)).1
        · intro d hd
          rw [String.toList_ofList] at hd
          obtain ⟨e, he, rfl⟩ := List.mem_map.1 hd
          exact (asciiLower_spec (hchars e he)).2.1
        · rw [← hrest, List.takeWhile_append_dropWhile]
      · cases h
    · cases h

theorem takeScheme?_of_isScheme {scheme : String} (h : IsScheme scheme) (rest : List Char) :
    takeScheme? (scheme.toList ++ ':' :: rest) = some (scheme, rest) := by
  obtain ⟨c, more, hfirst, hletter⟩ := h.first
  have hcolon : isSchemeChar ':' = false := by decide
  have hdrop : (scheme.toList ++ ':' :: rest).dropWhile isSchemeChar = ':' :: rest := by
    rw [List.dropWhile_append_of_pos h.chars]
    exact List.dropWhile_cons_of_neg (by simp [hcolon])
  have htake : (scheme.toList ++ ':' :: rest).takeWhile isSchemeChar = scheme.toList := by
    rw [List.takeWhile_append_of_pos h.chars, List.takeWhile_cons_of_neg (by simp [hcolon]),
      List.append_nil]
  have hlower : scheme.toList.map Text.Casing.asciiLower = scheme.toList :=
    (List.map_congr_left h.lower).trans (List.map_id' _)
  have htext : String.ofList (scheme.toList.map Text.Casing.asciiLower) = scheme := by
    rw [hlower, String.ofList_toList]
  rw [← htake] at htext
  rw [hfirst, List.cons_append] at hdrop htext ⊢
  simp only [takeScheme?, hletter, if_true, hdrop, htext]

/-! ## The characters that count -/

theorem isEdge_of_isBreak {c : Char} (h : isBreak c = true) : isEdge c = true := by
  simp only [isBreak, Bool.or_eq_true, beq_iff_eq] at h
  rcases h with (rfl | rfl) | rfl <;> rfl

theorem not_isBreak {c : Char} (h : isEdge c = false) : (!isBreak c) = true := by
  cases hbreak : isBreak c with
  | false => rfl
  | true => rw [isEdge_of_isBreak hbreak] at h; cases h

/-- What counts of a text does not end with a blank. -/
theorem significant_last (s : String) : ∀ c ∈ (significant s).getLast?, isEdge c = false := by
  intro c hc
  rw [significant, Text.trimWhere, ← List.head?_reverse, ← List.filter_reverse,
    List.reverse_reverse] at hc
  have hfirst := List.head?_dropWhile_not isEdge (s.toList.dropWhile isEdge).reverse
  cases hkept : (s.toList.dropWhile isEdge).reverse.dropWhile isEdge with
  | nil => rw [hkept] at hc; cases hc
  | cons d more =>
    rw [hkept] at hc hfirst
    have hd : isEdge d = false := by simpa using hfirst
    rw [List.filter_cons_of_pos (p := fun c => !isBreak c) (not_isBreak hd)] at hc
    cases hc
    exact hd

theorem getLast?_toText {u : Url} (h : u.tail ≠ []) :
    u.toText.toList.getLast? = u.tail.getLast? := by
  rw [toList_toText, List.getLast?_append_of_ne_nil _ (List.cons_ne_nil ':' _), ← List.cons_append,
    List.getLast?_append_of_ne_nil _ h]

/-- The text of an address that was read does not end with a blank. -/
theorem last_toText {u : Url} (htail : ∀ c ∈ u.tail, IsVisible c)
    (hlast : u.tail = [] → ∀ c ∈ u.hierarchy.getLast?, isEdge c = false) :
    ∀ c ∈ u.toText.toList.getLast?, isEdge c = false := by
  intro c hc
  by_cases hempty : u.tail = []
  · rw [toList_toText, hempty, List.append_nil,
      List.getLast?_append_of_ne_nil _ (List.cons_ne_nil ':' _), ← List.singleton_append] at hc
    by_cases hhierarchy : u.hierarchy = []
    · rw [hhierarchy] at hc
      cases hc
      decide
    · rw [List.getLast?_append_of_ne_nil _ hhierarchy] at hc
      exact hlast hempty c hc
  · rw [getLast?_toText hempty] at hc
    exact isEdge_of_isVisible (htail c (List.mem_of_mem_getLast? hc))

theorem head_toText {u : Url} (hscheme : IsScheme u.scheme) :
    ∀ c ∈ u.toText.toList.head?, IsVisible c := by
  obtain ⟨c, more, hc, -⟩ := hscheme.first
  rw [toList_toText, hc]
  rintro _ ⟨⟩
  exact isVisible_of_isSchemeChar (hscheme.chars c (by rw [hc]; exact List.mem_cons_self ..))

/-- What is read of the hierarchy of an address. -/
def kept (u : Url) : List Char :=
  u.hierarchy.filter fun c => !isBreak c

/-- Only tabs and line ends in its hierarchy do not count in the text of an address. -/
theorem significant_toText {u : Url} (hscheme : IsScheme u.scheme) (htail : ∀ c ∈ u.tail, IsVisible c)
    (hlast : u.tail = [] → ∀ c ∈ u.hierarchy.getLast?, isEdge c = false) :
    significant u.toText = u.scheme.toList ++ ':' :: (u.kept ++ u.tail) := by
  have hkept : ∀ cs, Firm cs → cs.filter (fun c => !isBreak c) = cs := fun cs h =>
    List.filter_eq_self.2 fun c hc => not_isBreak (h c hc)
  have hfirst : ∀ c ∈ u.toText.toList.head?, isEdge c = false := fun c hc =>
    isEdge_of_isVisible (head_toText hscheme c hc)
  have hfirm : Firm u.scheme.toList := fun c hc =>
    isEdge_of_isVisible (isVisible_of_isSchemeChar (hscheme.chars c hc))
  have hend : Firm u.tail := fun c hc => isEdge_of_isVisible (htail c hc)
  rw [significant, Text.trimWhere_eq_self hfirst (last_toText htail hlast), toList_toText,
    List.filter_append, hkept _ hfirm, List.filter_cons_of_pos (by decide), List.filter_append,
    hkept _ hend, kept]

/-! ## Reading with another tail -/

theorem IsTail.append {cs ds : List Char} (hcs : IsTail cs) (hds : IsTail ds) : IsTail (cs ++ ds) := by
  cases cs with
  | nil => exact hds
  | cons c cs => exact hcs

/-- An address whose tail is all that was read at the end is read alike with another tail. -/
theorem ReadsTail.resume {read : List Char → Except Fault Url} {R : List Char} {u : Url}
    (h : ReadsTail read R u.tail u) {T : List Char} (hT : IsTail T) :
    read (R ++ T) = .ok (withTail u T) := by
  obtain ⟨u₀, rest, hrest, hu, hread⟩ := h
  -- nothing of a tail is lost, so that the tail of the address was all there was to read
  have hlength := length_le_tail u₀ (hrest.append (isTail_tail u))
  rw [← hu, List.length_append] at hlength
  obtain rfl : rest = [] := List.eq_nil_of_length_eq_zero (by omega)
  rw [hread T hT, List.nil_append]
  rw [List.nil_append] at hu
  rw [hu]
  rfl

theorem takeUserInfo_at (kind : SchemeKind) {T : List Char} (hT : IsTail T) :
    takeUserInfo kind ('@' :: T) =
      if T.isEmpty then .ok ("", "", []) else .error .emptyHost := by
  have hstop : ∀ c, endsPath c = true → (!(separates kind c || endsPath c)) = false := by
    intro c h
    simp [h]
  have hat : (!(separates kind '@' || endsPath '@')) = true := by
    cases kind <;> rfl
  have htake : ('@' :: T).takeWhile (fun c => !(separates kind c || endsPath c)) = ['@'] := by
    rw [List.takeWhile_cons, hat, ← List.nil_append T, takeWhile_tail hstop hT]
    rfl
  have hdrop : ('@' :: T).dropWhile (fun c => !(separates kind c || endsPath c)) = T := by
    rw [List.dropWhile_cons, hat, ← List.nil_append T, dropWhile_tail hstop hT]
    rfl
  simp only [takeUserInfo, htake, hdrop]
  cases T <;> rfl

/-- A bare `@` stands for no host where one is required, and else for an empty one. -/
theorem parseAuthority_at {scheme : String} {T : List Char} {u : Url} (hT : IsTail T)
    (h : parseAuthority scheme ('@' :: T) = .ok u) :
    (SchemeKind.of scheme).isSpecial = false ∧ u.hierarchy = ['/', '/'] := by
  obtain ⟨name, password, afterInfo, host, port, afterHost, hinfo, hhost, -, rfl⟩ :=
    parseAuthority_eq_ok_iff.1 h
  rw [takeUserInfo_at _ hT] at hinfo
  split at hinfo
  · cases hinfo
    rw [takeHostAndPort_eq, splitHost, hostOf] at hhost
    cases hkind : (SchemeKind.of scheme).isSpecial with
    | true =>
      rw [hkind] at hhost
      cases hhost
    | false =>
      rw [hkind] at hhost
      cases hhost
      refine ⟨rfl, ?_⟩
      simp [takePathAfterHost, hkind, hierarchy, authority, withTail, takeTail, userInfo, Host.toText,
        encoded, Percent.encode, segmentPath, Path.toText]
  · cases hinfo

/-- A hierarchy with a host begins with two slashes. -/
theorem hierarchy_of_host {u : Url} (h : u.host.isSome = true) :
    ∃ more, u.hierarchy = '/' :: '/' :: more := by
  obtain ⟨host, hhost⟩ := Option.isSome_iff_exists.1 h
  simp [hierarchy, authority, hhost]

/-! ## Addresses that read back -/

theorem parse_inv {s : String} {u : Url} (h : parse s = .ok u) :
    ∃ rest, takeScheme? (significant s) = some (u.scheme, rest) ∧
      parseWithScheme none u.scheme rest = .ok u ∧ IsScheme u.scheme ∧ WasReadFrom u.scheme u := by
  rw [parse, parseAgainst] at h
  split at h
  · rename_i scheme rest htake
    obtain ⟨hscheme, before, hsplit⟩ := isScheme_of_takeScheme? htake
    have hlast : ∀ c ∈ rest.getLast?, isEdge c = false := by
      intro c hc
      refine significant_last s c ?_
      have hne : rest ≠ [] := by
        rintro rfl
        cases hc
      rw [hsplit, List.append_cons, List.getLast?_append_of_ne_nil _ hne]
      exact hc
    have hread := parseWithScheme_read hlast h
    obtain rfl := hread.scheme_eq
    exact ⟨rest, htake, h, hscheme, hread⟩
  · cases h

/-- An address that reads back does so from what is kept of its hierarchy, and its tail. -/
theorem parseWithScheme_kept {u : Url} (h : parse u.toText = .ok u) :
    parseWithScheme none u.scheme (u.kept ++ u.tail) = .ok u := by
  obtain ⟨rest, htake, hread, hscheme, hu⟩ := parse_inv h
  obtain ⟨u₀, tail, htail, hu₀⟩ := hu.tail_read
  have hvisible : ∀ c ∈ u.tail, IsVisible c := by
    rw [hu₀]
    exact isVisible_of_mem_tail u₀ htail
  rw [significant_toText hscheme hvisible hu.last, takeScheme?_of_isScheme hscheme] at htake
  cases htake
  exact hread

theorem kept_of_host {u : Url} (h : u.host.isSome = true) : ∃ more, u.kept = '/' :: '/' :: more := by
  obtain ⟨more, hmore⟩ := hierarchy_of_host h
  exact ⟨more.filter fun c => !isBreak c, by rw [kept, hmore]; rfl⟩

/-- An address that reads back does so with another tail, whatever the base. -/
theorem parseWithScheme_resume {u : Url} (h : parse u.toText = .ok u) (base : Option Url)
    {T : List Char} (hT : IsTail T) :
    parseWithScheme base u.scheme (u.kept ++ T) = .ok (withTail u T) := by
  obtain ⟨-, -, -, -, hu⟩ := parse_inv h
  have hread := parseWithScheme_kept h
  have hslash : ∀ c, endsPath c = true → isSlash c = false := by
    intro c hc
    rcases endsPath_cases hc with rfl | rfl <;> rfl
  unfold parseWithScheme at hread ⊢
  cases hkind : SchemeKind.of u.scheme with
  | file =>
    rw [hkind] at hread
    obtain ⟨more, hmore⟩ := kept_of_host (hu.host (by rw [hkind]; rfl))
    rw [hmore] at hread ⊢
    exact (parseFileHost_tail (isTail_tail u) hread).resume hT
  | special =>
    rw [hkind] at hread
    obtain ⟨more, hmore⟩ := kept_of_host (hu.host (by rw [hkind]; rfl))
    have hslashes : ¬ ((u.kept ++ T).takeWhile isSlash).length < 2 := by
      rw [hmore]
      simp [isSlash]
    have hauthority : parseAuthority u.scheme ((u.kept ++ T).dropWhile isSlash) = .ok (withTail u T) := by
      simp only [dropWhile_tail hslash (isTail_tail u)] at hread
      rw [dropWhile_tail hslash hT]
      refine (parseAuthority_tail ?_ (isTail_tail u) hread).resume hT
      -- a bare mark is no host, which the scheme requires
      intro hat
      rw [hat] at hread
      have := (parseAuthority_at (isTail_tail u) hread).1
      rw [hkind] at this
      cases this
    cases base with
    | none => exact hauthority
    | some b => simpa [hslashes] using hauthority
  | other =>
    rw [hkind] at hread
    refine (parseOther_tail ?_ (isTail_tail u) hread).resume hT
    -- a bare mark would have been forgotten, but it is still there
    intro hat
    rw [hat] at hread
    have hempty := (parseAuthority_at (isTail_tail u) hread).2
    rw [kept, hempty] at hat
    cases hat

/-- The tail of an address that reads back is made of visible characters when its query is replaced. -/
theorem isVisible_of_mem_withQuery {u : Url} (hu : WasRead u.scheme u) {q : String}
    (hq : ∀ c ∈ q.toList, isQueryChar c = true) :
    ∀ c ∈ (u.withQuery q).tail, IsVisible c := by
  have htail : (u.withQuery q).tail = '?' :: (q.toList ++ marked '#' u.fragment) := rfl
  rw [htail]
  refine List.forall_mem_cons.2 ⟨⟨by decide, by decide⟩, ?_⟩
  refine List.forall_mem_append.2 ⟨fun c hc => isQueryChar_range (hq c hc), ?_⟩
  cases hfragment : u.fragment with
  | none => rintro c ⟨⟩
  | some f =>
    exact List.forall_mem_cons.2 ⟨⟨by decide, by decide⟩,
      fun c hc => isVisible_of_inFragment (hu.fragment_plain f hfragment c hc)⟩

/-- An address that reads back from its text does so with any query of pairs, against any base. -/
theorem parseAgainst_withQuery {u : Url} (h : parse u.toText = .ok u) {q : String}
    (hq : ∀ c ∈ q.toList, isQueryChar c = true) (base : Option Url) :
    parseAgainst base (u.withQuery q).toText = .ok (u.withQuery q) := by
  obtain ⟨-, -, -, hscheme, hu⟩ := parse_inv h
  have hlast : (u.withQuery q).tail = [] →
      ∀ c ∈ (u.withQuery q).hierarchy.getLast?, isEdge c = false := by
    rintro ⟨⟩
  have hsignificant : significant (u.withQuery q).toText =
      u.scheme.toList ++ ':' :: (u.kept ++ (u.withQuery q).tail) :=
    significant_toText (u := u.withQuery q) hscheme
      (isVisible_of_mem_withQuery hu.toWasRead hq) hlast
  simp only [parseAgainst, hsignificant, takeScheme?_of_isScheme hscheme]
  rw [parseWithScheme_resume h base (isTail_tail _), withTail_query hq hu.fragment_plain]

/-- So it does with any parameters set. -/
theorem parseAgainst_setParams {u : Url} (h : parse u.toText = .ok u) (new : List Pair)
    (base : Option Url) : parseAgainst base (u.setParams new).toText = .ok (u.setParams new) :=
  parseAgainst_withQuery h (fun _ => isQueryChar_of_mem) base

/-- The text of such an address has no white space at its ends. -/
theorem trim_withQuery {u : Url} (h : parse u.toText = .ok u) {q : String}
    (hq : ∀ c ∈ q.toList, isQueryChar c = true) :
    Text.trim (u.withQuery q).toText = (u.withQuery q).toText := by
  obtain ⟨-, -, -, hscheme, hu⟩ := parse_inv h
  have hfirst : ∀ c ∈ (u.withQuery q).toText.toList.head?, Text.isBlank c = false := fun c hc =>
    isBlank_of_isVisible (head_toText (u := u.withQuery q) hscheme c hc)
  have hlast : ∀ c ∈ (u.withQuery q).toText.toList.getLast?, Text.isBlank c = false := by
    intro c hc
    rw [getLast?_toText (u := u.withQuery q) (List.cons_ne_nil '?' _)] at hc
    exact isBlank_of_isVisible
      (isVisible_of_mem_withQuery hu.toWasRead hq c (List.mem_of_mem_getLast? hc))
  rw [Text.trim, Text.trimChars, Text.trimWhere_eq_self hfirst hlast, String.ofList_toList]

end Harvest.Url
