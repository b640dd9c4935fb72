import Harvest.Proofs.Number.Decimal
import Harvest.Proofs.Url.Written
import Mathlib.Data.List.Basic

/-!
# No blanks in a hierarchy

Spaces and control characters are encoded in user names and paths and are refused in hosts, so that none
stands in the authority or the path of an address that has segments (`firm_parseAuthority`,
`firm_parseFile`). An opaque path may hold spaces, but what it was read from does not end with one.
-/

namespace Harvest.Url

/-- No character is a space or a control character. -/
def Firm (cs : List Char) : Prop :=
  ∀ c ∈ cs, isEdge c = false

instance (cs : List Char) : Decidable (Firm cs) :=
  List.decidableBAll (fun c => isEdge c = false) cs

theorem firm_nil : Firm [] := by
  rintro c ⟨⟩

theorem firm_append {cs ds : List Char} : Firm (cs ++ ds) ↔ Firm cs ∧ Firm ds := by
  simp only [Firm, List.forall_mem_append]

theorem firm_cons {c : Char} {cs : List Char} : Firm (c :: cs) ↔ isEdge c = false ∧ Firm cs := by
  simp only [Firm, List.forall_mem_cons]

theorem isEdge_of_isVisible {c : Char} (h : IsVisible c) : isEdge c = false := by
  have := h.1
  simp [isEdge]
  omega

theorem isEdge_of_isDigit {c : Char} (h : Number.isDigit c = true) : isEdge c = false := by
  have := (Number.isDigit_iff.1 h).1
  simp [isEdge]
  omega

theorem firm_digits (n : Nat) : Firm (Number.digits n) := fun _ h =>
  isEdge_of_isDigit (Number.isDigit_of_mem_digits h)

/-- A set that holds spaces and control characters leaves none of them. -/
theorem firm_encode {set : Char → Bool} (hset : ∀ c, isEdge c = true → set c = true)
    (cs : List Char) : Firm (Percent.encode set cs) := by
  intro c hc
  rcases mem_encode hc with h | ⟨-, h⟩
  · exact isEdge_of_isVisible (isComponentChar_range h)
  · cases hedge : isEdge c with
    | false => rfl
    | true => rw [hset c hedge] at h; cases h

theorem inPath_of_isEdge {c : Char} (h : isEdge c = true) : Percent.inPath c = true := by
  have hfragment : Percent.inFragment c = true := by
    cases hin : Percent.inFragment c with
    | true => rfl
    | false => rw [isEdge_of_isVisible (isVisible_of_inFragment hin)] at h; cases h
  simp [Percent.inPath, hfragment]

theorem inUserInfo_of_isEdge {c : Char} (h : isEdge c = true) : Percent.inUserInfo c = true := by
  simp [Percent.inUserInfo, inPath_of_isEdge h]

/-! ## Paths -/

theorem firm_dropLast {above : List (List Char)} (h : ∀ s ∈ above, Firm s) :
    ∀ s ∈ dropLast above, Firm s := by
  cases above with
  | nil => exact h
  | cons first above =>
    simp only [dropLast]
    split
    · exact h
    · exact fun s hs => h s (List.mem_cons_of_mem _ hs)

theorem firm_addSegments {kind : SchemeKind} {above more : List (List Char)}
    (h : ∀ s ∈ above, Firm s) : ∀ s ∈ addSegments kind above more, Firm s := by
  induction more generalizing above with
  | nil => exact h
  | cons text more ih =>
    have hpush : ∀ (s : List Char) (ss : List (List Char)), Firm s → (∀ s ∈ ss, Firm s) →
        ∀ t ∈ s :: ss, Firm t := fun s ss hs hss => List.forall_mem_cons.2 ⟨hs, hss⟩
    have henc : Firm (Percent.encode Percent.inPath text) := firm_encode (fun _ => inPath_of_isEdge) text
    refine ih ?_
    split
    · split
      · exact hpush _ _ firm_nil (firm_dropLast h)
      · exact firm_dropLast h
    · split
      · split
        · exact hpush _ _ firm_nil h
        · exact h
      · split
        · rename_i a hpair
          have ha : isEdge a = false := henc a (by rw [hpair]; exact List.mem_cons_self ..)
          split
          · exact hpush _ _ (firm_cons.2 ⟨ha, firm_cons.2 ⟨by decide, firm_nil⟩⟩) h
          · exact hpush _ _ henc h
        · exact hpush _ _ henc h

theorem firm_takePath {kind : SchemeKind} {above : List (List Char)} (h : ∀ s ∈ above, Firm s)
    (cs : List Char) : ∀ s ∈ (takePath kind above cs).1, Firm s := by
  have hadd : ∀ s ∈ (addSegments kind above
      (Text.splitWhere (separates kind) (cs.takeWhile fun c => !endsPath c))).reverse, Firm s :=
    fun s hs => firm_addSegments h s (List.mem_reverse.1 hs)
  unfold takePath
  simp only
  split
  · simp only
    split
    · exact List.forall_mem_singleton.2 firm_nil
    · exact fun s hs => hadd s ((List.dropWhile_suffix _).subset hs)
  · exact hadd

theorem firm_takePathAfterHost (kind : SchemeKind) (cs : List Char) :
    ∀ s ∈ (takePathAfterHost kind cs).1, Firm s := by
  have hpath : ∀ cs, ∀ s ∈ (takePath kind [] cs).1, Firm s := firm_takePath (by rintro s ⟨⟩)
  cases cs with
  | nil =>
    simp only [takePathAfterHost]
    split
    · exact hpath []
    · rintro s ⟨⟩
  | cons c cs =>
    simp only [takePathAfterHost]
    split
    · rintro s ⟨⟩
    · exact hpath _

theorem toList_segments (names : List String) :
    (Path.segments names).toText.toList = names.flatMap fun name => '/' :: name.toList := by
  have hfold : ∀ acc : String, (names.foldl (fun acc name => acc ++ "/" ++ name) acc).toList =
      acc.toList ++ names.flatMap fun name => '/' :: name.toList := by
    induction names with
    | nil => intro acc; simp
    | cons name names ih =>
      intro acc
      rw [List.foldl_cons, ih]
      simp
  exact hfold ""

theorem firm_segmentPath {segments : List (List Char)} (h : ∀ s ∈ segments, Firm s) :
    Firm (segmentPath segments).toText.toList := by
  rw [segmentPath, toList_segments]
  intro c hc
  obtain ⟨name, hname, hc⟩ := List.mem_flatMap.1 hc
  obtain ⟨s, hs, rfl⟩ := List.mem_map.1 hname
  rcases List.mem_cons.1 hc with rfl | hc
  · decide
  · rw [String.toList_ofList] at hc
    exact h s hs c hc

/-! ## Hosts -/

theorem firm_intercalate {separator : Char} (hsep : isEdge separator = false)
    {pieces : List (List Char)} (h : ∀ piece ∈ pieces, Firm piece) :
    Firm ([separator].intercalate pieces) := by
  induction pieces with
  | nil => exact firm_nil
  | cons piece pieces ih =>
    have hpiece := h piece (List.mem_cons_self ..)
    have hmore := fun p hp => h p (List.mem_cons_of_mem _ hp)
    cases pieces with
    | nil => simpa using hpiece
    | cons next more =>
      rw [List.intercalate_cons_cons]
      exact firm_append.2 ⟨firm_append.2 ⟨hpiece, firm_cons.2 ⟨hsep, firm_nil⟩⟩, ih hmore⟩

theorem firm_ipv4Chars (address : Nat) : Firm (ipv4Chars address) := by
  refine firm_intercalate (by decide) ?_
  intro piece hpiece
  obtain ⟨n, -, rfl⟩ := List.mem_map.1 hpiece
  exact firm_digits n

theorem firm_hexDigits (n : Nat) : Firm (hexDigits n) := by
  have hdigit : ∀ d < 16, isEdge (Char.ofNat (if d < 10 then 48 + d else 87 + d)) = false := by
    decide
  intro c hc
  rcases List.mem_append.1 hc with hc | hc
  · obtain ⟨d, hd, rfl⟩ := List.mem_map.1 hc
    have hd := (List.dropWhile_suffix _).subset hd
    simp only [List.mem_cons, List.not_mem_nil, or_false] at hd
    refine hdigit d ?_
    omega
  · rw [List.mem_singleton.1 hc]
    exact hdigit (n % 16) (Nat.mod_lt n (by decide))

theorem firm_joinPieces (pieces : List Nat) : Firm (joinPieces pieces) := by
  refine firm_intercalate (by decide) ?_
  intro piece hpiece
  obtain ⟨n, -, rfl⟩ := List.mem_map.1 hpiece
  exact firm_hexDigits n

theorem firm_ipv6Chars (pieces : List Nat) : Firm (ipv6Chars pieces) := by
  unfold ipv6Chars
  simp only
  split
  · exact firm_joinPieces pieces
  · exact firm_append.2 ⟨firm_append.2 ⟨firm_joinPieces _,
      firm_cons.2 ⟨by decide, firm_cons.2 ⟨by decide, firm_nil⟩⟩⟩, firm_joinPieces _⟩

/-- The host holds no space and no control character. -/
def FirmHost (host : Host) : Prop :=
  Firm host.toText.toList

theorem firm_ipv4 (address : Nat) : FirmHost (.ipv4 address) := by
  rw [FirmHost, Host.toText, String.toList_ofList]
  exact firm_ipv4Chars address

theorem firm_ipv6 (pieces : List Nat) : FirmHost (.ipv6 pieces) := by
  rw [FirmHost, Host.toText, String.toList_ofList]
  exact firm_cons.2 ⟨by decide,
    firm_append.2 ⟨firm_ipv6Chars pieces, firm_cons.2 ⟨by decide, firm_nil⟩⟩⟩

theorem firm_toAscii? {bytes : List UInt8} {name : List Char}
    (h : Domain.toAscii? bytes = some name) : Firm name := by
  have hallowed : ∀ read : List Char,
      (if read.any Domain.isForbidden then none else some read) = some name → Firm name := by
    intro read h
    split at h
    · cases h
    · rename_i hforbidden
      cases h
      intro c hc
      cases hedge : isEdge c with
      | false => rfl
      | true =>
        have hc' : Domain.isForbidden c = true := by
          simp [Domain.isForbidden, show c.toNat ≤ 0x20 by simpa [isEdge] using hedge]
        exact absurd (List.any_eq_true.2 ⟨c, hc, hc'⟩) hforbidden
  unfold Domain.toAscii? at h
  obtain ⟨cs, -, h⟩ := Option.bind_eq_some_iff.1 h
  simp only at h
  split at h
  · exact hallowed _ h
  · obtain ⟨read, -, h⟩ := Option.bind_eq_some_iff.1 h
    exact hallowed read h

theorem firm_parseHost {cs : List Char} {host : Host} (h : parseHost cs = .ok host) :
    FirmHost host := by
  unfold parseHost at h
  split at h
  · split at h
    · split at h
      · cases h
        exact firm_ipv6 _
      · cases h
    · cases h
  · split at h
    · cases h
    · cases h
    · rename_i name _ hname
      split at h
      · split at h
        · cases h
          exact firm_ipv4 _
        · cases h
      · cases h
        rw [FirmHost, Host.toText, String.toList_ofList]
        exact firm_toAscii? hname

theorem firm_parseOpaqueHost {cs : List Char} {host : Host} (h : parseOpaqueHost cs = .ok host) :
    FirmHost host := by
  unfold parseOpaqueHost at h
  split at h
  · exact firm_parseHost h
  · split at h
    · cases h
    · rename_i hforbidden
      cases h
      rw [FirmHost, Host.toText, encoded, String.toList_ofList]
      intro c hc
      rcases mem_encode hc with hc | ⟨hmem, hcontrol⟩
      · exact isEdge_of_isVisible (isComponentChar_range hc)
      · have hspace : c ≠ ' ' := by
          rintro rfl
          exact hforbidden (List.any_eq_true.2 ⟨' ', hmem, rfl⟩)
        have hcode : c.toNat ≠ 0x20 := fun heq => hspace (Char.toNat_inj.1 heq)
        simp only [Percent.isControl, Bool.or_eq_false_iff, decide_eq_false_iff_not] at hcontrol
        simp only [isEdge, decide_eq_false_iff_not]
        omega

/-! ## Addresses -/

theorem firm_hierarchy {u : Url} (hname : Firm u.username.toList) (hpassword : Firm u.password.toList)
    (hhost : ∀ host ∈ u.host, FirmHost host) (hpath : Firm u.path.toText.toList) :
    Firm u.hierarchy := by
  have hinfo : Firm u.userInfo.toList := by
    unfold userInfo
    split
    · exact firm_nil
    · split
      · rw [String.toList_append]
        exact firm_append.2 ⟨hname, by decide⟩
      · simp only [String.toList_append]
        exact firm_append.2 ⟨firm_append.2 ⟨firm_append.2 ⟨hname, by decide⟩, hpassword⟩, by decide⟩
  have hauthority : Firm u.authority.toList := by
    unfold authority
    split
    · rename_i host heq
      have hhost : Firm host.toText.toList := hhost host heq
      simp only [String.toList_append]
      refine firm_append.2 ⟨firm_append.2 ⟨firm_append.2 ⟨by decide, hinfo⟩, hhost⟩, ?_⟩
      cases u.port with
      | none => exact firm_nil
      | some p =>
        simp only [String.toList_append, Number.ofNat, String.toList_ofList]
        exact firm_append.2 ⟨by decide, firm_digits p⟩
    · split
      · decide
      · exact firm_nil
  rw [hierarchy, String.toList_append]
  exact firm_append.2 ⟨hauthority, hpath⟩

/-- An address that was read under a scheme: its tail was read at the end. -/
structure WasRead (scheme : String) (u : Url) : Prop where
  scheme_eq : u.scheme = scheme
  tail_read : ∃ u₀ rest, IsTail rest ∧ u = withTail u₀ rest

/-- A fragment that was read is encoded. -/
theorem WasRead.fragment_plain {scheme : String} {u : Url} (h : WasRead scheme u) :
    ∀ f, u.fragment = some f → ∀ c ∈ f.toList, Percent.inFragment c = false := by
  obtain ⟨u₀, rest, hrest, hu⟩ := h.tail_read
  rw [hu]
  exact Url.fragment_plain u₀ hrest

/-- An address with a host that was read. -/
structure WasReadWithHost (scheme : String) (u : Url) : Prop extends WasRead scheme u where
  host : u.host.isSome = true
  firm : Firm u.hierarchy

theorem firm_takeUserInfo {kind : SchemeKind} {cs rest : List Char} {name password : String}
    (h : takeUserInfo kind cs = .ok (name, password, rest)) :
    Firm name.toList ∧ Firm password.toList := by
  have hencoded : ∀ part : List Char, Firm (encoded Percent.inUserInfo part).toList := by
    intro part
    rw [encoded, String.toList_ofList]
    exact firm_encode (fun _ => inUserInfo_of_isEdge) part
  unfold takeUserInfo at h
  simp only at h
  split at h
  · cases h
    exact ⟨firm_nil, firm_nil⟩
  · split at h
    · split at h
      · cases h
      · cases h
        exact ⟨firm_nil, firm_nil⟩
    · cases h
      exact ⟨hencoded _, hencoded _⟩

theorem firm_takeHostAndPort {kind : SchemeKind} {scheme : String} {cs rest : List Char} {host : Host}
    {port : Option Nat} (h : takeHostAndPort kind scheme cs = .ok (host, port, rest)) :
    FirmHost host := by
  rw [takeHostAndPort_eq] at h
  cases hhost : hostOf kind (splitHost kind false cs).1 with
  | error e => rw [hhost] at h; cases h
  | ok found =>
    have hfound : FirmHost found := by
      unfold hostOf at hhost
      split at hhost
      · cases hhost
      · split at hhost
        · exact firm_parseHost hhost
        · exact firm_parseOpaqueHost hhost
    rw [hhost] at h
    change portAfter scheme found _ = _ at h
    unfold portAfter at h
    split at h
    · split at h
      · cases h
      · rename_i more _ _
        cases hport : takePort scheme more with
        | error e => rw [hport] at h; cases h
        | ok taken => rw [hport] at h; cases h; exact hfound
    · cases h
      exact hfound

theorem parseAuthority_read {scheme : String} {cs : List Char} {u : Url}
    (h : parseAuthority scheme cs = .ok u) : WasReadWithHost scheme u := by
  obtain ⟨name, password, afterInfo, host, port, afterHost, hinfo, hhost, -, rfl⟩ :=
    parseAuthority_eq_ok_iff.1 h
  obtain ⟨hname, hpassword⟩ := firm_takeUserInfo hinfo
  refine ⟨⟨rfl, _, _, takePathAfterHost_isTail _ _, rfl⟩, rfl, ?_⟩
  refine firm_hierarchy (u := withTail _ _) hname hpassword ?_ ?_
  · rintro host ⟨⟩
    exact firm_takeHostAndPort hhost
  · exact firm_segmentPath (firm_takePathAfterHost _ _)

theorem fileUrl_read {host : Host} (hhost : FirmHost host) {path : List (List Char)}
    (hpath : ∀ s ∈ path, Firm s) {rest : List Char} (hrest : IsTail rest) :
    WasReadWithHost "file" (fileUrl host path rest) := by
  refine ⟨⟨rfl, _, rest, hrest, rfl⟩, rfl, ?_⟩
  refine firm_hierarchy (u := fileUrl host path rest) firm_nil firm_nil ?_ (firm_segmentPath hpath)
  rintro host ⟨⟩
  exact hhost

theorem firm_localHost : FirmHost localHost :=
  firm_nil

theorem parseFileHost_read {cs : List Char} {u : Url} (h : parseFileHost cs = .ok u) :
    WasReadWithHost "file" u := by
  unfold parseFileHost at h
  simp only at h
  split at h
  · cases h
    exact fileUrl_read firm_localHost (firm_takePath (by rintro s ⟨⟩) _) (takePath_isTail _ _ _)
  · cases hhost : parseHost (cs.takeWhile fun c => !(isSlash c || endsPath c)) with
    | error e => rw [hhost] at h; cases h
    | ok host =>
      rw [hhost] at h
      cases h
      refine fileUrl_read ?_ (firm_takePathAfterHost _ _) (takePathAfterHost_isTail _ _)
      split
      · exact firm_localHost
      · split
        · exact firm_localHost
        · exact firm_parseHost hhost

theorem parseFile_read {cs : List Char} {u : Url} (h : parseFile none cs = .ok u) :
    WasReadWithHost "file" u := by
  have hpath : ∀ cs, ∀ s ∈ (takePath .file [] cs).1, Firm s := firm_takePath (by rintro s ⟨⟩)
  have hrooted : ∀ cs afterFirst, WasReadWithHost "file" (parseFile.rooted none cs afterFirst) :=
    fun _ _ => fileUrl_read firm_localHost (hpath _) (dropWhile_isTail _)
  unfold parseFile at h
  split at h
  · cases h
    exact fileUrl_read firm_localHost (by decide) isTail_nil
  · split at h
    · split at h
      · split at h
        · exact parseFileHost_read h
        · cases h
          exact hrooted _ _
      · cases h
        exact hrooted _ _
    · cases h
      exact fileUrl_read firm_localHost (hpath _) (dropWhile_isTail _)

/-- An opaque path that was read to the end of a text does not end with a blank if the text does not. -/
theorem last_encode {cs : List Char} (h : ∀ c ∈ cs.getLast?, isEdge c = false) :
    ∀ c ∈ (Percent.encode Percent.isControl cs).getLast?, isEdge c = false := by
  rcases List.eq_nil_or_concat cs with rfl | ⟨before, d, rfl⟩
  · rintro c ⟨⟩
  · have hd : isEdge d = false := h d (by simp)
    have hpiece : Firm (if Percent.isControl d then Percent.encodeWhole d else [d]) := by
      split
      · intro c hc
        obtain ⟨b, -, hb⟩ := List.mem_flatMap.1 hc
        exact isEdge_of_isVisible (isComponentChar_range (isComponentChar_of_mem_encodeByte hb))
      · exact firm_cons.2 ⟨hd, firm_nil⟩
    have hne : (if Percent.isControl d then Percent.encodeWhole d else [d]) ≠ [] := by
      intro hnil
      have := length_le_encode Percent.isControl [d]
      rw [Percent.encode, List.flatMap_singleton, hnil] at this
      cases this
    intro c hc
    rw [Percent.encode, List.concat_eq_append, List.flatMap_append, List.flatMap_singleton,
      List.getLast?_append_of_ne_nil _ hne] at hc
    exact hpiece c (List.mem_of_mem_getLast? hc)

/-- What an address is like that was read without a base, from a text that does not end with a blank. -/
structure WasReadFrom (scheme : String) (u : Url) : Prop extends WasRead scheme u where
  host : (SchemeKind.of scheme).isSpecial = true → u.host.isSome = true
  last : u.tail = [] → ∀ c ∈ u.hierarchy.getLast?, isEdge c = false

theorem WasReadWithHost.wasReadFrom {scheme : String} {u : Url} (h : WasReadWithHost scheme u) :
    WasReadFrom scheme u where
  toWasRead := h.toWasRead
  host _ := h.host
  last _ c hc := h.firm c (List.mem_of_mem_getLast? hc)

theorem parseOther_read {scheme : String} {cs : List Char} {u : Url}
    (hkind : SchemeKind.of scheme = .other) (hlast : ∀ c ∈ cs.getLast?, isEdge c = false)
    (h : parseOther scheme cs = .ok u) : WasReadFrom scheme u := by
  have hhost : (SchemeKind.of scheme).isSpecial = true → u.host.isSome = true := by
    rw [hkind]
    rintro ⟨⟩
  by_cases hplain : Slashless cs
  · rw [parseOther_plain scheme hplain] at h
    cases h
    refine ⟨⟨rfl, _, _, dropWhile_isTail cs, rfl⟩, hhost, ?_⟩
    intro htail
    have hrest : cs.dropWhile (fun c => !endsPath c) = [] := by
      have hlength := length_le_tail
        (hostless scheme
          (.opaquePath (encoded Percent.isControl (cs.takeWhile fun c => !endsPath c))))
        (dropWhile_isTail cs)
      rw [htail] at hlength
      exact List.eq_nil_of_length_eq_zero (Nat.le_zero.1 hlength)
    have hall := List.takeWhile_append_dropWhile (p := fun c => !endsPath c) (l := cs)
    rw [hrest, List.append_nil] at hall
    rw [hall]
    have hhierarchy : ∀ (path : String) (rest : List Char),
        (withTail (hostless scheme (.opaquePath path)) rest).hierarchy = path.toList := by
      intro path rest
      rw [hierarchy, String.toList_append]
      rfl
    rw [hhierarchy, encoded, String.toList_ofList]
    exact last_encode hlast
  · obtain ⟨cs, rfl⟩ := exists_of_not_slashless hplain
    by_cases hrooted : Slashless cs
    · rw [parseOther_rooted scheme hrooted] at h
      cases h
      refine ⟨⟨rfl, _, _, takePath_isTail _ _ _, rfl⟩, hhost, fun _ c hc => ?_⟩
      refine firm_hierarchy (u := withTail (hostless _ _) _) firm_nil firm_nil ?_ ?_ c
        (List.mem_of_mem_getLast? hc)
      · rintro host ⟨⟩
      · exact firm_segmentPath (firm_takePath (by rintro s ⟨⟩) _)
    · obtain ⟨cs, rfl⟩ := exists_of_not_slashless hrooted
      exact (parseAuthority_read h).wasReadFrom

theorem parseWithScheme_read {scheme : String} {cs : List Char} {u : Url}
    (hlast : ∀ c ∈ cs.getLast?, isEdge c = false) (h : parseWithScheme none scheme cs = .ok u) :
    WasReadFrom scheme u := by
  unfold parseWithScheme at h
  cases hkind : SchemeKind.of scheme with
  | file =>
    have hscheme : scheme = "file" := by
      unfold SchemeKind.of at hkind
      split at hkind
      · assumption
      · split at hkind <;> cases hkind
    rw [hkind] at h
    rw [hscheme]
    exact (parseFile_read h).wasReadFrom
  | special =>
    rw [hkind] at h
    exact (parseAuthority_read h).wasReadFrom
  | other =>
    rw [hkind] at h
    exact parseOther_read hkind hlast h

end Harvest.Url
