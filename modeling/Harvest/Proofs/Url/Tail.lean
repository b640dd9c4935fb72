import Harvest.Url.Parser
import Harvest.Proofs.Url.Query

/-!
# Queries and fragments do not matter to what precedes them

What follows the path of an address, from the first `?` or `#` on, is put aside by every part of the
parser: each of them does the same with another tail (`takePath_tail`, `takeHostAndPort_tail`, …), and
only at the end is the tail made query and fragment of the address. Hence addresses that differ in their
tails only are read alike (`parseAuthority_tail`, `parseFileHost_tail`, `parseOther_tail`).
-/

namespace Harvest.Url

/-- A text that is empty or begins with the mark of a query or a fragment. -/
def IsTail (cs : List Char) : Prop :=
  ∀ c ∈ cs.head?, endsPath c = true

theorem isTail_nil : IsTail [] := by
  rintro c ⟨⟩

section tails
variable {R T : List Char}

theorem takeWhile_tail {p : Char → Bool} (hp : ∀ c, endsPath c = true → p c = false)
    (hT : IsTail T) : (R ++ T).takeWhile p = R.takeWhile p := by
  induction R with
  | nil =>
    cases T with
    | nil => rfl
    | cons c T => simp [hp c (hT c rfl)]
  | cons c R ih =>
    rw [List.cons_append, List.takeWhile_cons, List.takeWhile_cons, ih]

theorem dropWhile_tail {p : Char → Bool} (hp : ∀ c, endsPath c = true → p c = false)
    (hT : IsTail T) : (R ++ T).dropWhile p = R.dropWhile p ++ T := by
  induction R with
  | nil =>
    cases T with
    | nil => rfl
    | cons c T => simp [hp c (hT c rfl)]
  | cons c R ih =>
    rw [List.cons_append, List.dropWhile_cons, List.dropWhile_cons, ih]
    split <;> rfl

theorem endsPath_cases {c : Char} (h : endsPath c = true) : c = '?' ∨ c = '#' := by
  simpa [endsPath] using h

theorem separates_of_endsPath (kind : SchemeKind) {c : Char} (h : endsPath c = true) :
    separates kind c = false := by
  rcases endsPath_cases h with rfl | rfl <;> cases kind <;> rfl

/-! ## Paths -/

theorem takePath_tail (kind : SchemeKind) (above : List (List Char)) (hT : IsTail T) :
    takePath kind above (R ++ T) =
      ((takePath kind above R).1, (takePath kind above R).2 ++ T) := by
  have hstop : ∀ c, endsPath c = true → (!endsPath c) = false := by simp
  simp only [takePath, takeWhile_tail hstop hT, dropWhile_tail hstop hT]
  split <;> rfl

theorem passSlash_tail (kind : SchemeKind) (hT : IsTail T) :
    passSlash kind (R ++ T) = passSlash kind R ++ T := by
  cases R with
  | nil =>
    cases T with
    | nil => rfl
    | cons c T => simp [passSlash, separates_of_endsPath kind (hT c rfl)]
  | cons c R =>
    simp only [List.cons_append, passSlash]
    split <;> rfl

theorem takePathAfterHost_tail (kind : SchemeKind) (hT : IsTail T) :
    takePathAfterHost kind (R ++ T) =
      ((takePathAfterHost kind R).1, (takePathAfterHost kind R).2 ++ T) := by
  cases R with
  | nil =>
    cases T with
    | nil => simp
    | cons c T =>
      have hc := hT c rfl
      have hpath := takePath_tail (R := []) kind [] hT
      have hslash : passSlash kind (c :: T) = c :: T := passSlash_tail (R := []) kind hT
      cases hkind : kind.isSpecial with
      | true => simpa [takePathAfterHost, hkind, hslash] using hpath
      | false => simp [takePathAfterHost, hkind, hc]
  | cons c R =>
    have hpath := takePath_tail (R := passSlash kind (c :: R)) kind [] hT
    rw [← passSlash_tail kind hT] at hpath
    simp only [List.cons_append, takePathAfterHost]
    split
    · rfl
    · exact hpath

/-! ## Authorities -/

theorem splitHost_tail (kind : SchemeKind) (bracketed : Bool) (hT : IsTail T) :
    splitHost kind bracketed (R ++ T) =
      ((splitHost kind bracketed R).1, (splitHost kind bracketed R).2 ++ T) := by
  induction R generalizing bracketed with
  | nil =>
    cases T with
    | nil => rfl
    | cons c T => simp [splitHost, hT c rfl]
  | cons c R ih =>
    simp only [List.cons_append, splitHost]
    split
    · rfl
    · rw [ih]

theorem isDigit_of_endsPath {c : Char} (h : endsPath c = true) : Number.isDigit c = false := by
  rcases endsPath_cases h with rfl | rfl <;> rfl

theorem takePort_tail (scheme : String) (hT : IsTail T) :
    takePort scheme (R ++ T) =
      (takePort scheme R).map fun (port, rest) => (port, rest ++ T) := by
  have hstop : ∀ c, endsPath c = true → Number.isDigit c = false := fun _ => isDigit_of_endsPath
  simp only [takePort, takeWhile_tail hstop hT, dropWhile_tail hstop hT]
  split
  · rfl
  · cases R.dropWhile Number.isDigit with
    | nil =>
      cases T with
      | nil => rfl
      | cons c T => simp [hT c rfl, Except.map]
    | cons c rest =>
      simp only [List.cons_append]
      split <;> rfl

/-- The user name and the password are read alike, but where the authority is a bare `@`. -/
theorem takeUserInfo_tail (kind : SchemeKind) (hR : R ≠ ['@']) (hT : IsTail T) :
    takeUserInfo kind (R ++ T) =
      (takeUserInfo kind R).map fun (name, password, rest) => (name, password, rest ++ T) := by
  have hstop : ∀ c, endsPath c = true → (!(separates kind c || endsPath c)) = false := by
    intro c h
    simp [h]
  simp only [takeUserInfo, takeWhile_tail hstop hT, dropWhile_tail hstop hT]
  split
  · rfl
  · rename_i hostReversed infoReversed hcut
    cases infoReversed with
    | cons c info => simp [Except.map]
    | nil =>
      cases hostReversed with
      | cons c host => simp [Except.map]
      | nil =>
        -- the authority is a bare mark, so that something follows it
        have hrest : (R.dropWhile fun c => !(separates kind c || endsPath c)) ≠ [] := by
          intro hrest
          obtain ⟨s, hs, hsplit⟩ := Text.eq_of_cutAt hcut
          have hall := List.takeWhile_append_dropWhile
            (p := fun c => !(separates kind c || endsPath c)) (l := R)
          rw [hrest, List.append_nil] at hall
          rw [hall, eq_of_beq hs] at hsplit
          exact hR (List.reverse_eq_iff.1 hsplit)
        obtain ⟨d, rest, hd⟩ := List.exists_cons_of_ne_nil hrest
        rw [hd]
        rfl

/-- The host that a text stands for. -/
def hostOf (kind : SchemeKind) (text : List Char) : Except Fault Host :=
  if kind.isSpecial && text.isEmpty then .error .emptyHost
  else if kind.isSpecial then parseHost text
  else parseOpaqueHost text

/-- The host with the port that may follow it. -/
def portAfter (scheme : String) (host : Host) (rest : List Char) :
    Except Fault (Host × Option Nat × List Char) :=
  match rest with
  | ':' :: more =>
    if host = .domain "" then .error .emptyHost
    else (takePort scheme more).map fun (port, rest) => (host, port, rest)
  | _ => .ok (host, none, rest)

theorem takeHostAndPort_eq (kind : SchemeKind) (scheme : String) (cs : List Char) :
    takeHostAndPort kind scheme cs =
      (hostOf kind (splitHost kind false cs).1).bind fun host =>
        portAfter scheme host (splitHost kind false cs).2 := by
  have hport : ∀ (host : Host) (rest : List Char), (match rest with
      | ':' :: more => do
        if host = .domain "" then throw .emptyHost
        let (port, rest) ← takePort scheme more
        pure (host, port, rest)
      | _ => pure (host, none, rest)) = portAfter scheme host rest := by
    intro host rest
    unfold portAfter
    split
    · split
      · rfl
      · rename_i more _
        cases takePort scheme more <;> rfl
    · rfl
  simp only [takeHostAndPort, hostOf]
  split
  · rfl
  · split
    · cases parseHost (splitHost kind false cs).1 with
      | error e => rfl
      | ok host => exact hport host _
    · cases parseOpaqueHost (splitHost kind false cs).1 with
      | error e => rfl
      | ok host => exact hport host _

theorem portAfter_tail (scheme : String) (host : Host) (hT : IsTail T) :
    portAfter scheme host (R ++ T) =
      (portAfter scheme host R).map fun (host, port, rest) => (host, port, rest ++ T) := by
  cases R with
  | nil =>
    cases T with
    | nil => rfl
    | cons c T =>
      rcases endsPath_cases (hT c rfl) with rfl | rfl <;> rfl
  | cons c R =>
    by_cases hc : c = ':'
    · subst hc
      simp only [List.cons_append, portAfter, takePort_tail scheme hT]
      split
      · rfl
      · cases takePort scheme R <;> rfl
    · simp [portAfter, hc, Except.map]

theorem takeHostAndPort_tail (kind : SchemeKind) (scheme : String) (hT : IsTail T) :
    takeHostAndPort kind scheme (R ++ T) =
      (takeHostAndPort kind scheme R).map fun (host, port, rest) => (host, port, rest ++ T) := by
  rw [takeHostAndPort_eq, takeHostAndPort_eq, splitHost_tail kind false hT]
  cases hostOf kind (splitHost kind false R).1 with
  | error e => rfl
  | ok host => exact portAfter_tail scheme host hT

/-- What an authority and the text after it are read as. -/
theorem parseAuthority_eq_ok_iff {scheme : String} {cs : List Char} {u : Url} :
    parseAuthority scheme cs = .ok u ↔
      ∃ name password afterInfo host port afterHost,
        takeUserInfo (.of scheme) cs = .ok (name, password, afterInfo) ∧
        takeHostAndPort (.of scheme) scheme afterInfo = .ok (host, port, afterHost) ∧
        (host = .domain "" && !(name.isEmpty && password.isEmpty)) = false ∧
        u = withTail
          ⟨scheme, name, password, some host, port,
            segmentPath (takePathAfterHost (.of scheme) afterHost).1, none, none⟩
          (takePathAfterHost (.of scheme) afterHost).2 := by
  unfold parseAuthority
  simp only [bind, Except.bind]
  cases takeUserInfo (.of scheme) cs with
  | error e => simp
  | ok info =>
    obtain ⟨name, password, afterInfo⟩ := info
    cases hhost : takeHostAndPort (.of scheme) scheme afterInfo with
    | error e => simp [hhost]
    | ok found =>
      obtain ⟨host, port, afterHost⟩ := found
      simp only [hhost]
      constructor
      · intro h
        split at h
        · cases h
        · rename_i hempty
          cases h
          exact ⟨name, password, afterInfo, host, port, afterHost, rfl, hhost, by simpa using hempty,
            rfl⟩
      · rintro ⟨_, _, _, _, _, _, ⟨⟩, h, hempty, rfl⟩
        rw [hhost] at h
        cases h
        rw [hempty]
        rfl

/-- A reader has taken a text with a tail for an address: it would do the same with any other tail. -/
def ReadsTail (read : List Char → Except Fault Url) (R T : List Char) (u : Url) : Prop :=
  ∃ u₀ rest, IsTail rest ∧ u = withTail u₀ (rest ++ T) ∧
    ∀ T', IsTail T' → read (R ++ T') = .ok (withTail u₀ (rest ++ T'))

theorem dropWhile_isTail (cs : List Char) : IsTail (cs.dropWhile fun c => !endsPath c) := by
  intro c hc
  have := List.head?_dropWhile_not (fun c => !endsPath c) cs
  rw [Option.mem_def.1 hc] at this
  simpa using this

theorem takePath_isTail (kind : SchemeKind) (above : List (List Char)) (cs : List Char) :
    IsTail (takePath kind above cs).2 := by
  have hrest : (takePath kind above cs).2 = cs.dropWhile fun c => !endsPath c := by
    unfold takePath
    simp only
    split <;> rfl
  rw [hrest]
  exact dropWhile_isTail cs

theorem takePathAfterHost_isTail (kind : SchemeKind) (cs : List Char) :
    IsTail (takePathAfterHost kind cs).2 := by
  cases cs with
  | nil =>
    simp only [takePathAfterHost]
    split
    · exact takePath_isTail kind [] []
    · exact isTail_nil
  | cons c cs =>
    simp only [takePathAfterHost]
    split
    · rename_i hc
      intro d hd
      cases hd
      simp at hc
      exact hc.2
    · exact takePath_isTail kind [] _

/-- An authority is read alike with any tail, but a bare `@`. -/
theorem parseAuthority_tail {scheme : String} {u : Url} (hR : R ≠ ['@']) (hT : IsTail T)
    (h : parseAuthority scheme (R ++ T) = .ok u) : ReadsTail (parseAuthority scheme) R T u := by
  obtain ⟨name, password, afterInfo, host, port, afterHost, hinfo, hhost, hempty, rfl⟩ :=
    parseAuthority_eq_ok_iff.1 h
  rw [takeUserInfo_tail _ hR hT] at hinfo
  cases hinfo₀ : takeUserInfo (.of scheme) R with
  | error e => rw [hinfo₀] at hinfo; cases hinfo
  | ok info =>
  obtain ⟨name₀, password₀, afterInfo₀⟩ := info
  rw [hinfo₀] at hinfo
  cases hinfo
  rw [takeHostAndPort_tail _ _ hT] at hhost
  cases hhost₀ : takeHostAndPort (.of scheme) scheme afterInfo₀ with
  | error e => rw [hhost₀] at hhost; cases hhost
  | ok found =>
  obtain ⟨host₀, port₀, afterHost₀⟩ := found
  rw [hhost₀] at hhost
  cases hhost
  refine ⟨⟨scheme, name, password, some host, port,
      segmentPath (takePathAfterHost (.of scheme) afterHost₀).1, none, none⟩,
    (takePathAfterHost (.of scheme) afterHost₀).2, takePathAfterHost_isTail _ _, ?_, ?_⟩
  · rw [takePathAfterHost_tail _ hT]
  · intro T' hT'
    rw [parseAuthority_eq_ok_iff]
    refine ⟨name, password, afterInfo₀ ++ T', host, port, afterHost₀ ++ T', ?_, ?_, hempty, ?_⟩
    · rw [takeUserInfo_tail _ hR hT', hinfo₀]
      rfl
    · rw [takeHostAndPort_tail _ _ hT', hhost₀]
      rfl
    · rw [takePathAfterHost_tail _ hT']

/-! ## Files -/

theorem parseFileHost_tail {u : Url} (hT : IsTail T) (h : parseFileHost (R ++ T) = .ok u) :
    ReadsTail parseFileHost R T u := by
  have hstop : ∀ c, endsPath c = true → (!(isSlash c || endsPath c)) = false := by
    intro c h
    simp [h]
  have hdrive : ∀ T', IsTail T' → ∀ drive : Bool,
      (if drive then R ++ T' else passSlash .file ((R.dropWhile fun c => !(isSlash c || endsPath c)) ++ T')) =
        (if drive then R else passSlash .file (R.dropWhile fun c => !(isSlash c || endsPath c))) ++ T' := by
    intro T' hT' drive
    cases drive with
    | true => rfl
    | false => exact passSlash_tail .file hT'
  unfold ReadsTail
  simp only [parseFileHost, takeWhile_tail hstop hT, dropWhile_tail hstop hT] at h
  split at h
  case isTrue hlocal =>
    rw [hdrive T hT, takePath_tail _ _ hT] at h
    cases h
    refine ⟨_, _, takePath_isTail .file [] _, rfl, ?_⟩
    intro T' hT'
    simp only [parseFileHost, takeWhile_tail hstop hT', dropWhile_tail hstop hT', hlocal, if_true]
    rw [hdrive T' hT', takePath_tail _ _ hT']
    rfl
  case isFalse hnamed =>
    rw [takePathAfterHost_tail _ hT] at h
    cases hhost : parseHost (R.takeWhile fun c => !(isSlash c || endsPath c)) with
    | error e => rw [hhost] at h; cases h
    | ok host =>
      rw [hhost] at h
      cases h
      refine ⟨_, _, takePathAfterHost_isTail .file _, rfl, ?_⟩
      intro T' hT'
      simp only [parseFileHost, takeWhile_tail hstop hT', dropWhile_tail hstop hT', hnamed]
      rw [takePathAfterHost_tail _ hT', hhost]
      rfl

/-! ## Schemes without a required host -/

/-- The text does not begin with a slash. -/
def Slashless (cs : List Char) : Prop :=
  ∀ c ∈ cs.head?, c ≠ '/'

theorem exists_of_not_slashless {cs : List Char} (h : ¬ Slashless cs) :
    ∃ more, cs = '/' :: more := by
  cases cs with
  | nil => exact absurd (fun c hc => by cases hc) h
  | cons c cs =>
    by_cases hc : c = '/'
    · exact ⟨cs, by rw [hc]⟩
    · refine absurd ?_ h
      rintro d ⟨⟩
      exact hc

theorem Slashless.append_tail (h : Slashless R) (hT : IsTail T) : Slashless (R ++ T) := by
  cases R with
  | nil =>
    rintro c hc rfl
    exact absurd (hT '/' hc) (by decide)
  | cons c R => exact h

/-- An address without host on the given path. -/
def hostless (scheme : String) (path : Path) : Url :=
  ⟨scheme, "", "", none, none, path, none, none⟩

theorem parseOther_rooted (scheme : String) {cs : List Char} (h : Slashless cs) :
    parseOther scheme ('/' :: cs) =
      .ok (withTail (hostless scheme (segmentPath (takePath .other [] cs).1))
        (takePath .other [] cs).2) := by
  cases cs with
  | nil => rfl
  | cons c cs =>
    have hc : c ≠ '/' := h c rfl
    simp [parseOther, hc, hostless]

theorem parseOther_plain (scheme : String) {cs : List Char} (h : Slashless cs) :
    parseOther scheme cs =
      .ok (withTail
        (hostless scheme (.opaquePath (encoded Percent.isControl (cs.takeWhile fun c => !endsPath c))))
        (cs.dropWhile fun c => !endsPath c)) := by
  cases cs with
  | nil => rfl
  | cons c cs =>
    have hc : c ≠ '/' := h c rfl
    simp [parseOther, hc, hostless]

/-- A scheme that does not require a host reads alike with any tail, but with a bare `@` after two
slashes. -/
theorem parseOther_tail {scheme : String} {u : Url} (hR : R ≠ ['/', '/', '@']) (hT : IsTail T)
    (h : parseOther scheme (R ++ T) = .ok u) : ReadsTail (parseOther scheme) R T u := by
  by_cases hplain : Slashless R
  · rw [parseOther_plain scheme (hplain.append_tail hT)] at h
    cases h
    have hstop : ∀ c, endsPath c = true → (!endsPath c) = false := by simp
    refine ⟨_, _, dropWhile_isTail R, by rw [takeWhile_tail hstop hT, dropWhile_tail hstop hT], ?_⟩
    intro T' hT'
    rw [parseOther_plain scheme (hplain.append_tail hT'), takeWhile_tail hstop hT',
      dropWhile_tail hstop hT']
  · obtain ⟨R, rfl⟩ := exists_of_not_slashless hplain
    by_cases hrooted : Slashless R
    · rw [List.cons_append, parseOther_rooted scheme (hrooted.append_tail hT)] at h
      cases h
      refine ⟨_, _, takePath_isTail .other [] R, by rw [takePath_tail _ _ hT], ?_⟩
      intro T' hT'
      rw [List.cons_append, parseOther_rooted scheme (hrooted.append_tail hT'), takePath_tail _ _ hT']
    · obtain ⟨R, rfl⟩ := exists_of_not_slashless hrooted
      have hauthority : ∀ T', parseOther scheme ('/' :: '/' :: R ++ T') = parseAuthority scheme (R ++ T') :=
        fun _ => rfl
      rw [hauthority] at h
      obtain ⟨u₀, rest, hrest, hu, hread⟩ :=
        parseAuthority_tail (fun hat => hR (by rw [hat])) hT h
      exact ⟨u₀, rest, hrest, hu, fun T' hT' => (hauthority T').trans (hread T' hT')⟩

end tails

end Harvest.Url
