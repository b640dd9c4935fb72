import Harvest.Client.Static
import Harvest.Job.Run

/-!
# Asking for another address

A job behind a proxy looks up the address it is seen under, and asks for another one if that is still the
address of the last run that was told one. Runs may be refused, the lookup may fail and the page may not be
there: none of this makes the job forget an address or ask once too often (`rotates_on_repeat`). Only when
asking itself breaks down does the job give up on addresses (`scrapeInto_of_brokenRun?`).
-/

namespace Harvest

namespace Job

variable (j : Job)

/-- Why the job is refused before it asks for anything. -/
def refusal? : Option ScrapeError :=
  match j.schema, Url.parse j.url with
  | none, _ => some .noSchema
  | some _, .error fault => some (.invalidUrl j.url fault)
  | some _, .ok _ => none

/-- The address that a run is told, if it looks it up and is answered. -/
def told? (s : JobState) : Option String :=
  match j.refusal?, j.addressUrl with
  | none, some url => (j.client.getText s.history url).toOption.map Text.trim
  | _, _ => none

/-- Two states in which a job remembers the same about its address. -/
structure SameMemory (s t : JobState) : Prop where
  lastAddress : s.lastAddress = t.lastAddress
  rotations : s.rotations = t.rotations
  rotationBroken : s.rotationBroken = t.rotationBroken

theorem SameMemory.refl (s : JobState) : SameMemory s s := ⟨rfl, rfl, rfl⟩

theorem SameMemory.trans {s t u : JobState} (h : SameMemory s t) (h' : SameMemory t u) :
    SameMemory s u :=
  ⟨h.lastAddress.trans h'.lastAddress, h.rotations.trans h'.rotations,
    h.rotationBroken.trans h'.rotationBroken⟩

/-- The same job, which does not look up its address. -/
def unaware : Job :=
  { j with addressUrl := none }

variable {j}

@[simp] theorem unaware_schema : j.unaware.schema = j.schema := rfl

@[simp] theorem unaware_url : j.unaware.url = j.url := rfl

@[simp] theorem unaware_client : j.unaware.client = j.client := rfl

@[simp] theorem unaware_checkAddress (s : JobState) : j.unaware.checkAddress s = s := rfl

/-! ## A single run -/

theorem admitted_of_refusal? (h : j.refusal? = none) :
    ∃ schema url, j.schema = some schema ∧ Url.parse j.url = .ok url := by
  unfold refusal? at h
  cases hschema : j.schema with
  | none =>
    rw [hschema] at h
    cases h
  | some schema =>
    cases hurl : Url.parse j.url with
    | error fault =>
      rw [hschema, hurl] at h
      cases h
    | ok url => exact ⟨schema, url, rfl, rfl⟩

section

variable {ω : Type} {outlet : Outlet ω} {sink : ω} {s : JobState}

theorem scrapeInto_of_refusal {e : ScrapeError} (h : j.refusal? = some e) :
    j.scrapeInto outlet sink s = (.error e, s) := by
  unfold refusal? at h
  unfold scrapeInto
  cases hschema : j.schema with
  | none =>
    rw [hschema] at h
    cases h
    rfl
  | some schema =>
    cases hurl : Url.parse j.url with
    | error fault =>
      rw [hschema, hurl] at h
      cases h
      rfl
    | ok url =>
      rw [hschema, hurl] at h
      cases h

theorem sameMemory_noteAddress (address : String) (history : History) :
    SameMemory (j.noteAddress address { s with history := history }) (j.noteAddress address s) := by
  unfold noteAddress
  dsimp only
  split <;> exact ⟨rfl, rfl, rfl⟩

theorem noteAddress_history (address : String) (s : JobState) :
    (j.noteAddress address s).history = s.history := by
  unfold noteAddress
  split <;> rfl

theorem noteAddress_rotationBroken (address : String) :
    (j.noteAddress address s).rotationBroken = s.rotationBroken := by
  unfold noteAddress
  split <;> rfl

/-- Once the address is looked up, the run is that of a job that does not look it up. -/
theorem scrapeInto_eq_unaware (h : j.refusal? = none) :
    j.scrapeInto outlet sink s = j.unaware.scrapeInto outlet sink (j.checkAddress s) := by
  obtain ⟨schema, url, hschema, hurl⟩ := admitted_of_refusal? h
  simp only [scrapeInto, unaware_schema, unaware_url, unaware_checkAddress, hschema, hurl]
  rfl

/-- A job that does not look up its address leaves alone what it remembers. -/
theorem unaware_scrapeInto (s : JobState) :
    SameMemory (j.unaware.scrapeInto outlet sink s).2 s := by
  unfold scrapeInto fetchTop Client.fetchText
  cases j.unaware.schema with
  | none => exact .refl s
  | some schema =>
    dsimp only
    cases Url.parse j.unaware.url with
    | error fault => exact .refl s
    | ok url =>
      dsimp only
      cases j.unaware.client.getText (j.unaware.checkAddress s).history url.toText with
      | error e => exact ⟨rfl, rfl, rfl⟩
      | ok body => exact ⟨rfl, rfl, rfl⟩

/-- A run that is not refused fails only for want of its page. -/
theorem unaware_error {e : ScrapeError} (h : j.refusal? = none)
    (he : (j.unaware.scrapeInto outlet sink s).1 = .error e) : ∃ f, e = .client f := by
  obtain ⟨schema, url, hschema, hurl⟩ := admitted_of_refusal? h
  simp only [scrapeInto, fetchTop, Client.fetchText, unaware_schema, unaware_url, unaware_client,
    unaware_checkAddress, hschema, hurl] at he
  cases hbody : j.client.getText s.history url.toText with
  | error f =>
    rw [hbody] at he
    cases he
    exact ⟨f, rfl⟩
  | ok body =>
    rw [hbody] at he
    cases he

end

theorem told?_of_refusal {e : ScrapeError} (h : j.refusal? = some e) (s : JobState) :
    j.told? s = none := by
  unfold told?
  rw [h]

section

variable {s : JobState} {checkUrl : String} (hcheck : j.addressUrl = some checkUrl)
include hcheck

/-- A lookup leaves its request, and the address if it is answered with one. -/
theorem checkAddress_eq_told (h : j.refusal? = none) :
    let asked : JobState := { s with history := s.history ++ [.get checkUrl] }
    j.checkAddress s = match j.told? s with
      | none => asked
      | some address => j.noteAddress address asked := by
  unfold checkAddress told? Client.fetchText
  rw [h, hcheck]
  dsimp only
  cases j.client.getText s.history checkUrl with
  | error e => rfl
  | ok body => rfl

variable {ω : Type} {outlet : Outlet ω} {sink : ω}

/-- A run whose lookup is not answered goes on without one. -/
theorem scrapeInto_of_untold (h : j.refusal? = none) (htold : j.told? s = none) :
    j.scrapeInto outlet sink s = j.unaware.scrapeInto outlet sink
      { s with history := s.history ++ [.get checkUrl] } := by
  have hasked := checkAddress_eq_told (s := s) hcheck h
  rw [htold] at hasked
  rw [scrapeInto_eq_unaware h, hasked]

/-- A run takes note of the address that it is told, whatever comes of the run. -/
theorem scrapeInto_of_told {address : String} (htold : j.told? s = some address) :
    SameMemory (j.scrapeInto outlet sink s).2 (j.noteAddress address s) := by
  cases h : j.refusal? with
  | some e =>
    rw [told?_of_refusal h] at htold
    cases htold
  | none =>
    have hasked := checkAddress_eq_told (s := s) hcheck h
    rw [htold] at hasked
    rw [scrapeInto_eq_unaware h, hasked]
    exact (unaware_scrapeInto _).trans (sameMemory_noteAddress address _)

theorem scrapeInto_of_none_told (htold : j.told? s = none) :
    SameMemory (j.scrapeInto outlet sink s).2 s := by
  cases h : j.refusal? with
  | some e =>
    rw [scrapeInto_of_refusal h]
    exact .refl s
  | none =>
    rw [scrapeInto_of_untold hcheck h htold]
    exact (unaware_scrapeInto _).trans ⟨rfl, rfl, rfl⟩

/-- A run that comes to its end does not find out that asking for another address breaks down. -/
theorem scrapeInto_rotationBroken :
    (j.scrapeInto outlet sink s).2.rotationBroken = s.rotationBroken := by
  cases htold : j.told? s with
  | none => exact (scrapeInto_of_none_told hcheck htold).rotationBroken
  | some address =>
    exact (scrapeInto_of_told hcheck htold).rotationBroken.trans (noteAddress_rotationBroken address)

/-- Once asking for another address has broken down, runs take no note of addresses. -/
theorem scrapeInto_of_broken (hbroken : s.rotationBroken = true) :
    SameMemory (j.scrapeInto outlet sink s).2 s := by
  cases htold : j.told? s with
  | none => exact scrapeInto_of_none_told hcheck htold
  | some address =>
    have hnoted : SameMemory (j.scrapeInto outlet sink s).2 (j.noteAddress address s) :=
      scrapeInto_of_told hcheck htold
    rwa [noteAddress, if_pos hbroken] at hnoted

end

/-- Asking for another address breaks down only in a run that is told the address of before. -/
theorem brokenRun?_eq_some {s t : JobState} (h : j.brokenRun? s = some t) :
    j.client.socksEnabled = true ∧ (∃ address, j.told? s = some address ∧
      s.lastAddress = some address) ∧
      SameMemory t { s with rotations := s.rotations + 1, rotationBroken := true } := by
  unfold brokenRun? at h
  split at h
  · next schema url checkUrl hschema hurl hcheck =>
    have hadmitted : j.refusal? = none := by
      unfold refusal?
      rw [hschema, hurl]
    have htold : j.told? s = (j.client.getText s.history checkUrl).toOption.map Text.trim := by
      unfold told?
      rw [hadmitted, hcheck]
    unfold Client.fetchText at h
    split at h
    · cases h
    · next body history hbody =>
      split at h
      · next hunchanged =>
        cases h
        simp only [isUnchanged, Bool.and_eq_true, beq_iff_eq] at hunchanged
        refine ⟨hunchanged.2.1, ⟨Text.trim body, ?_, hunchanged.2.2⟩, rfl, rfl, rfl⟩
        rw [htold, (Prod.mk.inj hbody).1]
        rfl
      · cases h
  · cases h

/-- A run after one in which asking for another address broke down remembers what was remembered then,
and asks for no other address. -/
theorem scrapeInto_of_brokenRun? {ω : Type} {outlet : Outlet ω} {sink : ω} {s t : JobState}
    {checkUrl : String} (hcheck : j.addressUrl = some checkUrl) (h : j.brokenRun? s = some t) :
    SameMemory (j.scrapeInto outlet sink t).2
      { s with rotations := s.rotations + 1, rotationBroken := true } := by
  obtain ⟨-, -, hleft⟩ := brokenRun?_eq_some h
  exact (scrapeInto_of_broken hcheck hleft.rotationBroken).trans hleft

/-! ## One run after the other -/

/-- Runs of a job, the first of which remembers no address. In between anything else may be asked for and
counted, but only the runs touch what the job remembers. -/
structure Runs (j : Job) (ω : Type) where
  outlet : Nat → Outlet ω
  sink : Nat → ω
  /-- The state that each run begins in. -/
  before : Nat → JobState
  fresh : (before 0).lastAddress = none
  /-- Asking for another address has not broken down. -/
  intact : (before 0).rotationBroken = false
  remembers : ∀ n, (before (n + 1)).lastAddress =
    (j.scrapeInto (outlet n) (sink n) (before n)).2.lastAddress
  works : ∀ n, (before (n + 1)).rotationBroken =
    (j.scrapeInto (outlet n) (sink n) (before n)).2.rotationBroken

namespace Runs

variable {ω : Type} (r : j.Runs ω)

/-- What comes of a run, and the state that it leaves. -/
def run (n : Nat) : Except ScrapeError ω × JobState :=
  j.scrapeInto (r.outlet n) (r.sink n) (r.before n)

/-- The address that a run is told. -/
def told (n : Nat) : Option String :=
  j.told? (r.before n)

/-- Of the runs before `n`, the last that was told an address was told this one. -/
def Latest (n : Nat) (address : String) : Prop :=
  ∃ m < n, r.told m = some address ∧ ∀ k, m < k → k < n → r.told k = none

/-- A run is told the address that was told last. -/
def Repeats (n : Nat) : Prop :=
  ∃ address, r.told n = some address ∧ r.Latest n address

variable {r}

theorem not_latest_zero (address : String) : ¬r.Latest 0 address := by
  rintro ⟨m, hm, -⟩
  omega

theorem latest_succ_of_told {n : Nat} {last address : String} (h : r.told n = some last) :
    r.Latest (n + 1) address ↔ last = address := by
  constructor
  · rintro ⟨m, hm, htold, hnone⟩
    rcases Nat.lt_or_eq_of_le (Nat.le_of_lt_succ hm) with hlt | rfl
    · rw [hnone n hlt (Nat.lt_succ_self n)] at h
      cases h
    · rw [h] at htold
      exact Option.some.inj htold
  · rintro rfl
    exact ⟨n, Nat.lt_succ_self n, h, fun k hk hk' => by omega⟩

theorem latest_succ_of_untold {n : Nat} {address : String} (h : r.told n = none) :
    r.Latest (n + 1) address ↔ r.Latest n address := by
  constructor
  · rintro ⟨m, hm, htold, hnone⟩
    rcases Nat.lt_or_eq_of_le (Nat.le_of_lt_succ hm) with hlt | rfl
    · exact ⟨m, hlt, htold, fun k hk hk' => hnone k hk (Nat.lt_succ_of_lt hk')⟩
    · rw [h] at htold
      cases htold
  · rintro ⟨m, hm, htold, hnone⟩
    refine ⟨m, Nat.lt_succ_of_lt hm, htold, fun k hk hk' => ?_⟩
    rcases Nat.lt_or_eq_of_le (Nat.le_of_lt_succ hk') with hlt | rfl
    · exact hnone k hk hlt
    · exact h

theorem rotationBroken_eq_false {checkUrl : String} (hcheck : j.addressUrl = some checkUrl) (n : Nat) :
    (r.before n).rotationBroken = false := by
  induction n with
  | zero => exact r.intact
  | succ n ih => rw [r.works, scrapeInto_rotationBroken hcheck, ih]

/-- A run that is told an address remembers it. -/
theorem run_of_told {checkUrl : String} (hcheck : j.addressUrl = some checkUrl) {n : Nat}
    {address : String} (h : r.told n = some address) :
    (r.run n).2.lastAddress = some address ∧
      (r.run n).2.rotations =
        if j.isUnchanged address (r.before n) then (r.before n).rotations + 1
        else (r.before n).rotations := by
  have hnoted : SameMemory (r.run n).2 (j.noteAddress address (r.before n)) :=
    scrapeInto_of_told hcheck h
  rw [noteAddress, rotationBroken_eq_false hcheck] at hnoted
  exact ⟨hnoted.lastAddress, hnoted.rotations⟩

/-- The job remembers the address that it was told last, however many runs ago. -/
theorem lastAddress_eq_some_iff {checkUrl : String} (hcheck : j.addressUrl = some checkUrl) (n : Nat)
    (address : String) : (r.before n).lastAddress = some address ↔ r.Latest n address := by
  -- A run that is told an address overwrites what the job remembers, any other run keeps it.
  induction n with
  | zero =>
    rw [r.fresh]
    exact iff_of_false nofun (not_latest_zero address)
  | succ n ih =>
    rw [r.remembers]
    cases h : r.told n with
    | none =>
      rw [latest_succ_of_untold h, ← ih, (scrapeInto_of_none_told hcheck h).lastAddress]
    | some last =>
      have hlast := (run_of_told hcheck h).1
      rw [run] at hlast
      rw [latest_succ_of_told h, hlast, Option.some.injEq]

section

variable {checkUrl : String} (hsocks : j.client.socksEnabled = true)
  (hcheck : j.addressUrl = some checkUrl) {n : Nat}
include hsocks hcheck

theorem rotations_of_repeats (h : r.Repeats n) :
    (r.run n).2.rotations = (r.before n).rotations + 1 := by
  obtain ⟨address, htold, hlatest⟩ := h
  have hlast := (lastAddress_eq_some_iff hcheck n address).2 hlatest
  rw [(run_of_told hcheck htold).2, isUnchanged, hsocks, hlast, Bool.true_and]
  exact if_pos (beq_self_eq_true (some address))

theorem rotations_of_not_repeats (h : ¬r.Repeats n) :
    (r.run n).2.rotations = (r.before n).rotations := by
  cases htold : r.told n with
  | none => exact (scrapeInto_of_none_told hcheck htold).rotations
  | some address =>
    have hlast : (r.before n).lastAddress ≠ some address := fun hlast =>
      h ⟨address, htold, (lastAddress_eq_some_iff hcheck n address).1 hlast⟩
    rw [(run_of_told hcheck htold).2, isUnchanged, hsocks, Bool.true_and]
    exact if_neg (mt eq_of_beq hlast)

end

/-- The states that runs lead through when nothing else goes on. -/
def states (j : Job) (outlet : Nat → Outlet ω) (sink : Nat → ω) (s : JobState) : Nat → JobState
  | 0 => s
  | n + 1 => (j.scrapeInto (outlet n) (sink n) (states j outlet sink s n)).2

/-- Runs that follow each other directly. -/
def inTurn (j : Job) (outlet : Nat → Outlet ω) (sink : Nat → ω) (s : JobState)
    (h : s.lastAddress = none) (hintact : s.rotationBroken = false) : j.Runs ω where
  outlet := outlet
  sink := sink
  before := states j outlet sink s
  fresh := h
  intact := hintact
  remembers _ := rfl
  works _ := rfl

end Runs

/-- **An address that comes twice in a row is exchanged, once.** A refused run asks for nothing and changes
nothing. A lookup that fails leaves the run as it would be without it. An answer is remembered, also when
the page is then not to be had, and another address is asked for exactly if the last answer before, however
many runs ago, was the same. -/
theorem rotates_on_repeat {j : Job} {ω : Type} (r : j.Runs ω) {checkUrl : String}
    (hsocks : j.client.socksEnabled = true) (hcheck : j.addressUrl = some checkUrl) (n : Nat) :
    let before := r.before n
    let after := (r.run n).2
    (∀ e, j.refusal? = some e → r.run n = (.error e, before)) ∧
    (∀ e, (r.run n).1 = .error e → j.refusal? = some e ∨ ∃ f, e = .client f) ∧
    (j.refusal? = none → r.told n = none →
      r.run n = j.unaware.scrapeInto (r.outlet n) (r.sink n)
        { before with history := before.history ++ [.get checkUrl] }) ∧
    (r.told n = none → after.lastAddress = before.lastAddress) ∧
    (∀ address, r.told n = some address → after.lastAddress = some address) ∧
    (r.Repeats n → after.rotations = before.rotations + 1) ∧
    (¬r.Repeats n → after.rotations = before.rotations) := by
  intro before after
  have herror : ∀ e, (r.run n).1 = .error e → j.refusal? = some e ∨ ∃ f, e = .client f := by
    intro e he
    cases h : j.refusal? with
    | some e' =>
      rw [Runs.run, scrapeInto_of_refusal h] at he
      cases he
      exact Or.inl rfl
    | none =>
      rw [Runs.run, scrapeInto_eq_unaware h] at he
      exact Or.inr (unaware_error h he)
  exact ⟨fun e h => scrapeInto_of_refusal h, herror,
    fun h htold => scrapeInto_of_untold hcheck h htold,
    fun htold => (scrapeInto_of_none_told hcheck htold).lastAddress,
    fun address htold => (Runs.run_of_told hcheck htold).1,
    fun h => Runs.rotations_of_repeats hsocks hcheck h,
    fun h => Runs.rotations_of_not_repeats hsocks hcheck h⟩

/-! ## A proxy with an unsteady address -/

/-- A page that is not there at first, seen from an address that one of two lookups tells. -/
def unsteadyJob : Job where
  name := "unsteady"
  url := "http://a.test/"
  schema := some Schema.empty
  client :=
    { Client.serving fun _ => none with
      getText := fun h url =>
        match url, h with
        | "http://ip.test", [] => .ok "10.0.0.1\n"
        | "http://ip.test", _ =>
          if h.length < 4 then .error (.transport url "timeout") else .ok " 10.0.0.1"
        | _, h => if h.length < 4 then .error (.http url 503 "") else .ok ""
      socksEnabled := true }
  stopOn := none
  addressUrl := some "http://ip.test"
  childDelay := 0

/-- Runs that collect their records. -/
def unsteadyRuns : unsteadyJob.Runs (Array Record) :=
  .inTurn unsteadyJob (fun _ => keepAll) (fun _ => #[]) (.start .empty) rfl rfl

theorem rotates_on_repeat_unsteady :
    (unsteadyJob.client.socksEnabled = true ∧ unsteadyJob.addressUrl = some "http://ip.test") ∧
    (unsteadyRuns.told 0 = some "10.0.0.1" ∧ unsteadyRuns.told 1 = none ∧
      unsteadyRuns.told 2 = some "10.0.0.1") ∧
    (unsteadyRuns.run 0).1 = .error (.client (.http "http://a.test/" 503 "")) ∧
    (unsteadyRuns.run 0).2.lastAddress = some "10.0.0.1" ∧
    (unsteadyRuns.run 1).2.lastAddress = some "10.0.0.1" ∧
    (unsteadyRuns.run 1).2.rotations = 0 ∧ (unsteadyRuns.run 2).2.rotations = 1 := by
  have htold₀ : unsteadyRuns.told 0 = some "10.0.0.1" := by decide +kernel
  have htold₁ : unsteadyRuns.told 1 = none := by decide +kernel
  have htold₂ : unsteadyRuns.told 2 = some "10.0.0.1" := by decide +kernel
  have hfailed : (unsteadyRuns.run 0).1 = .error (.client (.http "http://a.test/" 503 "")) := by
    with_unfolding_all rfl
  have hrepeats : unsteadyRuns.Repeats 2 := by
    refine ⟨"10.0.0.1", htold₂, 0, Nat.succ_pos 1, htold₀, fun k hk hk' => ?_⟩
    obtain rfl : k = 1 := by omega
    exact htold₁
  have hnew : ¬unsteadyRuns.Repeats 0 := by
    rintro ⟨address, -, hlatest⟩
    exact Runs.not_latest_zero address hlatest
  have hnot : ¬unsteadyRuns.Repeats 1 := by
    rintro ⟨address, htold, -⟩
    rw [htold₁] at htold
    cases htold
  obtain ⟨-, -, -, -, hnoted, -, hstarts⟩ := rotates_on_repeat unsteadyRuns rfl rfl 0
  obtain ⟨-, -, -, hkept, -, -, hstays⟩ := rotates_on_repeat unsteadyRuns rfl rfl 1
  obtain ⟨-, -, -, -, -, hrotates, -⟩ := rotates_on_repeat unsteadyRuns rfl rfl 2
  have hlast := hnoted _ htold₀
  have hfirst : (unsteadyRuns.run 0).2.rotations = 0 := hstarts hnew
  have hrotations : (unsteadyRuns.run 1).2.rotations = 0 := (hstays hnot).trans hfirst
  exact ⟨⟨rfl, rfl⟩, ⟨htold₀, htold₁, htold₂⟩, hfailed, hlast, (hkept htold₁).trans hlast, hrotations,
    (hrotates hrepeats).trans (congrArg (· + 1) hrotations)⟩

end Job

end Harvest
