import Harvest.Proofs.Job.Address
import Harvest.Proofs.Job.Rows
import Harvest.Proofs.Job.Succession

/-!
# Lookups without a proxy

Without a proxy there is no other address to ask for, but a job that looks up its address does so all the
same: the lookup is a request like any other (`lookup_requested`), and from there the run goes on as that of
the job without the lookup. A client that overlooks these requests gives both jobs the same results, run
after run (`runs_beside_lookups`).
-/

namespace Harvest

/-! ## Histories that make no difference -/

namespace Client

variable {c : Client}

/-- The client answers alike after two histories, and goes on to do so. -/
def Alike (c : Client) (h h' : History) : Prop :=
  ∀ more url, c.getText (h ++ more) url = c.getText (h' ++ more) url

/-- Requests for a url make no difference to the answers. -/
def Overlooks (c : Client) (url : String) : Prop :=
  ∀ before after asked,
    c.getText (before ++ .get url :: after) asked = c.getText (before ++ after) asked

theorem Alike.refl (h : History) : c.Alike h h := fun _ _ => rfl

theorem Alike.getText {h h' : History} (hc : c.Alike h h') (url : String) :
    c.getText h url = c.getText h' url := by
  have := hc [] url
  rwa [List.append_nil, List.append_nil] at this

theorem Alike.append {h h' : History} (hc : c.Alike h h') (requests : List Request) :
    c.Alike (h ++ requests) (h' ++ requests) := by
  intro more url
  rw [List.append_assoc, List.append_assoc]
  exact hc (requests ++ more) url

theorem Alike.of_overlooks {h h' : History} {checkUrl : String} (hc : c.Alike h h')
    (hover : c.Overlooks checkUrl) : c.Alike (h ++ [.get checkUrl]) h' := by
  intro more url
  rw [List.append_assoc, List.singleton_append, hover]
  exact hc more url

end Client

namespace Extract

theorem nestedRecordsOf_congr (schemas : List Schema) (d : Markup.Document) {r r' : Registry}
    (hr : r.types = r'.types) :
    nestedRecordsOf schemas r d = nestedRecordsOf schemas r' d := by
  unfold nestedRecordsOf
  congr 1
  funext p
  exact List.map_congr_left fun node _ =>
    mergeAll_congr_types false p.properties node [] hr

end Extract

namespace Schema

variable (s : Schema) {c : Client} {h h' : History}

theorem childVisit_alike (hc : c.Alike h h') {r r' : Registry} (hr : r.types = r'.types) (url : Url) :
    s.childVisit c r h url = s.childVisit c r' h' url := by
  unfold childVisit
  cases Url.parse url.toText with
  | error fault => rfl
  | ok parsed =>
    dsimp only
    rw [hc.getText]
    cases c.getText h' url.toText with
    | error e => rfl
    | ok body => rw [recordsOfAnswer, recordsOfAnswer, Extract.nestedRecordsOf_congr _ _ hr]

theorem childVisits_alike (hc : c.Alike h h') {r r' : Registry} (hr : r.types = r'.types)
    (urls : List Url) : s.childVisits c r h urls = s.childVisits c r' h' urls := by
  induction urls generalizing h h' with
  | nil => rfl
  | cons url more ih =>
    have hvisit := s.childVisit_alike hc hr url
    rw [childVisits, childVisits, hvisit, ih (hc.append _)]

end Schema

namespace Job

variable {j : Job}

/-- What a run finds on its pages depends on the answers of the client and the types alone. -/
theorem visits_alike {s t : JobState} (hc : j.client.Alike s.history t.history)
    (htypes : s.registry.types = t.registry.types) (schema : Schema) (page : WebPage) :
    j.visits schema page s = j.visits schema page t := by
  unfold visits Schema.pageVisits Schema.pageRecords
  rw [schema.childVisits_alike hc htypes, Extract.recordsOf_congr schema page.document htypes]

/-! ## Two runs side by side -/

/-- Two states that a run makes no difference between. -/
structure Beside (c : Client) (s s' : JobState) : Prop where
  alike : c.Alike s.history s'.history
  types : s.registry.types = s'.registry.types
  total : s.total = s'.total

/-- A run that is not refused asks for its page first. -/
theorem opened_of_admitted {schema : Schema} {url : Url} (hschema : j.schema = some schema)
    (hurl : Url.parse j.url = .ok url) (s : JobState) :
    let asked := { j.checkAddress s with
      history := (j.checkAddress s).history ++ [.get url.toText] }
    j.opened s = match j.client.getText (j.checkAddress s).history url.toText with
      | .error e => (.error (.client e), asked)
      | .ok body => (.ok (schema, .parse url body), asked) := by
  unfold opened fetchTop Client.fetchText
  rw [hschema, hurl]
  dsimp only
  cases j.client.getText (j.checkAddress s).history url.toText <;> rfl

/-- From states that make no difference a run gives the same result after the same requests, and makes no
difference between the states that it leaves. -/
theorem scrape_beside {s s' : JobState} (hcheck : j.addressUrl = none) (h : Beside j.client s s') :
    (j.scrape s).1 = (j.scrape s').1 ∧ Beside j.client (j.scrape s).2 (j.scrape s').2 ∧
      ∃ requests, (j.scrape s).2.history = s.history ++ requests ∧
        (j.scrape s').2.history = s'.history ++ requests := by
  have hresult : (j.scrape s).1 = (j.scrape s').1 ∧ ∃ requests,
      (j.scrape s).2.history = s.history ++ requests ∧
        (j.scrape s').2.history = s'.history ++ requests := by
    cases hrefusal : j.refusal? with
    | some e =>
      rw [scrape, scrape, scrapeInto_of_refusal hrefusal, scrapeInto_of_refusal hrefusal]
      exact ⟨rfl, [], (List.append_nil _).symm, (List.append_nil _).symm⟩
    | none =>
      obtain ⟨schema, url, hschema, hurl⟩ := admitted_of_refusal? hrefusal
      have hquiet : ∀ t, j.checkAddress t = t := fun t => by rw [checkAddress, hcheck]
      have hopened := opened_of_admitted hschema hurl s
      have hopened' := opened_of_admitted hschema hurl s'
      rw [hquiet, h.alike.getText] at hopened
      rw [hquiet] at hopened'
      cases hbody : j.client.getText s'.history url.toText with
      | error e =>
        rw [hbody] at hopened hopened'
        rw [scrape_of_refused hopened, scrape_of_refused hopened']
        exact ⟨rfl, _, rfl, rfl⟩
      | ok body =>
        rw [hbody] at hopened hopened'
        obtain ⟨hresult, hhistory, -⟩ := scrape_eq hopened
        obtain ⟨hresult', hhistory', -⟩ := scrape_eq hopened'
        have hvisits : j.visits schema (.parse url body)
              { s with history := s.history ++ [.get url.toText] } =
            j.visits schema (.parse url body)
              { s' with history := s'.history ++ [.get url.toText] } :=
          visits_alike (j := j) (s := { s with history := _ }) (t := { s' with history := _ })
            (h.alike.append _) h.types schema (.parse url body)
        rw [hquiet, hvisits] at hhistory
        rw [hquiet] at hhistory'
        rw [hresult, hresult', hvisits]
        exact ⟨rfl, _, hhistory, hhistory'⟩
  obtain ⟨hsame, requests, hhistory, hhistory'⟩ := hresult
  refine ⟨hsame, ⟨?_, ?_, ?_⟩, requests, hhistory, hhistory'⟩
  · rw [hhistory, hhistory']
    exact h.alike.append requests
  · rw [scrape_types, scrape_types, h.types]
  · rw [scrape_total, scrape_total, hsame, h.total]

/-! ## A run with a lookup -/

/-- The request for its address that a run begins with. -/
def lookups (j : Job) : List Request :=
  match j.refusal?, j.addressUrl with
  | none, some url => [.get url]
  | _, _ => []

section

variable {checkUrl : String} (hcheck : j.addressUrl = some checkUrl)
include hcheck

/-- A lookup makes no difference beyond its request. -/
theorem checkAddress_beside (h : j.refusal? = none) (s : JobState) :
    (j.checkAddress s).history = s.history ++ j.lookups ∧
      Beside j.client (j.checkAddress s) { s with history := s.history ++ j.lookups } := by
  have hchecked := checkAddress_eq (j := j) s
  have hhistory : (j.checkAddress s).history = s.history ++ j.lookups := by
    rw [lookups, h, hcheck, checkAddress_eq_told hcheck h]
    cases j.told? s with
    | none => rfl
    | some address => exact noteAddress_history address _
  refine ⟨hhistory, ⟨?_, ?_, hchecked.2⟩⟩
  · rw [hhistory]
    exact .refl _
  · rw [hchecked.1]

/-- A run goes on after its lookup as the run of a job that does not look up its address. -/
theorem scrape_after_lookup (s : JobState) :
    let asked := { s with history := s.history ++ j.lookups }
    (j.scrape s).1 = (j.unaware.scrape asked).1 ∧
      (j.scrape s).2.history = (j.unaware.scrape asked).2.history ∧
      (j.scrape s).2.total = (j.unaware.scrape asked).2.total := by
  intro asked
  cases h : j.refusal? with
  | some e =>
    have hunaware : j.unaware.refusal? = some e := h
    rw [scrape, scrape, scrapeInto_of_refusal h, scrapeInto_of_refusal hunaware]
    refine ⟨rfl, ?_, rfl⟩
    change s.history = s.history ++ j.lookups
    rw [lookups, h, List.append_nil]
  | none =>
    obtain ⟨hhistory, hbeside⟩ := checkAddress_beside hcheck h s
    have hsame : j.scrape s = j.unaware.scrape (j.checkAddress s) := by
      rw [scrape, scrape, scrapeInto_eq_unaware h]
    obtain ⟨hresult, hleft, requests, hfirst, hsecond⟩ :=
      scrape_beside (j := j.unaware) rfl hbeside
    rw [hsame]
    exact ⟨hresult, hfirst.trans (hhistory ▸ hsecond.symm), hleft.total⟩

/-- Without a proxy, no run asks for another address. -/
theorem scrape_rotations (hdirect : j.client.socksEnabled = false) (s : JobState) :
    (j.scrape s).2.rotations = s.rotations := by
  change (j.scrapeInto keepAll #[] s).2.rotations = s.rotations
  cases htold : j.told? s with
  | none => exact (scrapeInto_of_none_told hcheck htold).rotations
  | some address =>
    rw [(scrapeInto_of_told hcheck htold).rotations, noteAddress, isUnchanged, hdirect, Bool.false_and]
    cases s.rotationBroken <;> rfl

theorem scrapes_rotations (hdirect : j.client.socksEnabled = false) (n : Nat) (s : JobState) :
    (j.scrapes n s).2.rotations = s.rotations := by
  induction n generalizing s with
  | zero => rfl
  | succ n ih => rw [scrapes, ih, scrape_rotations hcheck hdirect]

/-- Where lookups are overlooked, a run with one gives what a run without one gives. -/
theorem scrape_lookup_beside (hover : j.client.Overlooks checkUrl) {s s' : JobState}
    (h : Beside j.client s s') :
    (j.scrape s).1 = (j.unaware.scrape s').1 ∧
      Beside j.client (j.scrape s).2 (j.unaware.scrape s').2 ∧
      ∃ requests, (j.scrape s).2.history = s.history ++ (j.lookups ++ requests) ∧
        (j.unaware.scrape s').2.history = s'.history ++ requests := by
  obtain ⟨hresult, hhistory, htotal⟩ := scrape_after_lookup hcheck s
  have hasked : Beside j.client { s with history := s.history ++ j.lookups } s' := by
    refine ⟨?_, h.types, h.total⟩
    cases hrefusal : j.refusal? with
    | some e =>
      rw [lookups, hrefusal]
      change j.client.Alike (s.history ++ []) s'.history
      rw [List.append_nil]
      exact h.alike
    | none =>
      rw [lookups, hrefusal, hcheck]
      exact h.alike.of_overlooks hover
  obtain ⟨hresult', hbeside, requests, hfirst, hsecond⟩ :=
    scrape_beside (j := j.unaware) rfl hasked
  refine ⟨hresult.trans hresult', ⟨?_, ?_, htotal.trans hbeside.total⟩, requests, ?_, hsecond⟩
  · rw [hhistory]
    exact hbeside.alike
  · rw [scrape_types, scrape_types, h.types]
  · rw [hhistory, hfirst, List.append_assoc]

theorem scrapes_beside (hover : j.client.Overlooks checkUrl) (n : Nat) {s s' : JobState}
    (h : Beside j.client s s') :
    (j.scrapes n s).1 = (j.unaware.scrapes n s').1 ∧
      (j.scrapes n s).2.total = (j.unaware.scrapes n s').2.total ∧
      ∃ rounds : List (List Request), rounds.length = n ∧
        (j.scrapes n s).2.history = s.history ++ rounds.flatMap (j.lookups ++ ·) ∧
        (j.unaware.scrapes n s').2.history = s'.history ++ rounds.flatten := by
  induction n generalizing s s' with
  | zero => exact ⟨rfl, h.total, [], rfl, (List.append_nil _).symm, (List.append_nil _).symm⟩
  | succ n ih =>
    obtain ⟨hresult, hbeside, requests, hfirst, hsecond⟩ := scrape_lookup_beside hcheck hover h
    obtain ⟨hresults, htotal, rounds, hlength, hhistory, hhistory'⟩ := ih hbeside
    refine ⟨?_, htotal, requests :: rounds, congrArg (· + 1) hlength, ?_, ?_⟩
    · rw [scrapes, scrapes, hresult, hresults]
    · rw [scrapes, hhistory, hfirst, List.flatMap_cons, List.append_assoc, List.append_assoc]
    · rw [scrapes, hhistory', hsecond, List.flatten_cons, List.append_assoc]

end

/-- **Without a proxy a lookup is a request, and nothing more.** Another address is never asked for. Every
run goes on after its lookup as the run of the job without lookups goes on from there. If the client
overlooks the lookups, both jobs give the same results and count the same records, however often they are
run, and each round of requests is the same but for the lookup at its beginning. -/
theorem runs_beside_lookups (j : Job) {checkUrl : String} (hdirect : j.client.socksEnabled = false)
    (hcheck : j.addressUrl = some checkUrl) (s : JobState) (n : Nat) :
    let asked := { s with history := s.history ++ j.lookups }
    (j.scrapes n s).2.rotations = s.rotations ∧
    ((j.scrape s).1 = (j.unaware.scrape asked).1 ∧
      (j.scrape s).2.history = (j.unaware.scrape asked).2.history ∧
      (j.scrape s).2.total = (j.unaware.scrape asked).2.total) ∧
    (j.client.Overlooks checkUrl →
      (j.scrapes n s).1 = (j.unaware.scrapes n s).1 ∧
        (j.scrapes n s).2.total = (j.unaware.scrapes n s).2.total ∧
        ∃ rounds : List (List Request), rounds.length = n ∧
          (j.scrapes n s).2.history = s.history ++ rounds.flatMap (j.lookups ++ ·) ∧
          (j.unaware.scrapes n s).2.history = s.history ++ rounds.flatten) :=
  ⟨scrapes_rotations hcheck hdirect n s, scrape_after_lookup hcheck s,
    fun hover => scrapes_beside hcheck hover n ⟨.refl _, rfl, rfl⟩⟩

/-! ## A job that looks up its address in vain -/

/-- A job over a single page asks for its address and for the page. -/
theorem history_of_page {s : JobState} {schema : Schema} {url : Url} {body : String}
    (hrule : j.stopOn = none) (hschema : j.schema = some schema) (hpage : schema.isUrlList = false)
    (hurl : Url.parse j.url = .ok url)
    (hbody : j.client.getText (j.checkAddress s).history url.toText = .ok body) :
    (j.scrape s).2.history = (j.checkAddress s).history ++ [.get url.toText] := by
  have hopen := opened_eq_ok_iff.2 ⟨url, body, hschema, hurl, hbody, rfl, rfl⟩
  obtain ⟨-, hhistory, -⟩ := scrape_of_no_rule hrule hopen
  rw [hhistory, visits_of_page hpage]
  rfl

/-- A page and the url that tells the address of who asks, without a proxy. -/
def directJob : Job where
  name := "ip"
  url := "http://a.test/"
  schema := some rawSchema
  client := .serving fun url =>
    some (Text.Utf8.ofString (if url = "http://ip.test" then "10.0.0.1" else "<p>1</p>"))
  stopOn := none
  addressUrl := some "http://ip.test"
  childDelay := 0

/-- The address is asked for, although there is no proxy that could give another one. -/
theorem lookup_requested :
    directJob.client.socksEnabled = false ∧
    (directJob.scrape (.start .empty)).2.history = [.get "http://ip.test", .get "http://a.test/"] ∧
    (directJob.unaware.scrape (.start .empty)).2.history = [.get "http://a.test/"] := by
  have hurl : Url.parse directJob.url = .ok (.ofPage "") := by decide +kernel
  refine ⟨rfl, ?_, ?_⟩
  · exact history_of_page (j := directJob) rfl rfl rfl hurl rfl
  · exact history_of_page (j := directJob.unaware) rfl rfl rfl hurl rfl

theorem runs_beside_lookups_twice :
    (directJob.client.socksEnabled = false ∧ directJob.addressUrl = some "http://ip.test" ∧
      directJob.client.Overlooks "http://ip.test") ∧
    (directJob.scrapes 2 (.start .empty)).2.rotations = 0 ∧
    (directJob.scrapes 2 (.start .empty)).1 = (directJob.unaware.scrapes 2 (.start .empty)).1 ∧
    ∃ rounds : List (List Request), rounds.length = 2 ∧
      (directJob.scrapes 2 (.start .empty)).2.history =
        rounds.flatMap (.get "http://ip.test" :: ·) ∧
      (directJob.unaware.scrapes 2 (.start .empty)).2.history = rounds.flatten := by
  have hover : directJob.client.Overlooks "http://ip.test" := fun _ _ _ => rfl
  have hlookups : directJob.lookups = [.get "http://ip.test"] := by decide +kernel
  obtain ⟨hrotations, -, hboth⟩ := runs_beside_lookups directJob rfl rfl (.start .empty) 2
  obtain ⟨hresults, -, rounds, hlength, hhistory, hhistory'⟩ := hboth hover
  rw [hlookups] at hhistory
  exact ⟨⟨rfl, rfl, hover⟩, hrotations, hresults, rounds, hlength, hhistory, hhistory'⟩

end Job

end Harvest
