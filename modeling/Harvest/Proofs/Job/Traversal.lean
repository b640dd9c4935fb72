import Harvest.Job.Run
import Harvest.Proofs.Job.Visits

/-!
# What a traversal asks for and what it gives

`Progress.Adds` says which requests and which records lie between two states of a traversal. The pages up
to the one with the record that makes the traversal stop are asked for, and the records before that one
go out (`Traversal.run_follows`). For a run of a job this gives its result, its requests and its count
(`Job.scrape_eq`); what comes before the traversal does not depend on how the traversal stops
(`Job.opened`).
-/

namespace Harvest

/-! ## What a traversal adds -/

/-- `q` is what becomes of `p` when requests are made and records go out. -/
structure Progress.Adds (p : Progress (Array Record)) (requests : List Request)
    (records : List Record) (q : Progress (Array Record)) : Prop where
  history : q.history = p.history ++ requests
  types : q.registry.types = p.registry.types
  emitted : q.emitted = p.emitted + records.length
  total : q.total = p.total + records.length
  sink : q.sink.toList = p.sink.toList ++ records

namespace Progress.Adds

variable {p q q' : Progress (Array Record)} {requests requests' : List Request}
  {records records' : List Record}

theorem refl (p : Progress (Array Record)) : p.Adds [] [] p :=
  ⟨(List.append_nil _).symm, rfl, rfl, rfl, (List.append_nil _).symm⟩

theorem trans (h : p.Adds requests records q) (h' : q.Adds requests' records' q') :
    p.Adds (requests ++ requests') (records ++ records') q' where
  history := by rw [h'.history, h.history, List.append_assoc]
  types := h'.types.trans h.types
  emitted := by rw [h'.emitted, h.emitted, List.length_append, Nat.add_assoc]
  total := by rw [h'.total, h.total, List.length_append, Nat.add_assoc]
  sink := by rw [h'.sink, h.sink, List.append_assoc]

end Progress.Adds

namespace Traversal

variable {t : Traversal (Array Record)}

/-- The records before the first that makes the traversal stop go out, and the traversal goes on if
there is none that does. -/
structure Emits (t : Traversal (Array Record)) (p : Progress (Array Record)) (records : List Record)
    (result : Bool × Progress (Array Record)) : Prop where
  goesOn : result.1 = true ↔ StopRule.passed t.stops p.emitted records = records.length
  adds : p.Adds [] (records.take (StopRule.passed t.stops p.emitted records)) result.2

theorem Emits.nil (p : Progress (Array Record)) : t.Emits p [] (true, p) :=
  ⟨iff_of_true rfl rfl, .refl p⟩

/-- The records that have gone out, if the traversal goes on. -/
theorem Emits.adds_all {p : Progress (Array Record)} {records : List Record}
    {result : Bool × Progress (Array Record)} (h : t.Emits p records result)
    (hgoes : result.1 = true) : p.Adds [] records result.2 := by
  have hadds := h.adds
  rwa [h.goesOn.1 hgoes, List.take_length] at hadds

/-- What comes next, if the traversal goes on. -/
def goOn {ω : Type} (next : Progress ω → Bool × Progress ω) : Bool × Progress ω → Bool × Progress ω
  | (true, q) => next q
  | (false, q) => (false, q)

/-- Records in two parts, of which the second is reached only if the traversal goes on. -/
theorem Emits.append {p : Progress (Array Record)} {records others : List Record}
    {result : Bool × Progress (Array Record)}
    {next : Progress (Array Record) → Bool × Progress (Array Record)}
    (h : t.Emits p records result)
    (hnext : result.1 = true → t.Emits result.2 others (next result.2)) :
    t.Emits p (records ++ others) (goOn next result) := by
  obtain ⟨goes, q⟩ := result
  cases goes with
  | true =>
    have hall := h.goesOn.1 rfl
    have hadds := h.adds_all rfl
    have hrest := hnext rfl
    have hpassed := StopRule.passed_append t.stops p.emitted records others
    rw [if_pos hall, ← hadds.emitted] at hpassed
    refine ⟨?_, ?_⟩
    · rw [hpassed, List.length_append, Nat.add_left_cancel_iff]
      exact hrest.goesOn
    · rw [hpassed, List.take_length_add_append]
      exact hadds.trans hrest.adds
  | false =>
    have hstop : StopRule.passed t.stops p.emitted records ≠ records.length := fun hall =>
      Bool.false_ne_true (h.goesOn.2 hall)
    have hpassed := StopRule.passed_append t.stops p.emitted records others
    rw [if_neg hstop] at hpassed
    have hle := StopRule.passed_le t.stops p.emitted records
    refine ⟨?_, ?_⟩
    · rw [hpassed, List.length_append]
      exact iff_of_false Bool.false_ne_true (by omega)
    · rw [hpassed, List.take_append_of_le_length hle]
      exact h.adds

theorem emit_emits (hout : t.outlet = Job.keepAll) (record : Record) (p : Progress (Array Record)) :
    t.Emits p [record] (t.emit record p) := by
  unfold emit
  rw [hout]
  by_cases h : t.stops p.emitted record
  · have hnone : StopRule.passed t.stops p.emitted [record] = 0 := by
      rw [StopRule.passed, if_pos h]
    rw [if_pos h]
    refine ⟨?_, ?_⟩
    · rw [hnone]
      exact iff_of_false Bool.false_ne_true Nat.zero_ne_one
    · rw [hnone]
      exact .refl p
  · have hone : StopRule.passed t.stops p.emitted [record] = 1 := by
      rw [StopRule.passed, if_neg h]
      rfl
    rw [if_neg h]
    refine ⟨?_, ?_⟩
    · rw [hone]
      exact iff_of_true rfl rfl
    · rw [hone]
      exact ⟨(List.append_nil _).symm, rfl, rfl, rfl, Array.toList_push⟩

/-- Reading with another registry of the same types changes nothing about the records. -/
theorem emitEach_emits (hout : t.outlet = Job.keepAll) {read : Selection → Registered Record}
    (htypes : ∀ sel r, (read sel r).2.types = r.types)
    (hcongr : ∀ sel (r r' : Registry), r.types = r'.types → (read sel r).1 = (read sel r').1)
    (sels : List Selection) (p : Progress (Array Record)) {r : Registry}
    (hr : p.registry.types = r.types) :
    t.Emits p (sels.map fun sel => (read sel r).1) (t.emitEach read sels p) := by
  induction sels generalizing p with
  | nil => exact .nil p
  | cons sel more ih =>
    let p' := { p with registry := (read sel p.registry).2 }
    have hp' : p'.registry.types = r.types := (htypes sel p.registry).trans hr
    have hfirst : t.Emits p [(read sel r).1] (t.emit (read sel p.registry).1 p') := by
      have hemit := emit_emits hout (read sel p.registry).1 p'
      rw [hcongr sel p.registry r hr] at hemit ⊢
      obtain ⟨hhistory, htypes', hemitted, htotal, hsink⟩ := hemit.adds
      exact ⟨hemit.goesOn, hhistory, htypes'.trans (htypes sel p.registry), hemitted, htotal, hsink⟩
    exact hfirst.append fun hgoes => ih _ ((hfirst.adds_all hgoes).types.trans hr)

theorem childRecords_emits (hout : t.outlet = Job.keepAll) (page : WebPage) (schemas : List Schema)
    (p : Progress (Array Record)) {r : Registry} (hr : p.registry.types = r.types) :
    t.Emits p (Extract.nestedRecordsOf schemas r page.document) (t.childRecords page schemas p) := by
  induction schemas generalizing p with
  | nil => exact .nil p
  | cons s more ih =>
    have hfirst := emitEach_emits hout
      (fun sel r => Extract.mergeAll_types false s.properties sel [] r)
      (fun sel _ _ h => Extract.mergeAll_congr_types false s.properties sel [] h)
      (Selection.ofDocument page.document s.selector).each p hr
    exact hfirst.append fun hgoes => ih _ ((hfirst.adds_all hgoes).types.trans hr)

/-! ## Following links -/

/-- The pages up to the one with the record that makes the traversal stop are asked for, and the records
before that one go out. -/
def Follows (t : Traversal (Array Record)) (p : Progress (Array Record)) (visits : List Visit)
    (q : Progress (Array Record)) : Prop :=
  let k := StopRule.passed t.stops p.emitted (visits.flatMap Visit.records)
  p.Adds ((Visit.upTo k visits).map Visit.request) ((visits.flatMap Visit.records).take k) q

theorem Follows.nil (p : Progress (Array Record)) : t.Follows p [] p :=
  .refl p

/-- What comes after a page, if the traversal goes on. -/
def goOnWith {ω : Type} (next : Progress ω → Progress ω) : Bool × Progress ω → Progress ω
  | (true, q) => next q
  | (false, q) => q

/-- A page, and the pages after it if the traversal goes on. -/
theorem Follows.append {p : Progress (Array Record)} {visit others : List Visit}
    {result : Bool × Progress (Array Record)} {next : Progress (Array Record) → Progress (Array Record)}
    (hone : ∀ k, Visit.upTo k visit = visit)
    (h : t.Emits { p with history := p.history ++ visit.map Visit.request }
      (visit.flatMap Visit.records) result)
    (hnext : result.1 = true → t.Follows result.2 others (next result.2)) :
    t.Follows p (visit ++ others) (goOnWith next result) := by
  obtain ⟨goes, q⟩ := result
  have hrequest : p.Adds (visit.map Visit.request) []
      { p with history := p.history ++ visit.map Visit.request } :=
    ⟨rfl, rfl, rfl, rfl, (List.append_nil _).symm⟩
  have hpassed := StopRule.passed_append t.stops p.emitted (visit.flatMap Visit.records)
    (others.flatMap Visit.records)
  dsimp only [Follows]
  rw [List.flatMap_append, Visit.upTo_append]
  cases goes with
  | true =>
    have hall := h.goesOn.1 rfl
    have hadds := hrequest.trans (h.adds_all rfl)
    rw [List.append_nil, List.nil_append] at hadds
    rw [if_pos hall, ← hadds.emitted] at hpassed
    rw [hpassed, if_pos (Nat.le_add_right _ _), Nat.add_sub_cancel_left, List.map_append,
      List.take_length_add_append]
    exact hadds.trans (hnext rfl)
  | false =>
    have hstop := fun hall => Bool.false_ne_true (h.goesOn.2 hall)
    have hle := StopRule.passed_le t.stops p.emitted (visit.flatMap Visit.records)
    have hadds := hrequest.trans h.adds
    rw [List.append_nil, List.nil_append] at hadds
    rw [if_neg hstop] at hpassed
    rw [hpassed, if_neg (fun hge => hstop (Nat.le_antisymm hle hge)), hone,
      List.take_append_of_le_length hle]
    exact hadds

theorem childVisit_upTo (s : Schema) (c : Client) (r : Registry) (h : History) (url : Url) (k : Nat) :
    Visit.upTo k (s.childVisit c r h url) = s.childVisit c r h url := by
  unfold Schema.childVisit
  cases Url.parse url.toText with
  | error fault => rfl
  | ok parsed =>
    change (if _ then _ else _) = _
    split <;> rfl

theorem childPage_emits (hout : t.outlet = Job.keepAll) (url : Url) (p : Progress (Array Record))
    {r : Registry} (hr : p.registry.types = r.types) :
    t.Emits
      { p with
        history := p.history ++
          (t.schema.childVisit t.client r p.history url).map Visit.request }
      ((t.schema.childVisit t.client r p.history url).flatMap Visit.records) (t.childPage url p) := by
  unfold childPage Client.fetchPage Client.fetchText Schema.childVisit
  cases Url.parse url.toText with
  | error fault =>
    rw [List.map_nil, List.append_nil]
    exact .nil p
  | ok parsed =>
    cases hanswer : t.client.getText p.history url.toText with
    | error e => exact .nil _
    | ok body =>
      have hemits := childRecords_emits hout (.parse parsed body) t.schema.properties
        { p with history := p.history ++ [.get url.toText] } hr
      rw [List.flatMap_cons, List.flatMap_nil, List.append_nil]
      exact hemits

theorem pause_history (count : Nat) (p : Progress (Array Record)) :
    (t.pause count p).history = p.history := by
  unfold pause
  split <;> rfl

/-- Waiting makes no difference to what goes out. -/
theorem Emits.of_pause {count : Nat} {p : Progress (Array Record)} {h : History}
    {records : List Record} {result : Bool × Progress (Array Record)}
    (hemits : t.Emits { t.pause count p with history := h } records result) :
    t.Emits { p with history := h } records result := by
  unfold pause at hemits
  split at hemits
  · obtain ⟨hgoes, hhistory, htypes, hemitted, htotal, hsink⟩ := hemits
    exact ⟨hgoes, hhistory, htypes, hemitted, htotal, hsink⟩
  · exact hemits

theorem limitReached_iff {count : Nat} :
    t.limitReached count = true ↔ ¬(t.schema.limit = 0 ∨ count < t.schema.limit) := by
  simp only [limitReached, Bool.and_eq_true, decide_eq_true_eq]
  omega

theorem childPages_cons {ω : Type} {t : Traversal ω} (base : Url) (count : Nat) (link : Selection)
    (more : List Selection) (p : Progress ω) :
    t.childPages base count (link :: more) p =
      match t.schema.target? base link with
      | none => p
      | some url =>
        goOnWith
          (fun q => if t.limitReached (count + 1) then q else t.childPages base (count + 1) more q)
          (t.childPage url (t.pause count p)) := by
  rw [childPages]
  change (match t.schema.target? base link with | none => p | some url => _) = _
  cases t.schema.target? base link with
  | none => rfl
  | some url =>
    dsimp only
    rcases t.childPage url (t.pause count p) with ⟨_ | _, q⟩ <;> rfl

/-- The links of a list are followed one after the other, as far as they lead somewhere and the limit
allows, until a record makes the traversal stop. -/
theorem childPages_follows (hout : t.outlet = Job.keepAll) (base : Url) (links : List Selection)
    {count : Nat} (hcount : t.schema.limit = 0 ∨ count < t.schema.limit)
    (p : Progress (Array Record)) {r : Registry} (hr : p.registry.types = r.types) :
    t.Follows p
      (t.schema.childVisits t.client r p.history
        (t.schema.allowed count (t.schema.targets base links)))
      (t.childPages base count links p) := by
  induction links generalizing count p with
  | nil =>
    rw [Schema.targets, Schema.allowed, List.take_nil, ite_self]
    exact .nil p
  | cons link more ih =>
    rw [childPages_cons, Schema.targets]
    cases t.schema.target? base link with
    | none =>
      dsimp only
      rw [Schema.allowed, List.take_nil, ite_self]
      exact .nil p
    | some url =>
      have hpaused : (t.pause count p).registry.types = r.types := by
        rw [← hr]
        unfold pause
        split <;> rfl
      have hpage := (childPage_emits hout url (t.pause count p) hpaused).of_pause
      rw [pause_history] at hpage
      dsimp only
      rw [t.schema.allowed_cons hcount, Schema.childVisits]
      refine .append (childVisit_upTo _ _ _ _ url) hpage fun hgoes => ?_
      have hadds := hpage.adds_all hgoes
      by_cases hmore : t.schema.limit = 0 ∨ count + 1 < t.schema.limit
      · have hlimit : ¬t.limitReached (count + 1) = true := fun h => limitReached_iff.1 h hmore
        have hrest := ih hmore (t.childPage url (t.pause count p)).2 (hadds.types.trans hr)
        rw [hadds.history, List.append_nil] at hrest
        rw [if_pos hmore, if_neg hlimit]
        exact hrest
      · rw [if_neg hmore, if_pos (limitReached_iff.2 hmore)]
        exact .nil _

/-- The records of the page itself come first, and then the pages that it leads to. -/
theorem run_follows (hout : t.outlet = Job.keepAll) (page : WebPage) (p : Progress (Array Record)) :
    let own := t.schema.pageRecords p.registry page
    let visits := t.schema.pageVisits t.client p.registry p.history page
    let k := StopRule.passed t.stops p.emitted (own ++ visits.flatMap Visit.records)
    p.Adds ((Visit.upTo (k - own.length) visits).map Visit.request)
      ((own ++ visits.flatMap Visit.records).take k) (t.run page p) := by
  unfold run Schema.pageRecords Schema.pageVisits
  by_cases hlist : t.schema.isUrlList = true
  · rw [if_pos hlist, if_pos hlist, if_pos hlist]
    have hcount : t.schema.limit = 0 ∨ 0 < t.schema.limit := Nat.eq_zero_or_pos _
    exact childPages_follows hout page.url (t.schema.links page) hcount p rfl
  · rw [if_neg hlist, if_neg hlist, if_neg hlist]
    have hemits := emitEach_emits hout
      (fun sel r => Extract.mergeAll_types true t.schema.properties sel [] r)
      (fun sel _ _ h => Extract.mergeAll_congr_types true t.schema.properties sel [] h)
      (Selection.ofDocument page.document t.schema.selector).each p rfl
    dsimp only
    rw [List.flatMap_nil, List.append_nil]
    exact hemits.adds

end Traversal

/-! ## Runs of a job -/

namespace Job

variable (j : Job)

/-- What a run does before the traversal: it looks up its address and fetches the page. -/
def opened (s : JobState) : Except ScrapeError (Schema × WebPage) × JobState :=
  match j.schema with
  | none => (.error .noSchema, s)
  | some schema =>
    match Url.parse j.url with
    | .error fault => (.error (.invalidUrl j.url fault), s)
    | .ok url =>
      match j.fetchTop url (j.checkAddress s) with
      | (.error e, s) => (.error e, s)
      | (.ok page, s) => (.ok (schema, page), s)

/-- The rule that stops a run. -/
def stops : StopRule :=
  j.stopOn.getD fun _ _ => false

/-- The visits of a run that nothing stops, from the state in which the page has been fetched. -/
def visits (schema : Schema) (page : WebPage) (s : JobState) : List Visit :=
  ⟨page.url, schema.pageRecords s.registry page⟩ ::
    schema.pageVisits j.client s.registry s.history page

variable {j}

theorem scrapeInto_eq {ω : Type} (outlet : Outlet ω) (sink : ω) (s : JobState) :
    j.scrapeInto outlet sink s =
      match j.opened s with
      | (.error e, s') => (.error e, s')
      | (.ok (schema, page), s') =>
        (.ok (j.traverse schema outlet sink page s').1, (j.traverse schema outlet sink page s').2) := by
  unfold scrapeInto opened
  cases j.schema with
  | none => rfl
  | some schema =>
    cases Url.parse j.url with
    | error fault => rfl
    | ok url =>
      dsimp only
      rcases j.fetchTop url (j.checkAddress s) with ⟨_ | page, s'⟩ <;> rfl

theorem scrape_of_refused {s s' : JobState} {e : ScrapeError} (h : j.opened s = (.error e, s')) :
    j.scrape s = (.error e, s') := by
  rw [scrape, scrapeInto_eq, h]
  rfl

theorem checkAddress_eq (s : JobState) :
    (j.checkAddress s).registry = s.registry ∧ (j.checkAddress s).total = s.total := by
  unfold checkAddress Client.fetchText
  cases j.addressUrl with
  | none => exact ⟨rfl, rfl⟩
  | some url =>
    dsimp only
    cases j.client.getText s.history url with
    | error e => exact ⟨rfl, rfl⟩
    | ok body =>
      dsimp only [noteAddress]
      split <;> exact ⟨rfl, rfl⟩

/-- A run is opened exactly if there is a schema and the page can be fetched. -/
theorem opened_eq_ok_iff {s s' : JobState} {schema : Schema} {page : WebPage} :
    j.opened s = (.ok (schema, page), s') ↔
      ∃ url body, j.schema = some schema ∧ Url.parse j.url = .ok url ∧
        j.client.getText (j.checkAddress s).history url.toText = .ok body ∧
        page = .parse url body ∧
        s' = { j.checkAddress s with history := (j.checkAddress s).history ++ [.get url.toText] } := by
  unfold opened fetchTop Client.fetchText
  constructor
  · intro h
    cases hschema : j.schema with
    | none => rw [hschema] at h; cases h
    | some schema' =>
      rw [hschema] at h
      cases hurl : Url.parse j.url with
      | error fault => rw [hurl] at h; cases h
      | ok url =>
        rw [hurl] at h
        dsimp only at h
        cases hbody : j.client.getText (j.checkAddress s).history url.toText with
        | error e => rw [hbody] at h; cases h
        | ok body =>
          rw [hbody] at h
          cases h
          exact ⟨url, body, rfl, rfl, hbody, rfl, rfl⟩
  · rintro ⟨url, body, hschema, hurl, hbody, rfl, rfl⟩
    rw [hschema, hurl]
    dsimp only
    rw [hbody]

theorem stops_eq {t : Traversal (Array Record)} (h : t.stopOn = j.stopOn) : t.stops = j.stops := by
  funext index record
  unfold Traversal.stops stops
  rw [h]
  cases j.stopOn <;> rfl

/-- The page that a run begins with is always asked for. -/
theorem upTo_visits (k : Nat) (schema : Schema) (page : WebPage) (s : JobState) :
    Visit.upTo k (j.visits schema page s) =
      ⟨page.url, schema.pageRecords s.registry page⟩ ::
        Visit.upTo (k - (schema.pageRecords s.registry page).length)
          (schema.pageVisits j.client s.registry s.history page) := by
  rw [visits, Visit.upTo, Schema.pageRecords, Schema.pageVisits]
  by_cases hlist : schema.isUrlList = true
  · rw [if_pos hlist, if_pos hlist]
    exact if_neg (Nat.not_lt_zero k)
  · rw [if_neg hlist, if_neg hlist, Visit.upTo, ite_self]

/-- A run gives the records before the one that stops it, and asks for the pages up to the one that holds
this record. -/
theorem scrape_eq {s s' : JobState} {schema : Schema} {page : WebPage}
    (h : j.opened s = (.ok (schema, page), s')) :
    let visits := j.visits schema page s'
    let k := j.stops.passed 0 (visits.flatMap Visit.records)
    (j.scrape s).1 = .ok ((visits.flatMap Visit.records).take k) ∧
      (j.scrape s).2.history =
        (j.checkAddress s).history ++ (Visit.upTo k visits).map Visit.request ∧
      (j.scrape s).2.total = s.total + k := by
  intro visits k
  obtain ⟨url, body, -, -, -, rfl, hs'⟩ := opened_eq_ok_iff.1 h
  have hhistory : s'.history = (j.checkAddress s).history ++ [.get url.toText] := by rw [hs']
  have htotal : s'.total = s.total := by rw [hs']; exact (checkAddress_eq s).2
  let t : Traversal (Array Record) := ⟨j.client, schema, j.stopOn, j.childDelay, keepAll⟩
  have hstops : t.stops = j.stops := stops_eq rfl
  have hrun := t.run_follows rfl (.parse url body) ⟨s'.history, s'.registry, 0, s'.total, s'.waited, #[]⟩
  rw [hstops] at hrun
  rw [scrape, scrapeInto_eq, h]
  refine ⟨congrArg Except.ok hrun.sink, ?_, ?_⟩
  · rw [upTo_visits, List.map_cons, List.append_cons]
    exact hrun.history.trans (congrArg (· ++ _) hhistory)
  · have hle : k ≤ (visits.flatMap Visit.records).length := StopRule.passed_le _ _ _
    have hcount := hrun.total
    rw [List.length_take] at hcount
    rw [← htotal]
    exact hcount.trans (congrArg (s'.total + ·) (Nat.min_eq_left hle))

/-- Without a rule, a run gives all records and asks for all pages. -/
theorem scrape_of_no_rule (hrule : j.stopOn = none) {s s' : JobState} {schema : Schema}
    {page : WebPage} (h : j.opened s = (.ok (schema, page), s')) :
    let visits := j.visits schema page s'
    (j.scrape s).1 = .ok (visits.flatMap Visit.records) ∧
      (j.scrape s).2.history = (j.checkAddress s).history ++ visits.map Visit.request ∧
      (j.scrape s).2.total = s.total + (visits.flatMap Visit.records).length := by
  intro visits
  have hnever : ∀ index record, j.stops index record = false := by
    intro index record
    rw [stops, hrule]
    rfl
  have hall := StopRule.passed_of_never hnever 0 (visits.flatMap Visit.records)
  obtain ⟨hresult, hhistory, htotal⟩ := scrape_eq h
  rw [hall, List.take_length] at hresult
  rw [hall, Visit.upTo_of_le (Nat.le_refl _)] at hhistory
  rw [hall] at htotal
  exact ⟨hresult, hhistory, htotal⟩

end Job

end Harvest
