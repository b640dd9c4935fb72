import Mathlib.Data.List.Forall2
import Mathlib.Order.Bounds.Basic
import Harvest.Client.Static
import Harvest.Proofs.Extract.Selection
import Harvest.Proofs.Job.Traversal

/-!
# Lists of links

A job whose page is a list of links follows the links from the first one on, as long as each leads
somewhere and no more than the limit allows (`Schema.Followable`), and it gives the records of the child
pages that it can fetch (`list_scrape`). A smaller limit only cuts records and requests off at the end.
-/

namespace Harvest

/-- The answers to requests for several urls, one after the other. -/
def Client.answers (c : Client) : History → List Url → List (Except ClientError String)
  | _, [] => []
  | h, url :: more => c.getText h url.toText :: c.answers (h ++ [.get url.toText]) more

namespace Schema

variable (s : Schema)

/-- A link of a list leads to a url. -/
def Leads (base : Url) (link : Selection) (url : Url) : Prop :=
  ∃ reference, Path.resolve s.css link = some reference ∧ base.join reference = .ok url

/-- The first `m` links of a list can be followed. -/
structure Followable (page : WebPage) (m : Nat) : Prop where
  le_length : m ≤ (s.links page).length
  le_limit : 0 < s.limit → m ≤ s.limit
  leads : ∀ link ∈ (s.links page).take m, ∃ url, s.Leads page.url link url

variable {s}

/-! ## The urls that links lead to -/

theorem target?_eq_some_iff {base url : Url} {link : Selection} :
    s.target? base link = some url ↔ s.Leads base link url := by
  unfold target? Leads
  rw [Option.bind_eq_some_iff]
  refine exists_congr fun reference => and_congr_right fun _ => ?_
  cases base.join reference with
  | error fault => exact iff_of_false (fun h => by cases h) (fun h => by cases h)
  | ok joined => exact ⟨fun h => by cases h; rfl, fun h => by cases h; rfl⟩

theorem targets_leads (base : Url) (links : List Selection) :
    List.Forall₂ (s.Leads base) (links.take (s.targets base links).length) (s.targets base links) := by
  induction links with
  | nil => exact .nil
  | cons link more ih =>
    rw [targets]
    cases hlink : s.target? base link with
    | none => exact .nil
    | some url => exact .cons (target?_eq_some_iff.1 hlink) ih

theorem targets_length_le (base : Url) (links : List Selection) :
    (s.targets base links).length ≤ links.length := by
  have hlength := (s.targets_leads base links).length_eq
  rw [List.length_take] at hlength
  omega

/-- All links that lead somewhere, from the first one on, are among the targets. -/
theorem le_targets_length {base : Url} {links : List Selection} {m : Nat} (hm : m ≤ links.length)
    (h : ∀ link ∈ links.take m, ∃ url, s.Leads base link url) :
    m ≤ (s.targets base links).length := by
  induction links generalizing m with
  | nil => exact Nat.le_trans hm (Nat.zero_le _)
  | cons link more ih =>
    cases m with
    | zero => exact Nat.zero_le _
    | succ m =>
      obtain ⟨url, hurl⟩ := h link List.mem_cons_self
      rw [targets, target?_eq_some_iff.2 hurl]
      exact Nat.succ_le_succ
        (ih (Nat.le_of_succ_le_succ hm) fun l hl => h l (List.mem_cons_of_mem _ hl))

theorem childUrls_length (page : WebPage) :
    (s.childUrls page).length =
      if s.limit = 0 then (s.targets page.url (s.links page)).length
      else min s.limit (s.targets page.url (s.links page)).length := by
  unfold childUrls allowed
  split
  · rfl
  · rw [List.length_take, Nat.sub_zero]

theorem childUrls_leads (page : WebPage) :
    List.Forall₂ (s.Leads page.url) ((s.links page).take (s.childUrls page).length)
      (s.childUrls page) := by
  have htargets := s.targets_leads page.url (s.links page)
  by_cases hzero : s.limit = 0
  · rw [childUrls, allowed, if_pos hzero]
    exact htargets
  · have hallowed := List.forall₂_take s.limit htargets
    rw [List.take_take] at hallowed
    rw [childUrls_length, if_neg hzero, childUrls, allowed, if_neg hzero, Nat.sub_zero]
    exact hallowed

/-- A link leads to one url at most. -/
theorem map_target?_of_leads {base : Url} {links : List Selection} {urls : List Url}
    (h : List.Forall₂ (s.Leads base) links urls) : links.map (s.target? base) = urls.map some := by
  induction h with
  | nil => rfl
  | cons hleads _ ih => rw [List.map_cons, List.map_cons, target?_eq_some_iff.2 hleads, ih]

theorem exists_link_of_mem_childUrls {page : WebPage} {url : Url} (h : url ∈ s.childUrls page) :
    ∃ link ∈ s.links page, s.Leads page.url link url := by
  obtain ⟨i, hi, rfl⟩ := List.mem_iff_getElem.1 h
  have hleads := s.childUrls_leads page
  have hi' : i < ((s.links page).take (s.childUrls page).length).length := by
    rw [hleads.length_eq]
    exact hi
  exact ⟨_, List.mem_of_mem_take (List.getElem_mem hi'), hleads.get hi' hi⟩

theorem followable_childUrls (page : WebPage) : s.Followable page (s.childUrls page).length := by
  have hle := s.targets_length_le page.url (s.links page)
  have hlength := s.childUrls_length page
  refine ⟨?_, fun hlimit => ?_, fun link hlink => ?_⟩
  · split at hlength <;> omega
  · rw [if_neg (Nat.ne_of_gt hlimit)] at hlength
    omega
  · obtain ⟨i, hi, rfl⟩ := List.mem_iff_getElem.1 hlink
    have hleads := s.childUrls_leads page
    exact ⟨_, hleads.get hi (hleads.length_eq ▸ hi)⟩

/-- Exactly the links that can be followed are followed. -/
theorem isGreatest_childUrls (page : WebPage) :
    IsGreatest {m | s.Followable page m} (s.childUrls page).length := by
  refine ⟨s.followable_childUrls page, fun m hm => ?_⟩
  have hle := le_targets_length hm.le_length hm.leads
  rw [childUrls_length]
  split
  · exact hle
  · next hlimit => exact Nat.le_min.2 ⟨hm.le_limit (Nat.pos_of_ne_zero hlimit), hle⟩

/-! ## Visits to child pages -/

/-- Where all addresses can be read back, each url is asked for. -/
theorem childVisits_eq (c : Client) (r : Registry) (h : History) {urls : List Url}
    (hread : ∀ url ∈ urls, Url.parse url.toText = .ok url) :
    (s.childVisits c r h urls).map Visit.request = urls.map (fun url => .get url.toText) ∧
      (s.childVisits c r h urls).flatMap Visit.records =
        ((c.answers h urls).filterMap Except.toOption).flatMap
          (fun body => Extract.nestedRecordsOf s.properties r (.parse body)) := by
  induction urls generalizing h with
  | nil => exact ⟨rfl, rfl⟩
  | cons url more ih =>
    have hvisit : s.childVisit c r h url = [⟨url, s.recordsOfAnswer r (c.getText h url.toText)⟩] := by
      rw [childVisit, hread url List.mem_cons_self]
    obtain ⟨hrequests, hrecords⟩ :=
      @ih (h ++ [.get url.toText]) fun u hu => hread u (List.mem_cons_of_mem _ hu)
    rw [childVisits, hvisit, Client.answers, List.map_append, List.flatMap_append]
    refine ⟨congrArg (Request.get url.toText :: ·) hrequests, ?_⟩
    refine (congrArg (_ ++ ·) hrecords).trans ?_
    cases c.getText h url.toText with
    | error e => rfl
    | ok body =>
      simp only [List.filterMap_cons, Except.toOption, List.flatMap_cons, List.flatMap_nil,
        List.append_nil]
      rfl

theorem childVisits_append (c : Client) (r : Registry) (h : History) (urls others : List Url) :
    s.childVisits c r h (urls ++ others) =
      s.childVisits c r h urls ++
        s.childVisits c r (h ++ (s.childVisits c r h urls).map Visit.request) others := by
  induction urls generalizing h with
  | nil => rw [List.nil_append, childVisits, List.map_nil, List.append_nil, List.nil_append]
  | cons url more ih =>
    rw [List.cons_append, childVisits, childVisits, ih, List.map_append, List.append_assoc,
      List.append_assoc]

/-! ## Limits -/

/-- The schema with another limit. -/
def withLimit (s : Schema) (limit : Nat) : Schema :=
  { s with limit := limit }

theorem targets_withLimit (limit : Nat) (base : Url) (links : List Selection) :
    (s.withLimit limit).targets base links = s.targets base links := by
  induction links with
  | nil => rfl
  | cons link more ih =>
    rw [targets, targets, ih]
    rfl

theorem childVisits_withLimit (limit : Nat) (c : Client) (r : Registry) (h : History)
    (urls : List Url) : (s.withLimit limit).childVisits c r h urls = s.childVisits c r h urls := by
  induction urls generalizing h with
  | nil => rfl
  | cons url more ih =>
    rw [childVisits, childVisits, ih]
    rfl

/-- A smaller limit lets fewer links be followed, from the first one on. -/
theorem childUrls_prefix {limit limit' : Nat} (h : limit' = 0 ∨ 0 < limit ∧ limit ≤ limit')
    (page : WebPage) :
    (s.withLimit limit).childUrls page <+: (s.withLimit limit').childUrls page := by
  unfold childUrls
  rw [targets_withLimit, targets_withLimit]
  change (if limit = 0 then _ else List.take (limit - 0) _) <+:
    (if limit' = 0 then _ else List.take (limit' - 0) _)
  change (if limit = 0 then s.targets page.url (s.links page) else _) <+:
    (if limit' = 0 then s.targets page.url (s.links page) else _)
  by_cases hzero : limit' = 0
  · rw [if_pos hzero]
    split
    · exact List.prefix_refl _
    · exact List.take_prefix _ _
  · obtain ⟨hpos, hle⟩ := h.resolve_left hzero
    rw [if_neg hzero, if_neg (Nat.ne_of_gt hpos)]
    exact List.take_prefix_take_left hle

theorem pageVisits_prefix {limit limit' : Nat} (h : limit' = 0 ∨ 0 < limit ∧ limit ≤ limit')
    (c : Client) (r : Registry) (past : History) (page : WebPage) :
    (s.withLimit limit).pageVisits c r past page <+: (s.withLimit limit').pageVisits c r past page := by
  obtain ⟨more, hmore⟩ := s.childUrls_prefix h page
  unfold pageVisits
  change (if s.isUrlList then _ else _) <+: (if s.isUrlList then _ else _)
  split
  · rw [← hmore, childVisits_withLimit, childVisits_withLimit, childVisits_append]
    exact List.prefix_append _ _
  · exact List.prefix_refl _

end Schema

namespace Job

/-- The job with another limit on the links of a list. -/
def withLimit (j : Job) (limit : Nat) : Job :=
  { j with schema := j.schema.map fun s => s.withLimit limit }

theorem opened_withLimit {j : Job} {s s' : JobState} {schema : Schema} {page : WebPage}
    (h : j.opened s = (.ok (schema, page), s')) (limit : Nat) :
    (j.withLimit limit).opened s = (.ok (schema.withLimit limit, page), s') := by
  obtain ⟨url, body, hschema, hrest⟩ := opened_eq_ok_iff.1 h
  have hlimit : (j.withLimit limit).schema = some (schema.withLimit limit) := by
    rw [withLimit, hschema]
    rfl
  exact opened_eq_ok_iff.2 ⟨url, body, hlimit, hrest⟩

theorem visits_of_list {j : Job} {schema : Schema} (hlist : schema.isUrlList = true) (page : WebPage)
    (s : JobState) :
    j.visits schema page s =
      ⟨page.url, []⟩ ::
        schema.childVisits j.client s.registry s.history (schema.childUrls page) := by
  rw [visits, Schema.pageRecords, Schema.pageVisits, if_pos hlist, if_pos hlist]

theorem visits_withLimit_prefix {j : Job} {limit limit' : Nat}
    (h : limit' = 0 ∨ 0 < limit ∧ limit ≤ limit') (schema : Schema) (page : WebPage) (s : JobState) :
    (j.withLimit limit).visits (schema.withLimit limit) page s <+:
      (j.withLimit limit').visits (schema.withLimit limit') page s :=
  (List.prefix_cons_inj _).2 (schema.pageVisits_prefix h j.client s.registry s.history page)

/-- **A job over a list gives the records of the child pages, in the order of the links.** -/
theorem list_scrape (j : Job) (s : JobState) (schema : Schema) (url : Url) (body : String)
    (hrule : j.stopOn = none) (hschema : j.schema = some schema) (hlist : schema.isUrlList = true)
    (hurl : Url.parse j.url = .ok url)
    (hbody : j.client.getText (j.checkAddress s).history url.toText = .ok body)
    (hread : ∀ link ∈ schema.links (.parse url body), ∀ child, schema.Leads url link child →
      Url.parse child.toText = .ok child) :
    let page := WebPage.parse url body
    let before := (j.checkAddress s).history ++ [.get url.toText]
    (∃ m urls, IsGreatest {m | schema.Followable page m} m ∧
      List.Forall₂ (schema.Leads url) ((schema.links page).take m) urls ∧
      (j.scrape s).2.history = before ++ urls.map (fun child => .get child.toText) ∧
      (j.scrape s).1 = .ok (((j.client.answers before urls).filterMap Except.toOption).flatMap
        fun body => Extract.nestedRecordsOf schema.properties s.registry (.parse body))) ∧
    ∀ limit limit', limit' = 0 ∨ 0 < limit ∧ limit ≤ limit' → ∃ records records',
      ((j.withLimit limit).scrape s).1 = .ok records ∧
      ((j.withLimit limit').scrape s).1 = .ok records' ∧ records <+: records' ∧
      ((j.withLimit limit).scrape s).2.history <+: ((j.withLimit limit').scrape s).2.history := by
  intro page before
  have hopen : j.opened s = (.ok (schema, page), { j.checkAddress s with history := before }) :=
    opened_eq_ok_iff.2 ⟨url, body, hschema, hurl, hbody, rfl, rfl⟩
  refine ⟨⟨_, schema.childUrls page, schema.isGreatest_childUrls page, schema.childUrls_leads page,
    ?_⟩, fun limit limit' hle => ?_⟩
  · obtain ⟨hresult, hhistory, -⟩ := scrape_of_no_rule hrule hopen
    have hread' : ∀ child ∈ schema.childUrls page, Url.parse child.toText = .ok child := by
      intro child hchild
      obtain ⟨link, hlink, hleads⟩ := schema.exists_link_of_mem_childUrls hchild
      exact hread link hlink child hleads
    obtain ⟨hrequests, hrecords⟩ :=
      schema.childVisits_eq j.client (j.checkAddress s).registry before hread'
    rw [visits_of_list hlist] at hresult hhistory
    rw [← (checkAddress_eq (j := j) s).1]
    refine ⟨?_, hresult.trans (congrArg Except.ok hrecords)⟩
    rw [hhistory, List.map_cons, List.append_cons, ← hrequests]
    rfl
  · obtain ⟨hresult, hhistory, -⟩ := scrape_of_no_rule (j := j.withLimit limit) hrule
      (opened_withLimit hopen limit)
    obtain ⟨hresult', hhistory', -⟩ := scrape_of_no_rule (j := j.withLimit limit') hrule
      (opened_withLimit hopen limit')
    obtain ⟨more, hmore⟩ := visits_withLimit_prefix (j := j) hle schema page
      { j.checkAddress s with history := before }
    refine ⟨_, _, hresult, hresult', ?_, ?_⟩
    · rw [← hmore, List.flatMap_append]
      exact List.prefix_append _ _
    · rw [hhistory, hhistory', ← hmore, List.map_append, ← List.append_assoc]
      exact List.prefix_append _ _

/-! ## A list of three links -/

/-- A list with a link that cannot be fetched, one that can, and one that leads nowhere. -/
def shelf : String := "<a href=1></a><a href=2></a><a>"

/-- At most two links are followed, and the names on the pages behind them are read. -/
def shelfSchema : Schema :=
  { Schema.empty with
    css := ["a", "href"]
    kind := .urlList
    limit := 2
    properties := [
      { Schema.empty with css := ["p"], properties := [{ Schema.empty with id := "name" }] }] }

/-- Serves the list and one of its pages. -/
def shelfClient : Client :=
  .serving fun url =>
    if url = "http://a.test/shelf" then some (Text.Utf8.ofString shelf)
    else if url = "http://a.test/2" then some (Text.Utf8.ofString "<p>b")
    else none

theorem shelf_links :
    shelfSchema.links (.parse (.ofPage "shelf") shelf) = [3, 4, 5].map fun n => ⟨.parse shelf, [n]⟩ := by
  have horder : (Markup.Document.parse shelf).InOrder := by decide +kernel
  have hstanding : Selection.standing (.parse shelf) shelfSchema.selector = [3, 4, 5] := by decide +kernel
  change (Selection.ofDocument (.parse shelf) shelfSchema.selector).each = _
  rw [Selection.ofDocument_of_inOrder horder, hstanding]
  rfl

theorem shelf_targets :
    (shelfSchema.links (.parse (.ofPage "shelf") shelf)).map (shelfSchema.target? (.ofPage "shelf")) =
      [some (.ofPage "1"), some (.ofPage "2"), none] := by
  rw [shelf_links]
  decide +kernel

theorem shelf_childUrls :
    shelfSchema.childUrls (.parse (.ofPage "shelf") shelf) = [.ofPage "1", .ofPage "2"] := by
  rw [Schema.childUrls, shelf_links]
  decide +kernel

theorem shelf_records :
    Extract.nestedRecordsOf shelfSchema.properties .empty (.parse "<p>b") = [[("name", .text "b")]] := by
  have horder : (Markup.Document.parse "<p>b").InOrder := by decide +kernel
  simp only [Extract.nestedRecordsOf, Selection.ofDocument_of_inOrder horder]
  with_unfolding_all rfl

/-- Both links are followed, and the second leads to the one record. -/
theorem list_scrape_shelf :
    let job := plain "shelf" "http://a.test/shelf" (some shelfSchema) shelfClient
    let page := WebPage.parse (.ofPage "shelf") shelf
    (shelfSchema.isUrlList = true ∧ Url.parse job.url = .ok (.ofPage "shelf") ∧
      job.client.getText [] (Url.ofPage "shelf").toText = .ok shelf ∧
      ∀ link ∈ shelfSchema.links page, ∀ child, shelfSchema.Leads (.ofPage "shelf") link child →
        Url.parse child.toText = .ok child) ∧
    IsGreatest {m | shelfSchema.Followable page m} 2 ∧
    List.Forall₂ (shelfSchema.Leads (.ofPage "shelf")) ((shelfSchema.links page).take 2)
      [.ofPage "1", .ofPage "2"] ∧
    (job.scrape (.start .empty)).2.history =
      [.get "http://a.test/shelf", .get "http://a.test/1", .get "http://a.test/2"] ∧
    (job.scrape (.start .empty)).1 = .ok [[("name", .text "b")]] := by
  intro job page
  have hurl : Url.parse job.url = .ok (.ofPage "shelf") := by decide +kernel
  have hbody : job.client.getText [] (Url.ofPage "shelf").toText = .ok shelf := by decide +kernel
  have hread : ∀ link ∈ shelfSchema.links page, ∀ child,
      shelfSchema.Leads (.ofPage "shelf") link child → Url.parse child.toText = .ok child := by
    intro link hlink child hleads
    have htarget := List.mem_map_of_mem (f := shelfSchema.target? (.ofPage "shelf")) hlink
    rw [shelf_targets, Schema.target?_eq_some_iff.2 hleads] at htarget
    have hchild : child = .ofPage "1" ∨ child = .ofPage "2" := by simpa using htarget
    rcases hchild with rfl | rfl <;> decide +kernel
  obtain ⟨⟨m, urls, hm, hleads, hhistory, hrecords⟩, -⟩ :=
    list_scrape job (.start .empty) shelfSchema (.ofPage "shelf") shelf rfl rfl rfl hurl hbody hread
  -- As many links are followed as there are urls, and a link leads to one url at most.
  have hgreatest := shelfSchema.isGreatest_childUrls page
  rw [shelf_childUrls] at hgreatest
  obtain rfl : m = 2 := hm.unique hgreatest
  obtain rfl : urls = [.ofPage "1", .ofPage "2"] := by
    have htargets := Schema.map_target?_of_leads hleads
    rw [List.map_take, shelf_targets] at htargets
    have hsome : urls.map some = [.ofPage "1", .ofPage "2"].map some := htargets.symm
    exact List.map_injective_iff.2 (Option.some_injective Url) hsome
  refine ⟨⟨rfl, hurl, hbody, hread⟩, hm, hleads, ?_, ?_⟩
  · rw [hhistory]
    decide +kernel
  · have hanswers : (job.client.answers [.get (Url.ofPage "shelf").toText]
        [.ofPage "1", .ofPage "2"]).filterMap Except.toOption = ["<p>b"] := by decide +kernel
    refine hrecords.trans (congrArg Except.ok ?_)
    have hpages := congrArg
      (List.flatMap fun body => Extract.nestedRecordsOf shelfSchema.properties .empty (.parse body)) hanswers
    exact hpages.trans ((List.flatMap_singleton _ _).trans shelf_records)

end Job

end Harvest
