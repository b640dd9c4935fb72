import Harvest.Proofs.Extract.Grouping
import Harvest.Proofs.Job.Listing

/-!
# Missing values in the records of a list

The records of a list leave out properties without a value. An object that merges has one, though: its own
record, in which missing values are null, and these go into the record with its other fields
(`find?_nestedRecord_eq_null_iff`). So a null in a record of a list always lies within an object that merges,
at some depth (`Unset`), and that it lies there is all it takes (`nulls_merged`, `price_null`).
-/

namespace Harvest

namespace Extract

open Fields (find? keys unionAll)

/-- The key is null in the record of these properties: the last property to set it has no value, or it is an
object that merges and leaves the key null itself. -/
inductive Unset (r : Registry) : List Schema → Selection → String → Prop where
  | missing {before after : List Schema} {p : Schema} {parent : Selection}
      (value : (evaluate p parent r).1 = .null)
      (last : ∀ q ∈ after, p.id ∉ keys (contribution r parent q)) :
      Unset r (before ++ p :: after) parent p.id
  | merged {before after : List Schema} {p : Schema} {parent nodes : Selection} {key : String}
      (kind : p.kind = .object) (merges : p.mergeWithParent = true) (found : located p parent = some nodes)
      (unset : Unset r p.properties nodes key)
      (last : ∀ q ∈ after, key ∉ keys (contribution r parent q)) :
      Unset r (before ++ p :: after) parent key

variable {r : Registry}

/-- A null comes from a property without a value, or from the record of an object that merges. -/
theorem find?_contribution_eq_null_iff {p : Schema} (htags : ∀ tag ∈ p.customTags, r.find? tag = none)
    {parent : Selection} {key : String} :
    find? key (contribution r parent p) = some .null ↔
      ((evaluate p parent r).1 = .null ∧ p.id = key) ∨
      ∃ nodes, p.kind = .object ∧ p.mergeWithParent = true ∧ located p parent = some nodes ∧
        find? key (record p.properties nodes r).1 = some .null := by
  by_cases hmerged : p.kind = .object ∧ p.mergeWithParent = true ∧ ∃ nodes, located p parent = some nodes
  · obtain ⟨hkind, hmerges, nodes, hloc⟩ := hmerged
    have hvalue : (evaluate p parent r).1 ≠ .null := by
      rw [evaluate_of_located hloc, readNodes, hkind]
      intro h
      cases h
    rw [contribution_of_object r hkind hmerges hloc]
    constructor
    · intro h
      exact .inr ⟨nodes, hkind, hmerges, hloc, h⟩
    · rintro (⟨hnull, -⟩ | ⟨nodes', -, -, hloc', h⟩)
      · exact absurd hnull hvalue
      · rw [hloc] at hloc'
        cases hloc'
        exact h
  · have hown : p.mergeWithParent = true → (evaluate p parent r).1.record? = none := by
      intro hmerges
      cases hv : (evaluate p parent r).1 with
      | record fields =>
        obtain ⟨hkind, hfound⟩ :=
          located_of_evaluate_record hv (conforms_and_fieldConforms p r htags parent).1
        exact absurd ⟨hkind, hmerges, hfound⟩ hmerged
      | null | text | integer | list | map => rfl
    rw [contribution, contributed_of_not_merged hown, Fields.find?_cons]
    constructor
    · intro h
      split at h
      · next hkey => exact .inl ⟨Option.some.inj h, hkey⟩
      · cases h
    · rintro (⟨hnull, hkey⟩ | ⟨nodes, hkind, hmerges, hloc, -⟩)
      · rw [if_pos hkey, hnull]
      · exact absurd ⟨hkind, hmerges, nodes, hloc⟩ hmerged

/-- The last of the properties with a key sets it to null. -/
theorem find?_record_eq_some_iff {properties : List Schema} {parent : Selection} {key : String}
    {value : Value} :
    find? key (record properties parent r).1 = some value ↔
      ∃ before p after, properties = before ++ p :: after ∧
        find? key (contribution r parent p) = some value ∧
        ∀ q ∈ after, key ∉ keys (contribution r parent q) := by
  rw [record_eq_unionAll]
  exact Fields.find?_unionAll_map_eq_some_iff fun p _ => ascending_contribution r parent p

/-- A step from the properties of the properties to the properties themselves. -/
theorem find?_record_eq_null_step {properties : List Schema}
    (htags : ∀ p ∈ properties, ∀ tag ∈ p.customTags, r.find? tag = none)
    (h : ∀ p ∈ properties, ∀ nodes key,
      find? key (record p.properties nodes r).1 = some .null ↔ Unset r p.properties nodes key)
    {parent : Selection} {key : String} :
    find? key (record properties parent r).1 = some .null ↔ Unset r properties parent key := by
  rw [find?_record_eq_some_iff]
  constructor
  · rintro ⟨before, p, after, rfl, hnull, hlast⟩
    have hp : p ∈ before ++ p :: after := List.mem_append_right _ List.mem_cons_self
    rcases (find?_contribution_eq_null_iff (htags p hp)).1 hnull with
      ⟨hvalue, rfl⟩ | ⟨nodes, hkind, hmerges, hloc, hunset⟩
    · exact .missing hvalue hlast
    · exact .merged hkind hmerges hloc ((h p hp nodes key).1 hunset) hlast
  · intro hunset
    cases hunset with
    | @missing before after p _ hvalue hlast =>
      have hp : p ∈ before ++ p :: after := List.mem_append_right _ List.mem_cons_self
      refine ⟨before, p, after, rfl, ?_, hlast⟩
      exact (find?_contribution_eq_null_iff (htags p hp)).2 (.inl ⟨hvalue, rfl⟩)
    | @merged before after p _ nodes _ hkind hmerges hloc hunset hlast =>
      have hp : p ∈ before ++ p :: after := List.mem_append_right _ List.mem_cons_self
      refine ⟨before, p, after, rfl, ?_, hlast⟩
      refine (find?_contribution_eq_null_iff (htags p hp)).2 (.inr ⟨nodes, hkind, hmerges, hloc, ?_⟩)
      exact (h p hp nodes key).2 hunset

theorem find?_record_eq_null_iff (s : Schema) (htags : ∀ tag ∈ s.customTags, r.find? tag = none)
    (parent : Selection) (key : String) :
    find? key (record s.properties parent r).1 = some .null ↔ Unset r s.properties parent key := by
  -- A record that merges is read from properties one level further down, and from other nodes.
  induction s using Schema.induction generalizing parent key with
  | node s ih =>
    have hbelow : ∀ p ∈ s.properties, ∀ tag ∈ p.customTags, r.find? tag = none :=
      fun p hp tag htag => htags tag (Schema.mem_customTags_of_property hp htag)
    exact find?_record_eq_null_step hbelow fun p hp nodes key => ih p hp (hbelow p hp) nodes key

/-- In a nested record the last property that has a value and sets the key counts. -/
theorem find?_nestedRecord_eq_some_iff {properties : List Schema} {parent : Selection} {key : String}
    {value : Value} :
    find? key (nestedRecord properties parent r).1 = some value ↔
      ∃ before p after, properties = before ++ p :: after ∧ (evaluate p parent r).1 ≠ .null ∧
        find? key (contribution r parent p) = some value ∧
        ∀ q ∈ after, (evaluate q parent r).1 ≠ .null → key ∉ keys (contribution r parent q) := by
  let valued : Schema → Bool := fun p => !(evaluate p parent r).1.isNull
  have hvalued : ∀ p, valued p = true ↔ (evaluate p parent r).1 ≠ .null := by
    intro p
    change (!(evaluate p parent r).1.isNull) = true ↔ _
    cases (evaluate p parent r).1 <;> simp [Value.isNull]
  rw [nestedRecord_eq_unionAll,
    Fields.find?_unionAll_map_eq_some_iff fun p _ => ascending_contribution r parent p]
  constructor
  · rintro ⟨before, p, after, hsplit, hvalue, hlast⟩
    -- Properties without a value may stand on either side of `p`.
    obtain ⟨before', rest, rfl, -, hrest⟩ := List.filter_eq_append_iff.1 hsplit
    obtain ⟨skipped, after', rfl, -, hp, rfl⟩ := List.filter_eq_cons_iff.1 hrest
    refine ⟨before' ++ skipped, p, after', by simp, (hvalued p).1 hp, hvalue, fun q hq hqvalue => ?_⟩
    exact hlast q (List.mem_filter.2 ⟨hq, (hvalued q).2 hqvalue⟩)
  · rintro ⟨before, p, after, rfl, hp, hvalue, hlast⟩
    refine ⟨before.filter valued, p, after.filter valued, ?_, hvalue, fun q hq => ?_⟩
    · exact (List.filter_append ..).trans
        (congrArg (before.filter valued ++ ·) (List.filter_cons_of_pos ((hvalued p).2 hp)))
    · obtain ⟨hq, hqvalue⟩ := List.mem_filter.1 hq
      exact hlast q hq ((hvalued q).1 hqvalue)

/-- The key is null in the nested record of these properties: the last property with a value that sets it is
an object that merges and leaves the key null. -/
def NullMerged (r : Registry) (properties : List Schema) (parent : Selection) (key : String) : Prop :=
  ∃ before p after nodes, properties = before ++ p :: after ∧ p.kind = .object ∧
    p.mergeWithParent = true ∧ located p parent = some nodes ∧ Unset r p.properties nodes key ∧
    ∀ q ∈ after, (evaluate q parent r).1 ≠ .null → key ∉ keys (contribution r parent q)

/-- A property without a value is left out; a null among the fields of an object that merges is not. -/
theorem find?_nestedRecord_eq_null_iff {properties : List Schema}
    (htags : ∀ p ∈ properties, ∀ tag ∈ p.customTags, r.find? tag = none) (parent : Selection)
    (key : String) :
    find? key (nestedRecord properties parent r).1 = some .null ↔ NullMerged r properties parent key := by
  rw [find?_nestedRecord_eq_some_iff]
  constructor
  · rintro ⟨before, p, after, rfl, hvalue, hnull, hlast⟩
    have hp := htags p (List.mem_append_right _ List.mem_cons_self)
    rcases (find?_contribution_eq_null_iff hp).1 hnull with
      ⟨hmissing, -⟩ | ⟨nodes, hkind, hmerges, hloc, hunset⟩
    · exact absurd hmissing hvalue
    · have hunset := (find?_record_eq_null_iff p hp nodes key).1 hunset
      exact ⟨before, p, after, nodes, rfl, hkind, hmerges, hloc, hunset, hlast⟩
  · rintro ⟨before, p, after, nodes, rfl, hkind, hmerges, hloc, hunset, hlast⟩
    have hp := htags p (List.mem_append_right _ List.mem_cons_self)
    have hnull := (find?_record_eq_null_iff p hp nodes key).2 hunset
    refine ⟨before, p, after, rfl, ?_, ?_, hlast⟩
    · rw [evaluate_of_located hloc, readNodes, hkind]
      intro h
      cases h
    · exact (find?_contribution_eq_null_iff hp).2 (.inr ⟨nodes, hkind, hmerges, hloc, hnull⟩)

end Extract

namespace Schema

/-- The records of child pages are those of the answers to requests. -/
theorem mem_childVisits {s : Schema} {c : Client} {r : Registry} {h : History} {urls : List Url}
    {visit : Visit} (hvisit : visit ∈ s.childVisits c r h urls) :
    ∃ past url, visit.records = s.recordsOfAnswer r (c.getText past url) := by
  induction urls generalizing h with
  | nil => cases hvisit
  | cons url more ih =>
    rw [childVisits] at hvisit
    rcases List.mem_append.1 hvisit with hfirst | hmore
    · unfold childVisit at hfirst
      split at hfirst
      · cases hfirst
      · rw [List.mem_singleton.1 hfirst]
        exact ⟨h, url.toText, rfl⟩
    · exact ih hmore

/-- A record of a child page is the nested record of one of its nodes. -/
theorem exists_of_mem_recordsOfAnswer {s : Schema} {r : Registry} {answer : Except ClientError String}
    {record : Record} (h : record ∈ s.recordsOfAnswer r answer) :
    ∃ body child node, answer = .ok body ∧ child ∈ s.properties ∧
      node ∈ (Selection.ofDocument (.parse body) child.selector).each ∧
      record = (Extract.nestedRecord child.properties node r).1 := by
  cases answer with
  | error e => cases h
  | ok body =>
    obtain ⟨child, hchild, hrecord⟩ := List.mem_flatMap.1 h
    obtain ⟨node, hnode, rfl⟩ := List.mem_map.1 hrecord
    exact ⟨body, child, node, rfl, hchild, hnode, rfl⟩

end Schema

namespace Job

/-- **A null in a record of a list lies within an object that merges, and every null there gets into the
record.** -/
theorem nulls_merged (j : Job) (s : JobState) (schema : Schema) (records : List Record)
    (hschema : j.schema = some schema) (hlist : schema.isUrlList = true)
    (htags : ∀ child ∈ schema.properties, ∀ p ∈ child.properties, ∀ tag ∈ p.customTags,
      s.registry.find? tag = none)
    (hrun : (j.scrape s).1 = .ok records) :
    ∀ record ∈ records, ∃ past url body child node,
      j.client.getText past url = .ok body ∧ child ∈ schema.properties ∧
      node ∈ (Selection.ofDocument (.parse body) child.selector).each ∧
      record = (Extract.nestedRecord child.properties node s.registry).1 ∧
      ∀ key, Fields.find? key record = some .null ↔
        Extract.NullMerged s.registry child.properties node key := by
  intro record hrecord
  rcases hopen : j.opened s with ⟨e | ⟨schema', page⟩, s'⟩
  · rw [scrape_of_refused hopen] at hrun
    cases hrun
  · obtain ⟨url, body, hschema', -, -, -, hs'⟩ := opened_eq_ok_iff.1 hopen
    rw [hschema] at hschema'
    cases hschema'
    have hregistry : s'.registry = s.registry := by rw [hs']; exact (checkAddress_eq s).1
    obtain ⟨hresult, -, -⟩ := scrape_eq hopen
    rw [hrun] at hresult
    cases hresult
    obtain ⟨visit, hvisit, hmem⟩ := List.mem_flatMap.1 (List.mem_of_mem_take hrecord)
    rw [visits_of_list hlist, hregistry] at hvisit
    rcases List.mem_cons.1 hvisit with rfl | hvisit
    · cases hmem
    · obtain ⟨past, link, hrecords⟩ := Schema.mem_childVisits hvisit
      rw [hrecords] at hmem
      obtain ⟨body, child, node, hbody, hchild, hnode, rfl⟩ := Schema.exists_of_mem_recordsOfAnswer hmem
      refine ⟨past, link, body, child, node, hbody, hchild, hnode, rfl, fun key => ?_⟩
      exact Extract.find?_nestedRecord_eq_null_iff (htags child hchild) node key

/-! ## A dish without a price -/

/-- Reads dishes and, in an object that merges, what is known of them. -/
def menuSchema : Schema :=
  { Schema.empty with
    css := ["a", "href"]
    kind := .urlList
    properties := [{ Schema.empty with properties := Extract.groupedPrice }] }

/-- Serves a menu with a link to a dish, and the dish. -/
def menuClient : Client :=
  .serving fun url =>
    some (Text.Utf8.ofString (if url = "http://a.test/" then "<a href=1>" else "soup"))

/-- A job for the menu. -/
def menuJob : Job :=
  .plain "menu" "http://a.test/" (some menuSchema) menuClient

theorem menu_urls : menuSchema.childUrls (.parse (.ofPage "") "<a href=1>") = [.ofPage "1"] := by
  have horder : (WebPage.parse (.ofPage "") "<a href=1>").document.InOrder := by decide +kernel
  rw [Schema.childUrls, Schema.links, Selection.ofDocument_of_inOrder horder]
  decide +kernel

theorem menu_records :
    Extract.nestedRecordsOf menuSchema.properties .empty (.parse "soup") =
      [[("dish", .text "soup"), ("price", .null)]] := by
  rfl

theorem menu_scrape :
    (menuJob.scrape (.start .empty)).1 = .ok [[("dish", .text "soup"), ("price", .null)]] := by
  have hurl : Url.parse menuJob.url = .ok (.ofPage "") := by decide +kernel
  have hread : Url.parse (Url.ofPage "1").toText = .ok (.ofPage "1") := by decide +kernel
  have hmenu : menuJob.client.getText [] (Url.ofPage "").toText = .ok "<a href=1>" := by
    decide +kernel
  have hdish : menuJob.client.getText [.get (Url.ofPage "").toText] (Url.ofPage "1").toText =
      .ok "soup" := by
    decide +kernel
  have hopen : menuJob.opened (.start .empty) =
      (.ok (menuSchema, .parse (.ofPage "") "<a href=1>"), _) :=
    opened_eq_ok_iff.2 ⟨.ofPage "", "<a href=1>", rfl, hurl, hmenu, rfl, rfl⟩
  obtain ⟨hresult, -, -⟩ := scrape_of_no_rule rfl hopen
  rw [visits_of_list rfl, menu_urls, Schema.childVisits, Schema.childVisit, hread] at hresult
  refine hresult.trans ?_
  change Except.ok (menuSchema.recordsOfAnswer .empty
    (menuJob.client.getText [.get (Url.ofPage "").toText] (Url.ofPage "1").toText) ++ []) = _
  rw [hdish, List.append_nil]
  exact congrArg Except.ok menu_records

theorem nulls_merged_menu :
    (menuJob.schema = some menuSchema ∧ menuSchema.isUrlList = true ∧
      (∀ child ∈ menuSchema.properties, ∀ p ∈ child.properties, ∀ tag ∈ p.customTags,
        Registry.empty.find? tag = none) ∧
      (menuJob.scrape (.start .empty)).1 = .ok [[("dish", .text "soup"), ("price", .null)]]) ∧
    ∃ body child node, child ∈ menuSchema.properties ∧
      node ∈ (Selection.ofDocument (.parse body) child.selector).each ∧
      Extract.NullMerged .empty child.properties node "price" ∧
      ¬ Extract.NullMerged .empty child.properties node "dish" := by
  have htags : ∀ child ∈ menuSchema.properties, ∀ p ∈ child.properties, ∀ tag ∈ p.customTags,
      Registry.empty.find? tag = none := fun _ _ _ _ _ _ => rfl
  obtain ⟨past, url, body, child, node, -, hchild, hnode, -, hnull⟩ :=
    nulls_merged menuJob (.start .empty) menuSchema _ rfl rfl htags menu_scrape _ (List.mem_singleton_self _)
  refine ⟨⟨rfl, rfl, htags, menu_scrape⟩, body, child, node, hchild, hnode, (hnull "price").1 rfl, fun h => ?_⟩
  cases (hnull "dish").2 h

/-- The price that the page does not tell is null in the record of the list. -/
theorem price_null :
    menuSchema.isUrlList = true ∧
    (∀ child ∈ menuSchema.properties, Schema.customTagsOfAll child.properties = []) ∧
    ∃ records, (menuJob.scrape (.start .empty)).1 = .ok records ∧
      ∃ record ∈ records, Fields.find? "price" record = some .null :=
  ⟨rfl, by decide, _, menu_scrape, _, List.mem_singleton_self _, rfl⟩

end Job

end Harvest
