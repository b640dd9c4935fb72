import Harvest.Job.Traversal
import Harvest.Proofs.Extract.Evaluation

/-!
# The pages that a job visits

A traversal asks for pages one after the other and takes records out of each of them. `Schema.pageVisits`
lists the pages that a list leads to with their records, as they are if nothing stops the traversal. With
a rule, the records before the first one that the rule holds at count (`StopRule.passed`), and the pages
up to the one that holds this record (`Visit.upTo`).
-/

namespace Harvest

/-! ## The records of a page -/

namespace Extract

/-- The records that a document holds by a schema. -/
def recordsOf (s : Schema) (r : Registry) (d : Markup.Document) : List Record :=
  (Selection.ofDocument d s.selector).each.map fun node => (record s.properties node r).1

/-- The records that a document holds by each of several schemas, without the values that are null. -/
def nestedRecordsOf (schemas : List Schema) (r : Registry) (d : Markup.Document) : List Record :=
  schemas.flatMap fun s =>
    (Selection.ofDocument d s.selector).each.map fun node => (nestedRecord s.properties node r).1

end Extract

/-! ## Stopping -/

namespace StopRule

/-- How many records come before the first that the rule holds at; `index` records came before. -/
def passed (rule : StopRule) : Nat → List Record → Nat
  | _, [] => 0
  | index, record :: more => if rule index record then 0 else passed rule (index + 1) more + 1

variable (rule : StopRule)

theorem passed_le (index : Nat) (records : List Record) :
    rule.passed index records ≤ records.length := by
  induction records generalizing index with
  | nil => exact Nat.le_refl 0
  | cons record more ih =>
    rw [passed]
    split
    · exact Nat.zero_le _
    · exact Nat.succ_le_succ (ih (index + 1))

theorem passed_append (index : Nat) (records others : List Record) :
    rule.passed index (records ++ others) =
      if rule.passed index records = records.length then
        records.length + rule.passed (index + records.length) others
      else rule.passed index records := by
  induction records generalizing index with
  | nil => simp [passed]
  | cons record more ih =>
    rw [List.cons_append, passed, passed, List.length_cons]
    by_cases h : rule index record
    · rw [if_pos h, if_pos h, if_neg (Nat.succ_ne_zero _).symm]
    · rw [if_neg h, if_neg h, ih]
      simp only [Nat.add_right_cancel_iff, Nat.add_assoc, Nat.add_comm 1]
      split
      · omega
      · rfl

/-- The rule does not hold at the records that pass. -/
theorem not_of_lt_passed {index i : Nat} {records : List Record} {record : Record}
    (hi : i < rule.passed index records) (h : records[i]? = some record) :
    rule (index + i) record = false := by
  induction records generalizing index i with
  | nil => cases h
  | cons first more ih =>
    rw [passed] at hi
    by_cases hfirst : rule index first
    · rw [if_pos hfirst] at hi
      exact absurd hi (Nat.not_lt_zero i)
    · rw [if_neg hfirst] at hi
      cases i with
      | zero =>
        cases h
        exact Bool.eq_false_iff.2 hfirst
      | succ i =>
        have hmore := ih (Nat.lt_of_succ_lt_succ hi) h
        rwa [Nat.add_right_comm, Nat.add_assoc] at hmore

/-- The rule holds at the first record that does not pass. -/
theorem holds_of_passed {index : Nat} {records : List Record} {record : Record}
    (h : records[rule.passed index records]? = some record) :
    rule (index + rule.passed index records) record = true := by
  induction records generalizing index with
  | nil => cases h
  | cons first more ih =>
    rw [passed] at h ⊢
    by_cases hfirst : rule index first
    · rw [if_pos hfirst] at h ⊢
      cases h
      exact hfirst
    · rw [if_neg hfirst] at h ⊢
      have hmore := ih h
      rwa [Nat.add_right_comm, Nat.add_assoc] at hmore

/-- A rule that never holds lets all records pass. -/
theorem passed_of_never {rule : StopRule} (h : ∀ index record, rule index record = false)
    (index : Nat) (records : List Record) : rule.passed index records = records.length := by
  induction records generalizing index with
  | nil => rfl
  | cons record more ih =>
    rw [passed, h, ih]
    rfl

end StopRule

/-! ## Visits -/

/-- A page that is asked for, with the records that are taken out of it. -/
structure Visit where
  url : Url
  records : List Record

namespace Visit

/-- The request for the page. -/
def request (v : Visit) : Request :=
  .get v.url.toText

/-- The visits up to the one that holds the record of a number, counted over all visits. -/
def upTo : Nat → List Visit → List Visit
  | _, [] => []
  | k, v :: more => if k < v.records.length then [v] else v :: upTo (k - v.records.length) more

theorem upTo_of_le {k : Nat} {visits : List Visit} (h : (visits.flatMap records).length ≤ k) :
    upTo k visits = visits := by
  induction visits generalizing k with
  | nil => rfl
  | cons v more ih =>
    rw [List.flatMap_cons, List.length_append] at h
    rw [upTo, if_neg (by omega), ih (by omega)]

theorem upTo_of_lt {k : Nat} {visits : List Visit} (h : k < (visits.flatMap records).length) :
    ∃ before v after, visits = before ++ v :: after ∧ upTo k visits = before ++ [v] ∧
      (before.flatMap records).length ≤ k ∧
      k < (before.flatMap records).length + v.records.length := by
  induction visits generalizing k with
  | nil => exact absurd h (Nat.not_lt_zero k)
  | cons v more ih =>
    rw [List.flatMap_cons, List.length_append] at h
    by_cases hk : k < v.records.length
    · refine ⟨[], v, more, rfl, ?_, Nat.zero_le _, ?_⟩
      · rw [upTo, if_pos hk]
        rfl
      · rwa [List.flatMap_nil, List.length_nil, Nat.zero_add]
    · obtain ⟨before, w, after, rfl, hupTo, hle, hlt⟩ := @ih (k - v.records.length) (by omega)
      refine ⟨v :: before, w, after, rfl, ?_, ?_, ?_⟩
      · rw [upTo, if_neg hk, hupTo]
        rfl
      · rw [List.flatMap_cons, List.length_append]
        omega
      · rw [List.flatMap_cons, List.length_append]
        omega

theorem upTo_append (k : Nat) (visits others : List Visit) :
    upTo k (visits ++ others) =
      if (visits.flatMap records).length ≤ k then
        visits ++ upTo (k - (visits.flatMap records).length) others
      else upTo k visits := by
  induction visits generalizing k with
  | nil => rfl
  | cons v more ih =>
    rw [List.cons_append, upTo, upTo, List.flatMap_cons, List.length_append, ih]
    by_cases h : k < v.records.length
    · rw [if_pos h, if_pos h, if_neg (by omega)]
    · rw [if_neg h, if_neg h, Nat.sub_sub]
      by_cases hmore : (more.flatMap records).length ≤ k - v.records.length
      · rw [if_pos hmore, if_pos (by omega), List.cons_append]
      · rw [if_neg hmore, if_neg (by omega)]

end Visit

namespace Schema

variable (s : Schema)

/-- The records that come of the answer to a request for a child page. -/
def recordsOfAnswer (r : Registry) : Except ClientError String → List Record
  | .error _ => []
  | .ok body => Extract.nestedRecordsOf s.properties r (.parse body)

/-- The url that a link of a list leads to. -/
def target? (base : Url) (link : Selection) : Option Url :=
  (Path.resolve s.css link).bind fun reference => (base.join reference).toOption

/-- The urls that links lead to, up to the first link that leads nowhere. -/
def targets (base : Url) : List Selection → List Url
  | [] => []
  | link :: more =>
    match s.target? base link with
    | none => []
    | some url => url :: targets base more

/-- As many of several urls as the limit allows after `count` others. -/
def allowed (count : Nat) (urls : List Url) : List Url :=
  if s.limit = 0 then urls else urls.take (s.limit - count)

/-- The links of a list. -/
def links (page : WebPage) : List Selection :=
  (Selection.ofDocument page.document s.selector).each

/-- The urls of the child pages of a list. -/
def childUrls (page : WebPage) : List Url :=
  s.allowed 0 (s.targets page.url (s.links page))

/-- The visit to a child page, unless its address cannot be read back. -/
def childVisit (c : Client) (r : Registry) (h : History) (url : Url) : List Visit :=
  match Url.parse url.toText with
  | .error _ => []
  | .ok _ => [⟨url, s.recordsOfAnswer r (c.getText h url.toText)⟩]

/-- The visits to child pages, one after the other. -/
def childVisits (c : Client) (r : Registry) : History → List Url → List Visit
  | _, [] => []
  | h, url :: more =>
    let visit := s.childVisit c r h url
    visit ++ childVisits c r (h ++ visit.map Visit.request) more

/-- The visits to the child pages of a list; a page that is no list has none. -/
def pageVisits (c : Client) (r : Registry) (h : History) (page : WebPage) : List Visit :=
  if s.isUrlList then s.childVisits c r h (s.childUrls page) else []

/-- The records of a page itself; a list has none. -/
def pageRecords (r : Registry) (page : WebPage) : List Record :=
  if s.isUrlList then [] else Extract.recordsOf s r page.document

theorem allowed_cons {count : Nat} (h : s.limit = 0 ∨ count < s.limit) (url : Url) (more : List Url) :
    s.allowed count (url :: more) =
      url :: if s.limit = 0 ∨ count + 1 < s.limit then s.allowed (count + 1) more else [] := by
  unfold allowed
  by_cases hzero : s.limit = 0
  · rw [if_pos hzero, if_pos hzero, if_pos (Or.inl hzero)]
  · have hlt : count < s.limit := h.resolve_left hzero
    rw [if_neg hzero, if_neg hzero, show s.limit - count = s.limit - (count + 1) + 1 by omega,
      List.take_succ_cons]
    by_cases hmore : count + 1 < s.limit
    · rw [if_pos (Or.inr hmore)]
    · rw [if_neg (by omega), show s.limit - (count + 1) = 0 by omega, List.take_zero]

end Schema

end Harvest
