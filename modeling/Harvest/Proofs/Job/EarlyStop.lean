import Harvest.Proofs.Job.Traversal
import Mathlib.Order.Bounds.Basic

/-!
# Stopping early

A rule that stops a job is asked for each record, with the number of records before it. A run with a rule
gives the longest part of the records, from the first one on, in which the rule holds at none, and it asks
for no page after the one with the record that the rule holds at (`stopping_scrape`).
-/

namespace Harvest

/-- The rule holds at none of the first `k` records. -/
structure StopRule.Clear (rule : StopRule) (records : List Record) (k : Nat) : Prop where
  le_length : k ≤ records.length
  not_holds : ∀ i record, i < k → records[i]? = some record → rule i record = false

namespace StopRule

theorem clear_passed (rule : StopRule) (records : List Record) :
    rule.Clear records (rule.passed 0 records) where
  le_length := rule.passed_le 0 records
  not_holds i record hi h := by
    have hnot := rule.not_of_lt_passed hi h
    rwa [Nat.zero_add] at hnot

theorem holds_at_passed (rule : StopRule) {records : List Record} {record : Record}
    (h : records[rule.passed 0 records]? = some record) :
    rule (rule.passed 0 records) record = true := by
  have hholds := rule.holds_of_passed h
  rwa [Nat.zero_add] at hholds

/-- No more records pass than those before the first that the rule holds at. -/
theorem isGreatest_passed (rule : StopRule) (records : List Record) :
    IsGreatest {k | rule.Clear records k} (rule.passed 0 records) := by
  refine ⟨rule.clear_passed records, fun k hk => ?_⟩
  by_contra hlt
  have hpassed : rule.passed 0 records < k := Nat.lt_of_not_le hlt
  have hrecord := List.getElem?_eq_getElem (Nat.lt_of_lt_of_le hpassed hk.le_length)
  have hholds := rule.holds_at_passed hrecord
  rw [hk.not_holds _ _ hpassed hrecord] at hholds
  cases hholds

end StopRule

namespace Job

/-- **A rule cuts a run short, and changes nothing else.** Without the rule a run is refused, and is
refused with the rule just as well, or it gives the records of its visits. With the rule it gives the
longest part of them, from the first one on, in which the rule holds at none, counts no others, and asks
for the pages up to the one that holds the next record, or for all of them if there is no such record. -/
theorem stopping_scrape (j : Job) (rule : StopRule) (s : JobState) :
    let plain := scrape { j with stopOn := none } s
    let stopping := scrape { j with stopOn := some rule } s
    (∃ e, plain.1 = .error e ∧ stopping = plain) ∨
    ∃ schema page s', j.opened s = (.ok (schema, page), s') ∧
      let visits := j.visits schema page s'
      let records := visits.flatMap Visit.records
      let before := (j.checkAddress s).history
      plain.1 = .ok records ∧
      plain.2.history = before ++ visits.map Visit.request ∧
      plain.2.total = s.total + records.length ∧
      ∃ k, IsGreatest {k | rule.Clear records k} k ∧
        (∀ record, records[k]? = some record → rule k record = true) ∧
        stopping.1 = .ok (records.take k) ∧
        stopping.2.total = s.total + k ∧
        ((k = records.length ∧ stopping.2.history = plain.2.history) ∨
          ∃ done last rest, visits = done ++ last :: rest ∧
            (done.flatMap Visit.records).length ≤ k ∧
            k < (done.flatMap Visit.records).length + last.records.length ∧
            stopping.2.history = before ++ (done ++ [last]).map Visit.request) := by
  intro plain stopping
  rcases hopen : j.opened s with ⟨e | ⟨schema, page⟩, s'⟩
  · have hplain : plain = (.error e, s') := scrape_of_refused hopen
    have hstopping : stopping = (.error e, s') := scrape_of_refused hopen
    exact Or.inl ⟨e, congrArg Prod.fst hplain, hstopping.trans hplain.symm⟩
  · have hplain : opened { j with stopOn := none } s = (.ok (schema, page), s') := hopen
    have hstopping : opened { j with stopOn := some rule } s = (.ok (schema, page), s') := hopen
    obtain ⟨hresult, hhistory, htotal⟩ := scrape_of_no_rule rfl hplain
    obtain ⟨hresult', hhistory', htotal'⟩ := scrape_eq hstopping
    refine Or.inr ⟨schema, page, s', rfl, hresult, hhistory, htotal, ?_⟩
    let visits := j.visits schema page s'
    let records := visits.flatMap Visit.records
    have hholds : ∀ record, records[rule.passed 0 records]? = some record →
        rule (rule.passed 0 records) record = true := fun _ h => rule.holds_at_passed h
    refine ⟨rule.passed 0 records, rule.isGreatest_passed records, hholds, hresult', htotal', ?_⟩
    rcases Nat.lt_or_eq_of_le (rule.passed_le 0 records) with hlt | hall
    · obtain ⟨done, last, rest, hvisits, hupTo, hle, hlast⟩ := Visit.upTo_of_lt hlt
      refine Or.inr ⟨done, last, rest, hvisits, hle, hlast, ?_⟩
      rw [← hupTo]
      exact hhistory'
    · refine Or.inl ⟨hall, hhistory'.trans (Eq.trans ?_ hhistory.symm)⟩
      have hupTo : Visit.upTo (rule.passed 0 records) visits = visits :=
        Visit.upTo_of_le (Nat.le_of_eq hall.symm)
      exact congrArg (fun v => (j.checkAddress s).history ++ v.map Visit.request) hupTo

end Job

end Harvest
