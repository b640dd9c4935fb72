import Mathlib.Algebra.Ring.Nat
import Harvest.Proofs.Job.Traversal

/-!
# Runs one after the other

A job can be run again, in the state that the run before has left. The registry keeps its types, and what is
counted over all runs is what they have given (`scrapes_total`): a run that fails counts nothing.
-/

namespace Harvest

namespace Job

/-- The results of several runs, one after the other, and the state that they leave. -/
def scrapes (j : Job) : Nat → JobState → List (Except ScrapeError (List Record)) × JobState
  | 0, s => ([], s)
  | n + 1, s =>
    ((j.scrape s).1 :: (scrapes j n (j.scrape s).2).1, (scrapes j n (j.scrape s).2).2)

/-- How many records a run has given. -/
def yielded : Except ScrapeError (List Record) → Nat
  | .error _ => 0
  | .ok records => records.length

variable {j : Job}

/-- Nothing is counted before the traversal, and no type is added. -/
theorem opened_eq (s : JobState) :
    (j.opened s).2.registry = s.registry ∧ (j.opened s).2.total = s.total := by
  have hchecked := checkAddress_eq (j := j) s
  unfold opened fetchTop Client.fetchText
  cases j.schema with
  | none => exact ⟨rfl, rfl⟩
  | some schema =>
    cases Url.parse j.url with
    | error fault => exact ⟨rfl, rfl⟩
    | ok url =>
      dsimp only
      cases j.client.getText (j.checkAddress s).history url.toText with
      | error e => exact hchecked
      | ok body => exact hchecked

theorem scrape_types (s : JobState) : (j.scrape s).2.registry.types = s.registry.types := by
  have hopened := (opened_eq (j := j) s).1
  rcases h : j.opened s with ⟨e | ⟨schema, page⟩, s'⟩
  · rw [scrape_of_refused h, ← hopened, h]
  · rw [h] at hopened
    let t : Traversal (Array Record) := ⟨j.client, schema, j.stopOn, j.childDelay, keepAll⟩
    have hrun := t.run_follows rfl page ⟨s'.history, s'.registry, 0, s'.total, s'.waited, #[]⟩
    rw [scrape, scrapeInto_eq, h, ← hopened]
    exact hrun.types

/-- A run counts the records that it gives. -/
theorem scrape_total (s : JobState) : (j.scrape s).2.total = s.total + yielded (j.scrape s).1 := by
  rcases h : j.opened s with ⟨e | ⟨schema, page⟩, s'⟩
  · have hopened := (opened_eq (j := j) s).2
    rw [scrape_of_refused h, ← hopened, h]
    rfl
  · obtain ⟨hresult, -, htotal⟩ := scrape_eq h
    rw [hresult, htotal, yielded, List.length_take, Nat.min_eq_left (StopRule.passed_le _ _ _)]

/-- Over several runs, the records are counted that they give. -/
theorem scrapes_total (n : Nat) (s : JobState) :
    (j.scrapes n s).2.total = s.total + ((j.scrapes n s).1.map yielded).sum := by
  induction n generalizing s with
  | zero => rfl
  | succ n ih =>
    rw [scrapes, ih, scrape_total, List.map_cons, List.sum_cons, Nat.add_assoc]

end Job

end Harvest
