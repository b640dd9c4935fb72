import Harvest.Pattern.Search

/-!
# Patterns without groups

The span of a thread changes only at a step where a group starts or ends. A pattern in which no group captures
(`Expr.captures`) is compiled to steps of other kinds (`compile_keeps`), and a search over such steps never
learns where a group lies (`search_of_unmarked`). So such a pattern has no first group in any text
(`firstGroup?_of_not_captures`).
-/

namespace Harvest.Pattern

namespace Expr

mutual

/-- Whether there is a group that captures. -/
def captures : Expr → Bool
  | .empty => false
  | .one .. => false
  | .look _ => false
  | .group first inner => first || captures inner
  | .sequence parts => someCapture parts
  | .choice alternatives => someCapture alternatives
  | .repeated inner _ _ _ => captures inner

/-- Whether one of several patterns has a group that captures. -/
def someCapture : List Expr → Bool
  | [] => false
  | e :: more => captures e || someCapture more

end

end Expr

/-- Whether a group starts or ends at a step. -/
def Step.isMark : Step → Bool
  | .groupStart _ => true
  | .groupEnd _ => true
  | _ => false

/-- No group starts or ends at any of the steps. -/
def Unmarked (steps : Array Step) : Prop :=
  ∀ s ∈ steps, s.isMark = false

theorem Unmarked.push {steps : Array Step} (h : Unmarked steps) {s : Step} (hs : s.isMark = false) :
    Unmarked (steps.push s) := by
  intro t ht
  rcases Array.mem_push.1 ht with ht | rfl
  · exact h t ht
  · exact hs

theorem Unmarked.setIfInBounds {steps : Array Step} (h : Unmarked steps) (i : Nat) {s : Step}
    (hs : s.isMark = false) : Unmarked (steps.setIfInBounds i s) := by
  intro t ht
  rcases Array.mem_or_eq_of_mem_setIfInBounds ht with ht | rfl
  · exact h t ht
  · exact hs

namespace Program

/-! ## Steps that are written -/

/-- An emitter that writes no marks. -/
def Keeps (inner : Emitter) : Prop :=
  ∀ next steps, Unmarked steps → Unmarked (inner next steps).2

theorem isMark_roundOr (greedy : Bool) (round leave : Nat) : (roundOr greedy round leave).isMark = false := by
  cases greedy <;> rfl

theorem emit_keeps {s : Step} (hs : s.isMark = false) {steps : Array Step} (h : Unmarked steps) :
    Unmarked (emit s steps).2 :=
  h.push hs

section
variable {inner : Emitter} (hinner : Keeps inner)

include hinner

theorem rounds_keeps (count : Nat) : Keeps (rounds inner count) := by
  intro next steps h
  induction count with
  | zero => exact h
  | succ count ih => exact hinner _ _ ih

theorem optionalRounds_keeps (greedy : Bool) (leave count : Nat) {steps : Array Step} (h : Unmarked steps) :
    Unmarked (optionalRounds inner greedy leave count steps).2 := by
  induction count with
  | zero => exact h
  | succ count ih => exact emit_keeps (isMark_roundOr _ _ _) (hinner _ _ ih)

theorem oneOrMore_keeps (greedy : Bool) : Keeps (oneOrMore inner greedy) := by
  intro next steps h
  have hchoice : Unmarked (emit .halt steps).2 := emit_keeps rfl h
  exact (hinner _ _ hchoice).setIfInBounds _ (isMark_roundOr _ _ _)

theorem anyRounds_keeps (greedy roundMayBeEmpty : Bool) : Keeps (anyRounds inner greedy roundMayBeEmpty) := by
  intro next steps h
  cases roundMayBeEmpty with
  | true => exact emit_keeps (isMark_roundOr _ _ _) (oneOrMore_keeps hinner greedy next steps h)
  | false =>
    have hchoice : Unmarked (emit .halt steps).2 := emit_keeps rfl h
    exact (hinner _ _ hchoice).setIfInBounds _ (isMark_roundOr _ _ _)

theorem repetition_keeps (least : Nat) (most : Option Nat) (greedy roundMayBeEmpty : Bool) :
    Keeps (repetition inner least most greedy roundMayBeEmpty) := by
  intro next steps h
  cases most with
  | some most => exact rounds_keeps hinner least _ _ (optionalRounds_keeps hinner greedy next (most - least) h)
  | none =>
    cases least with
    | zero => exact anyRounds_keeps hinner greedy roundMayBeEmpty next steps h
    | succ before => exact rounds_keeps hinner before _ _ (oneOrMore_keeps hinner greedy next steps h)

end

mutual

/-- A pattern without groups is compiled to steps without marks. -/
theorem compile_keeps : ∀ e : Expr, e.captures = false → Keeps (compile e)
  | .empty, _ => fun _ _ h => h
  | .one .., _ => fun _ _ h => emit_keeps rfl h
  | .look _, _ => fun _ _ h => emit_keeps rfl h
  | .group first inner, hnone => by
    obtain ⟨rfl, hinner⟩ : first = false ∧ inner.captures = false := by
      simpa [Expr.captures] using hnone
    intro next steps h
    exact compile_keeps inner hinner next steps h
  | .sequence parts, hnone => compileParts_keeps parts hnone
  | .choice alternatives, hnone => compileAlternatives_keeps alternatives hnone
  | .repeated inner _ _ _, hnone => repetition_keeps (compile_keeps inner hnone) _ _ _ _

theorem compileParts_keeps : ∀ parts : List Expr, Expr.someCapture parts = false → Keeps (compileParts parts)
  | [], _ => fun _ _ h => h
  | e :: more, hnone => by
    obtain ⟨he, hmore⟩ : e.captures = false ∧ Expr.someCapture more = false := by
      simpa [Expr.someCapture] using hnone
    intro next steps h
    exact compile_keeps e he _ _ (compileParts_keeps more hmore next steps h)

theorem compileAlternatives_keeps : ∀ alternatives : List Expr, Expr.someCapture alternatives = false →
    Keeps (compileAlternatives alternatives)
  | [], _ => fun _ _ h => h
  | [e], hnone => compile_keeps e (by simpa [Expr.someCapture] using hnone)
  | e :: other :: more, hnone => by
    obtain ⟨he, hmore⟩ : e.captures = false ∧ Expr.someCapture (other :: more) = false := by
      simpa [Expr.someCapture] using hnone
    intro next steps h
    have hother := compileAlternatives_keeps (other :: more) hmore next steps h
    exact emit_keeps rfl (compile_keeps e he next _ hother)

end

theorem unmarked_ofExpr {e : Expr} (h : e.captures = false) : Unmarked (ofExpr e).steps := by
  refine compile_keeps e h 0 _ ?_
  intro s hs
  obtain rfl : s = .halt := by simpa using hs
  rfl

end Program

/-! ## Threads that know of no group -/

/-- The span of a thread that has passed no mark. -/
def Span.none : Span := ⟨Option.none, Option.none⟩

/-- Threads that have passed no mark. -/
def Unaware (threads : List Thread) : Prop :=
  ∀ t ∈ threads, t.span = Span.none

theorem Unaware.cons {t : Thread} {threads : List Thread} (ht : t.span = Span.none) (h : Unaware threads) :
    Unaware (t :: threads) :=
  List.forall_mem_cons.2 ⟨ht, h⟩

section
variable {steps : Array Step} (hsteps : Unmarked steps)

include hsteps

theorem follow_unaware (p : Place) (rounds : Nat) {threads : List Thread} {crowd : Crowd}
    (hthreads : Unaware threads) (hcrowd : Unaware crowd.waiting) :
    Unaware (follow steps p rounds threads crowd).waiting := by
  induction rounds generalizing threads crowd with
  | zero => exact hcrowd
  | succ rounds ih =>
    cases threads with
    | nil => exact hcrowd
    | cons t more =>
      obtain ⟨ht, hmore⟩ := List.forall_mem_cons.1 hthreads
      rw [follow]
      split
      · exact ih hmore hcrowd
      · have hwaiting : Unaware (t :: crowd.waiting) := Unaware.cons ht hcrowd
        dsimp only
        -- One case for each kind of step; only at a mark would the span change, and there is none.
        split
        · exact ih (Unaware.cons ht (Unaware.cons ht hmore)) hcrowd
        · split
          · exact ih (Unaware.cons ht hmore) hcrowd
          · exact ih hmore hcrowd
        · next hstart => exact absurd (hsteps _ (Array.mem_of_getElem? hstart)) (by simp [Step.isMark])
        · next hend => exact absurd (hsteps _ (Array.mem_of_getElem? hend)) (by simp [Step.isMark])
        · exact ih hmore hwaiting

theorem followOne_unaware (p : Place) {t : Thread} {crowd : Crowd} (ht : t.span = Span.none)
    (hcrowd : Unaware crowd.waiting) : Unaware (followOne steps p t crowd).waiting :=
  follow_unaware hsteps p _ (Unaware.cons ht fun _ h => absurd h List.not_mem_nil) hcrowd

theorem advance_unaware (c : Char) (p : Place) {threads : List Thread} (hthreads : Unaware threads) :
    Unaware (advance steps c p threads).waiting := by
  have hfold : ∀ (crowd : Crowd), Unaware crowd.waiting →
      Unaware (threads.foldl (advanceOne steps c p) crowd).waiting := by
    induction threads with
    | nil => exact fun crowd hcrowd => hcrowd
    | cons t more ih =>
      obtain ⟨ht, hmore⟩ := List.forall_mem_cons.1 hthreads
      intro crowd hcrowd
      apply ih hmore
      unfold advanceOne
      split
      · split
        · exact followOne_unaware hsteps p ht hcrowd
        · exact hcrowd
      · exact hcrowd
  exact hfold _ fun _ h => absurd h List.not_mem_nil

omit hsteps in
theorem mem_of_mem_untilHalt {threads : List Thread} {t : Thread} (h : t ∈ (untilHalt steps threads).1) :
    t ∈ threads := by
  induction threads with
  | nil => exact h
  | cons u more ih =>
    rw [untilHalt] at h
    split at h
    · cases h
    · rcases List.mem_cons.1 h with rfl | h
      · exact List.mem_cons_self
      · exact List.mem_cons_of_mem u (ih h)

omit hsteps in
theorem exists_of_untilHalt {threads : List Thread} {span : Span}
    (h : (untilHalt steps threads).2 = some span) : ∃ t ∈ threads, t.span = span := by
  induction threads with
  | nil => cases h
  | cons u more ih =>
    rw [untilHalt] at h
    split at h
    · exact ⟨u, List.mem_cons_self, Option.some.inj h⟩
    · obtain ⟨t, ht, hspan⟩ := ih h
      exact ⟨t, List.mem_cons_of_mem u ht, hspan⟩

omit hsteps in
theorem untilHalt_unaware {crowd : Crowd} {found : Option Span} (hcrowd : Unaware crowd.waiting)
    (hfound : ∀ span ∈ found, span = Span.none) :
    Unaware (untilHalt steps crowd.waiting.reverse).1 ∧
      ∀ span ∈ (untilHalt steps crowd.waiting.reverse).2.or found, span = Span.none := by
  have hreverse : Unaware crowd.waiting.reverse := fun t ht => hcrowd t (List.mem_reverse.1 ht)
  refine ⟨fun t ht => hreverse t (mem_of_mem_untilHalt ht), ?_⟩
  intro span hspan
  cases hended : (untilHalt steps crowd.waiting.reverse).2 with
  | none =>
    rw [hended] at hspan
    exact hfound span hspan
  | some ended =>
    rw [hended] at hspan
    obtain ⟨t, ht, rfl⟩ := exists_of_untilHalt hended
    cases hspan
    exact hreverse t ht

end

section
variable {program : Program} (hsteps : Unmarked program.steps)

include hsteps

theorem entered_unaware (p : Place) {crowd : Crowd} (hcrowd : Unaware crowd.waiting) (found : Option Span) :
    Unaware (if found.isSome then crowd
      else followOne program.steps p ⟨program.start, ⟨none, none⟩⟩ crowd).waiting := by
  split
  · exact hcrowd
  · exact followOne_unaware hsteps p rfl hcrowd

theorem searchFrom_of_unmarked (cs : List Char) (p : Place) {crowd : Crowd} {found : Option Span}
    (hcrowd : Unaware crowd.waiting) (hfound : ∀ span ∈ found, span = Span.none) :
    ∀ span ∈ searchFrom program cs p crowd found, span = Span.none := by
  induction cs generalizing p crowd found with
  | nil =>
    obtain ⟨-, hbest⟩ := untilHalt_unaware (entered_unaware hsteps p hcrowd found) hfound
    rw [searchFrom]
    exact hbest
  | cons c cs ih =>
    obtain ⟨hthreads, hbest⟩ := untilHalt_unaware (entered_unaware hsteps p hcrowd found) hfound
    rw [searchFrom]
    dsimp only
    -- The crowd is itself an `if`, which would be split first.
    generalize (if found.isSome then crowd else _) = entered at hthreads hbest ⊢
    split
    · exact hbest
    · exact ih _ (advance_unaware hsteps c _ hthreads) hbest

theorem search_of_unmarked (cs : List Char) : ∀ span ∈ search program cs, span = Span.none :=
  searchFrom_of_unmarked hsteps cs _ (fun _ h => absurd h List.not_mem_nil) (fun _ h => absurd h (by simp))

end

/-- A pattern without groups has no first group in any text. -/
theorem firstGroup?_of_not_captures {e : Expr} (h : e.captures = false) (cs : List Char) :
    firstGroup? (.ofExpr e) cs = none := by
  have hsearch := search_of_unmarked (Program.unmarked_ofExpr h) cs
  rw [firstGroup?]
  split
  · next first last hfound => exact absurd (hsearch _ hfound) (by simp [Span.none])
  · rfl

end Harvest.Pattern
