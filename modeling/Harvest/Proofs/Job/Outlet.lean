import Harvest.Proofs.Job.Traversal

/-!
# Outlets that refuse

A traversal stops at the first record that its outlet refuses. Up to there it hands over the records that it
would hand over to an outlet that keeps them all (`Traversal.records`), one by one and in their order, and
it counts those that were accepted (`Traversal.run_feeds`).
-/

namespace Harvest

/-! ## Feeding an outlet -/

/-- Hands records to an outlet up to the first that it refuses: how many it accepts, and its state then. -/
def Outlet.feed {ω : Type} (o : Outlet ω) : ω → List Record → Nat × ω
  | sink, [] => (0, sink)
  | sink, record :: more =>
    match o sink record with
    | none => (0, sink)
    | some next => ((feed o next more).1 + 1, (feed o next more).2)

namespace Outlet

variable {ω : Type} {o : Outlet ω}

theorem feed_append_of_all {sink : ω} {records : List Record}
    (h : (o.feed sink records).1 = records.length) (others : List Record) :
    o.feed sink (records ++ others) =
      (records.length + (o.feed (o.feed sink records).2 others).1,
        (o.feed (o.feed sink records).2 others).2) := by
  induction records generalizing sink with
  | nil =>
    rw [List.nil_append, List.length_nil, Nat.zero_add]
    rfl
  | cons record more ih =>
    rw [feed] at h
    rw [List.cons_append, feed, feed]
    cases hnext : o sink record with
    | none =>
      rw [hnext] at h
      cases h
    | some next =>
      rw [hnext] at h
      dsimp only
      rw [ih (Nat.succ.inj h), List.length_cons, Nat.add_right_comm]

theorem feed_append_of_refused {sink : ω} {records : List Record}
    (h : (o.feed sink records).1 < records.length) (others : List Record) :
    o.feed sink (records ++ others) = o.feed sink records := by
  induction records generalizing sink with
  | nil => exact absurd h (Nat.not_lt_zero _)
  | cons record more ih =>
    rw [feed] at h
    rw [List.cons_append, feed, feed]
    cases hnext : o sink record with
    | none => rfl
    | some next =>
      rw [hnext] at h
      dsimp only
      rw [ih (Nat.lt_of_succ_lt_succ h)]

end Outlet

namespace Traversal

variable {ω : Type} (t : Traversal ω)

/-- The same traversal with an outlet that keeps every record. -/
def collecting : Traversal (Array Record) :=
  ⟨t.client, t.schema, t.stopOn, t.childDelay, Job.keepAll⟩

/-- The records that a traversal hands over, if none is refused. -/
def records (page : WebPage) (p : Progress ω) : List Record :=
  (t.collecting.run page ⟨p.history, p.registry, p.emitted, p.total, p.waited, #[]⟩).sink.toList

variable {t}

/-! ## What a collecting traversal has is kept -/

theorem collecting_outlet : t.collecting.outlet = Job.keepAll := rfl

theorem emit_grows (record : Record) (q : Progress (Array Record)) :
    q.sink.toList <+: (t.collecting.emit record q).2.sink.toList :=
  ⟨_, (emit_emits collecting_outlet record q).adds.sink.symm⟩

theorem emitEach_grows (read : Selection → Registered Record) (sels : List Selection)
    (q : Progress (Array Record)) :
    q.sink.toList <+: (t.collecting.emitEach read sels q).2.sink.toList := by
  induction sels generalizing q with
  | nil => exact List.prefix_refl _
  | cons sel more ih =>
    have hfirst := emit_grows (t := t) (read sel q.registry).1
      { q with registry := (read sel q.registry).2 }
    rw [emitEach]
    dsimp only
    rcases hemit : t.collecting.emit (read sel q.registry).1
      { q with registry := (read sel q.registry).2 } with ⟨_ | _, q'⟩
    · rw [hemit] at hfirst
      exact hfirst
    · rw [hemit] at hfirst
      exact hfirst.trans (ih q')

theorem childRecords_grows (page : WebPage) (schemas : List Schema) (q : Progress (Array Record)) :
    q.sink.toList <+: (t.collecting.childRecords page schemas q).2.sink.toList :=
  ⟨_, (childRecords_emits collecting_outlet page schemas q rfl).adds.sink.symm⟩

theorem childPages_grows (base : Url) (links : List Selection) {count : Nat}
    (hcount : t.collecting.limitReached count = false) (q : Progress (Array Record)) :
    q.sink.toList <+: (t.collecting.childPages base count links q).sink.toList := by
  have hlimit : t.schema.limit = 0 ∨ count < t.schema.limit := by
    by_contra hreached
    rw [limitReached_iff.2 hreached] at hcount
    cases hcount
  exact ⟨_, (childPages_follows collecting_outlet base links hlimit q rfl).sink.symm⟩

/-! ## Side by side with a collecting traversal -/

/-- Of the records that were collected, an outlet got those up to the first that it refused. -/
structure Fed (o : Outlet ω) (a : ω) (n : Nat) (p : Progress ω) (q : Progress (Array Record)) :
    Prop where
  sink : p.sink = (o.feed a q.sink.toList).2
  total : p.total = n + (o.feed a q.sink.toList).1

/-- No record was refused so far, and the traversals are at the same place. -/
structure InStep (o : Outlet ω) (a : ω) (n : Nat) (p : Progress ω) (q : Progress (Array Record)) :
    Prop extends Fed o a n p q where
  all : (o.feed a q.sink.toList).1 = q.sink.toList.length
  history : p.history = q.history
  registry : p.registry = q.registry
  emitted : p.emitted = q.emitted

/-- A record was refused. -/
structure Left (o : Outlet ω) (a : ω) (n : Nat) (p : Progress ω) (q : Progress (Array Record)) :
    Prop extends Fed o a n p q where
  refused : (o.feed a q.sink.toList).1 < q.sink.toList.length

theorem Left.mono {o : Outlet ω} {a : ω} {n : Nat} {p : Progress ω} {q q' : Progress (Array Record)}
    (h : Left o a n p q) (hq : q.sink.toList <+: q'.sink.toList) : Left o a n p q' := by
  obtain ⟨more, hmore⟩ := hq
  have hfeed := Outlet.feed_append_of_refused h.refused more
  rw [hmore] at hfeed
  refine ⟨⟨?_, ?_⟩, ?_⟩
  · rw [hfeed, h.sink]
  · rw [hfeed, h.total]
  · rw [hfeed, ← hmore, List.length_append]
    exact Nat.lt_of_lt_of_le h.refused (Nat.le_add_right _ _)

/-- Two traversals go on in step, stop in step, or one has left the other. -/
def Alongside (o : Outlet ω) (a : ω) (n : Nat) (r : Bool × Progress ω)
    (r' : Bool × Progress (Array Record)) : Prop :=
  r.1 = r'.1 ∧ InStep o a n r.2 r'.2 ∨ r.1 = false ∧ Left o a n r.2 r'.2

section
variable {o : Outlet ω} {a : ω} {n : Nat} {r : Bool × Progress ω} {r' : Bool × Progress (Array Record)}

theorem Alongside.goOn (h : Alongside o a n r r') {next : Progress ω → Bool × Progress ω}
    {next' : Progress (Array Record) → Bool × Progress (Array Record)}
    (hnext : ∀ p q, InStep o a n p q → Alongside o a n (next p) (next' q))
    (hgrows : ∀ q, q.sink.toList <+: (next' q).2.sink.toList) :
    Alongside o a n (Traversal.goOn next r) (Traversal.goOn next' r') := by
  obtain ⟨goes, p⟩ := r
  obtain ⟨goes', q⟩ := r'
  rcases h with ⟨hgoes, hstep⟩ | ⟨hstopped, hleft⟩
  · obtain rfl : goes = goes' := hgoes
    cases goes with
    | true => exact hnext p q hstep
    | false => exact Or.inl ⟨rfl, hstep⟩
  · obtain rfl : goes = false := hstopped
    cases goes' with
    | true => exact Or.inr ⟨rfl, hleft.mono (hgrows q)⟩
    | false => exact Or.inr ⟨rfl, hleft⟩

theorem Alongside.goOnWith (h : Alongside o a n r r') {next : Progress ω → Progress ω}
    {next' : Progress (Array Record) → Progress (Array Record)}
    (hnext : ∀ p q, InStep o a n p q → Fed o a n (next p) (next' q))
    (hgrows : ∀ q, q.sink.toList <+: (next' q).sink.toList) :
    Fed o a n (Traversal.goOnWith next r) (Traversal.goOnWith next' r') := by
  obtain ⟨goes, p⟩ := r
  obtain ⟨goes', q⟩ := r'
  rcases h with ⟨hgoes, hstep⟩ | ⟨hstopped, hleft⟩
  · obtain rfl : goes = goes' := hgoes
    cases goes with
    | true => exact hnext p q hstep
    | false => exact hstep.toFed
  · obtain rfl : goes = false := hstopped
    cases goes' with
    | true => exact (hleft.mono (hgrows q)).toFed
    | false => exact hleft.toFed

end

section
variable {a : ω} {n : Nat} {p : Progress ω} {q : Progress (Array Record)}

/-- A record goes out to both, stops both, or is refused. -/
theorem emit_alongside (h : InStep t.outlet a n p q) (record : Record) :
    Alongside t.outlet a n (t.emit record p) (t.collecting.emit record q) := by
  have hstops : t.collecting.stops q.emitted record = t.stops p.emitted record := by
    rw [h.emitted]
    rfl
  have hkept : t.collecting.outlet q.sink record = some (q.sink.push record) := rfl
  have hfeed := Outlet.feed_append_of_all h.all [record]
  rw [← h.sink, ← Array.toList_push] at hfeed
  unfold emit
  rw [hstops, hkept]
  by_cases hstop : t.stops p.emitted record = true
  · rw [if_pos hstop, if_pos hstop]
    exact Or.inl ⟨rfl, h⟩
  · rw [if_neg hstop, if_neg hstop]
    have hlength : (q.sink.push record).toList.length = q.sink.toList.length + 1 := by simp
    cases hnext : t.outlet p.sink record with
    | none =>
      simp only [Outlet.feed, hnext, Nat.add_zero] at hfeed
      refine Or.inr ⟨rfl, ⟨?_, ?_⟩, ?_⟩
      · rw [hfeed]
      · rw [hfeed, h.total, h.all]
      · rw [hfeed, hlength]
        exact Nat.lt_succ_self _
    | some next =>
      simp only [Outlet.feed, hnext, Nat.zero_add] at hfeed
      refine Or.inl ⟨rfl, ⟨?_, ?_⟩, ?_, h.history, h.registry, congrArg (· + 1) h.emitted⟩
      · rw [hfeed]
      · rw [hfeed, h.total, h.all, Nat.add_assoc]
      · rw [hfeed, hlength]

theorem emitEach_alongside (h : InStep t.outlet a n p q) (read : Selection → Registered Record)
    (sels : List Selection) :
    Alongside t.outlet a n (t.emitEach read sels p) (t.collecting.emitEach read sels q) := by
  induction sels generalizing p q with
  | nil => exact Or.inl ⟨rfl, h⟩
  | cons sel more ih =>
    have hread : InStep t.outlet a n { p with registry := (read sel q.registry).2 }
        { q with registry := (read sel q.registry).2 } :=
      ⟨⟨h.sink, h.total⟩, h.all, h.history, rfl, h.emitted⟩
    have hfirst := emit_alongside hread (read sel q.registry).1
    rw [emitEach, emitEach, h.registry]
    exact hfirst.goOn (fun p q h => ih h) (emitEach_grows read more)

theorem childRecords_alongside (h : InStep t.outlet a n p q) (page : WebPage) (schemas : List Schema) :
    Alongside t.outlet a n (t.childRecords page schemas p)
      (t.collecting.childRecords page schemas q) := by
  induction schemas generalizing p q with
  | nil => exact Or.inl ⟨rfl, h⟩
  | cons s more ih =>
    have hfirst := emitEach_alongside h (Extract.nestedRecord s.properties)
      (Selection.ofDocument page.document s.selector).each
    exact hfirst.goOn (fun p q h => ih h) (childRecords_grows page more)

theorem childPage_alongside (h : InStep t.outlet a n p q) (url : Url) :
    Alongside t.outlet a n (t.childPage url p) (t.collecting.childPage url q) := by
  have hstep : ∀ history, InStep t.outlet a n { p with history := history }
      { q with history := history } :=
    fun _ => ⟨⟨h.sink, h.total⟩, h.all, rfl, h.registry, h.emitted⟩
  unfold childPage
  rw [h.history]
  rcases hpage : t.client.fetchPage url.toText q.history with ⟨e | page, history⟩
  · have hpage' : t.collecting.client.fetchPage url.toText q.history = (.error e, history) := hpage
    rw [hpage']
    exact Or.inl ⟨rfl, hstep history⟩
  · have hpage' : t.collecting.client.fetchPage url.toText q.history = (.ok page, history) := hpage
    rw [hpage']
    exact childRecords_alongside (hstep history) page t.schema.properties

theorem pause_alongside (h : InStep t.outlet a n p q) (count : Nat) :
    InStep t.outlet a n (t.pause count p) (t.collecting.pause count q) := by
  unfold pause
  split
  · exact ⟨⟨h.sink, h.total⟩, h.all, h.history, h.registry, h.emitted⟩
  · exact h

theorem childPages_alongside (h : InStep t.outlet a n p q) (base : Url) (count : Nat)
    (links : List Selection) :
    Fed t.outlet a n (t.childPages base count links p) (t.collecting.childPages base count links q) := by
  induction links generalizing count p q with
  | nil => exact h.toFed
  | cons link more ih =>
    have htarget : t.collecting.schema.target? base link = t.schema.target? base link := rfl
    rw [childPages_cons, childPages_cons, htarget]
    cases t.schema.target? base link with
    | none => exact h.toFed
    | some url =>
      have hpage := childPage_alongside (pause_alongside h count) url
      by_cases hlimit : t.limitReached (count + 1) = true
      · have hlimit' : t.collecting.limitReached (count + 1) = true := hlimit
        simp only [hlimit, hlimit', if_true]
        exact hpage.goOnWith (fun p q h => h.toFed) fun q => List.prefix_refl _
      · have hlimit' : ¬t.collecting.limitReached (count + 1) = true := hlimit
        simp only [if_neg hlimit, if_neg hlimit']
        exact hpage.goOnWith (fun p q h => ih h (count + 1))
          (childPages_grows base more (Bool.eq_false_iff.2 hlimit'))

end

/-- **A traversal hands over the same records whatever its outlet.** Its outlet gets the records that a
collecting traversal has, up to the first that it refuses, and the accepted ones are counted. -/
theorem run_feeds (page : WebPage) (p : Progress ω) :
    (t.run page p).sink = (t.outlet.feed p.sink (t.records page p)).2 ∧
      (t.run page p).total = p.total + (t.outlet.feed p.sink (t.records page p)).1 := by
  have hstart : InStep t.outlet p.sink p.total p
      ⟨p.history, p.registry, p.emitted, p.total, p.waited, #[]⟩ := ⟨⟨rfl, rfl⟩, rfl, rfl, rfl, rfl⟩
  have hfed : Fed t.outlet p.sink p.total (t.run page p)
      (t.collecting.run page ⟨p.history, p.registry, p.emitted, p.total, p.waited, #[]⟩) := by
    unfold run
    by_cases hlist : t.schema.isUrlList = true
    · have hlist' : t.collecting.schema.isUrlList = true := hlist
      simp only [if_pos hlist, if_pos hlist']
      exact childPages_alongside hstart page.url 0 _
    · have hlist' : ¬t.collecting.schema.isUrlList = true := hlist
      simp only [if_neg hlist, if_neg hlist']
      rcases emitEach_alongside hstart (Extract.record t.schema.properties) _ with
        ⟨-, hstep⟩ | ⟨-, hleft⟩
      · exact hstep.toFed
      · exact hleft.toFed
  exact ⟨hfed.sink, hfed.total⟩

end Traversal

end Harvest
