import Harvest.Json.Shaped
import Harvest.Proofs.Number.Decimal

/-!
# What the printer writes, the readers read back

`ReadsBack read cs v` says that a reader takes the characters `cs`, standing before a mark that ends a
value, for `v` and stops behind them. It holds of each reader of fixed shape on what the printer writes
for a value of that shape (`readString_back`, `readBool_back`, `readNat_back`); it goes from elements to
sequences (`readList_back`) and from fields to structures (`readStructure_back`).
-/

namespace Harvest.Json

/-- The end of the text, or a mark that may follow a value. -/
def AfterValue : List Symbol → Prop
  | [] => True
  | s :: _ => s = some ',' ∨ s = some ']' ∨ s = some '}'

/-- The characters begin with a token that may begin a value. -/
def Opens (cs : List Char) : Prop :=
  ∃ c more, cs = c :: more ∧ isSpace (some c) = false ∧ c ≠ ']'

/-- The reader takes the characters for the value. -/
structure ReadsBack {α : Type} (read : Reader α) (cs : List Char) (v : α) : Prop where
  opens : Opens cs
  reads : ∀ rest, AfterValue rest → read (cs.map some ++ rest) = .ok (v, rest)

/-- The reader takes the characters for no value. -/
structure Refuses {α : Type} (read : Reader α) (cs : List Char) : Prop where
  opens : Opens cs
  fails : ∀ rest, AfterValue rest → ∃ f, read (cs.map some ++ rest) = .error f

theorem skipSpace_cons {c : Symbol} {rest : List Symbol} (h : isSpace c = false) :
    skipSpace (c :: rest) = c :: rest := by
  rw [skipSpace, List.dropWhile_cons_of_neg (by simp [h])]

/-! ## Texts -/

/-- A character is written by a short escape, by its code, or as it stands. -/
theorem escapeChar_cases (c : Char) :
    (∃ e, escapeChar c = ['\\', e] ∧ e ≠ 'u' ∧ simpleEscape? e = some c) ∨
    (c.toNat < 0x20 ∧ escapeChar c =
      ['\\', 'u', '0', '0', hexDigit (c.toNat / 16), hexDigit (c.toNat % 16)]) ∨
    (0x20 ≤ c.toNat ∧ c ≠ '"' ∧ c ≠ '\\' ∧ escapeChar c = [c]) := by
  by_cases hshort : c ∈ ['"', '\\', '\n', '\r', '\t', '\x08', '\x0c']
  · refine Or.inl ?_
    simp only [List.mem_cons, List.not_mem_nil, or_false] at hshort
    rcases hshort with rfl | rfl | rfl | rfl | rfl | rfl | rfl <;> exact ⟨_, rfl, by decide, rfl⟩
  · simp only [List.mem_cons, List.not_mem_nil, or_false, not_or] at hshort
    obtain ⟨hquote, hslash, hn, hr, ht, hb, hf⟩ := hshort
    refine Or.inr ?_
    simp only [escapeChar, if_neg hquote, if_neg hslash, if_neg hn, if_neg hr, if_neg ht, if_neg hb,
      if_neg hf]
    split
    case isTrue h => exact Or.inl ⟨h, rfl⟩
    case isFalse h => exact Or.inr ⟨by omega, hquote, hslash, rfl⟩

theorem hex4?_control : ∀ n < 32,
    hex4? (some '0') (some '0') (some (hexDigit (n / 16))) (some (hexDigit (n % 16))) = some n := by
  decide

theorem readCode_control {n : Nat} (h : n < 0x20) (rest : List Symbol) :
    readCode (some '0' :: some '0' :: some (hexDigit (n / 16)) :: some (hexDigit (n % 16)) :: rest) =
      .ok (Char.ofNat n, rest) := by
  have hlow : (decide (0xDC00 ≤ n) && decide (n ≤ 0xDFFF)) = false := by simp; omega
  have hplain : (decide (n < 0xD800) || decide (0xDBFF < n)) = true := by simp; omega
  simp only [readCode, readHex4, hex4?_control n h, hlow, hplain, if_true, Bool.false_eq_true,
    if_false]

theorem readCharsOnto_code {c : Char} {rest rest' : List Symbol} (acc : List Char)
    (h : readCode rest = .ok (c, rest')) :
    readCharsOnto acc none (some '\\' :: some 'u' :: rest) = readCharsOnto (c :: acc) none rest' := by
  rw [readCharsOnto]
  split
  case h_1 heq => rw [h] at heq; cases heq
  case h_2 heq => rw [h] at heq; cases heq; rfl

/-- However a character is written, it reads back as itself. -/
theorem readCharsOnto_escapeChar (c : Char) (acc : List Char) (rest : List Symbol) :
    readCharsOnto acc none ((escapeChar c).map some ++ rest) = readCharsOnto (c :: acc) none rest := by
  rcases escapeChar_cases c with ⟨e, hc, hu, he⟩ | ⟨hlt, hc⟩ | ⟨hge, hquote, hslash, hc⟩
  · rw [hc]
    simp [readCharsOnto, hu, he]
  · rw [hc]
    exact (readCharsOnto_code acc (readCode_control hlt rest)).trans (by rw [Char.ofNat_toNat])
  · have hcontrol : ¬ c.toNat < 0x20 := by omega
    rw [hc]
    simp [readCharsOnto, hcontrol, hslash]

/-- A written text reads back up to its closing quote. -/
theorem readText_escaped (s : String) (rest : List Symbol) :
    readText ((s.toList.flatMap escapeChar ++ ['"']).map some ++ rest) = .ok (s, rest) := by
  have hchars : ∀ (cs acc : List Char),
      readCharsOnto acc none ((cs.flatMap escapeChar ++ ['"']).map some ++ rest) =
        .ok (acc.reverse ++ cs, rest) := by
    intro cs
    induction cs with
    | nil => intro acc; simp [readCharsOnto]
    | cons c cs ih =>
      intro acc
      have := ih (c :: acc)
      rw [List.flatMap_cons, List.append_assoc, List.map_append, List.append_assoc,
        readCharsOnto_escapeChar, this]
      simp
  rw [readText, hchars]
  simp

theorem readString_back (s : String) : ReadsBack readString (stringChars s) s where
  opens := ⟨_, _, rfl, by decide, by decide⟩
  reads rest _ := by
    rw [stringChars, List.map_cons, List.cons_append, readString, skipSpace_cons rfl]
    exact readText_escaped s rest

/-! ## Truth values and numbers -/

theorem readBool_back (b : Bool) : ReadsBack readBool (chars (.bool b)) b where
  opens := by cases b <;> exact ⟨_, _, rfl, by decide, by decide⟩
  reads rest _ := by cases b <;> rfl

theorem digit?_some {c : Char} (h : Number.isDigit c = true) :
    digit? (some c) = some (Number.digitValue c) := by
  rw [digit?, if_pos h]

theorem AfterValue.startsDigit_eq {rest : List Symbol} (h : AfterValue rest) :
    startsDigit rest = false := by
  cases rest with
  | nil => rfl
  | cons s rest => rcases h with rfl | rfl | rfl <;> rfl

theorem AfterValue.readNumberEnd_eq {rest : List Symbol} (h : AfterValue rest) (n : Nat) :
    readNumberEnd true n rest = .ok (.int n, rest) := by
  cases rest with
  | nil => rfl
  | cons s rest => rcases h with rfl | rfl | rfl <;> rfl

theorem le_foldl_digits (cs : List Char) (n : Nat) :
    n ≤ cs.foldl (fun n c => n * 10 + Number.digitValue c) n := by
  induction cs generalizing n with
  | nil => exact Nat.le_refl n
  | cons c cs ih =>
    have := ih (n * 10 + Number.digitValue c)
    rw [List.foldl_cons]
    omega

/-- All digits of a number are taken, as long as it fits in 64 bits. -/
theorem takeDigits_eq {cs : List Char} {rest : List Symbol} {n : Nat}
    (hdigits : ∀ c ∈ cs, Number.isDigit c = true) (hrest : startsDigit rest = false)
    (hfits : cs.foldl (fun n c => n * 10 + Number.digitValue c) n ≤ Number.maxNat64) :
    takeDigits n (cs.map some ++ rest) =
      (cs.foldl (fun n c => n * 10 + Number.digitValue c) n, rest) := by
  induction cs generalizing n with
  | nil =>
    cases rest with
    | nil => rfl
    | cons s rest =>
      have hs : digit? s = none := by simpa [startsDigit] using hrest
      simp [takeDigits, hs]
  | cons c cs ih =>
    have hnext := le_foldl_digits cs (n * 10 + Number.digitValue c)
    rw [List.foldl_cons] at hfits
    rw [List.map_cons, List.cons_append, takeDigits, digit?_some (hdigits c (List.mem_cons_self ..))]
    simp only [if_pos (Nat.le_trans hnext hfits), List.foldl_cons]
    exact ih (fun c hc => hdigits c (List.mem_cons_of_mem _ hc)) hfits

theorem readNumber_digits {n : Nat} {rest : List Symbol} (hn : n ≤ Number.maxNat64)
    (hrest : AfterValue rest) :
    readNumber true ((Number.digits n).map some ++ rest) = .ok (.int n, rest) := by
  obtain ⟨c, cs, hcs, hc, hzero⟩ := Number.digits_eq_cons n
  have hvalue : cs.foldl (fun n c => n * 10 + Number.digitValue c) (Number.digitValue c) = n := by
    have := Number.digitsValue_digits n
    rwa [hcs, Number.digitsValue, List.foldl_cons, Nat.zero_mul, Nat.zero_add] at this
  rw [hcs, List.map_cons, List.cons_append, readNumber, digit?_some hc]
  rcases hfirst : Number.digitValue c with _ | d
  · obtain ⟨rfl, rfl⟩ := hzero hfirst
    simp [hrest.startsDigit_eq, hrest.readNumberEnd_eq]
  · have htake : takeDigits (d + 1) (cs.map some ++ rest) = (n, rest) := by
      have hdigits : ∀ c ∈ cs, Number.isDigit c = true := fun c hc =>
        Number.isDigit_of_mem_digits (n := n) (by rw [hcs]; exact List.mem_cons_of_mem _ hc)
      rw [hfirst] at hvalue
      rw [takeDigits_eq hdigits hrest.startsDigit_eq (by omega), hvalue]
    simp [htake, hrest.startsDigit_eq, hrest.readNumberEnd_eq]

theorem not_isSpace_of_isDigit {c : Char} (h : Number.isDigit c = true) :
    isSpace (some c) = false := by
  have hspace : c ≠ ' ' ∧ c ≠ '\n' ∧ c ≠ '\t' ∧ c ≠ '\r' := by
    refine ⟨?_, ?_, ?_, ?_⟩ <;> rintro rfl <;> exact absurd h (by decide)
  simp [isSpace, hspace]

theorem readNat_back {expected : String} {limit n : Nat} (hn : n ≤ limit)
    (hfits : limit ≤ Number.maxNat64) : ReadsBack (readNat expected limit) (chars (.int n)) n := by
  have hchars : chars (.int n) = Number.digits n := by
    rw [chars, Number.intChars, if_neg (by omega), Int.natAbs_natCast]
  obtain ⟨c, cs, hcs, hc, -⟩ := Number.digits_eq_cons n
  have hspace := not_isSpace_of_isDigit hc
  refine ⟨⟨c, cs, hchars.trans hcs, hspace, by rintro rfl; exact absurd hc (by decide)⟩, ?_⟩
  intro rest hrest
  have hread := readNumber_digits (Nat.le_trans hn hfits) hrest
  rw [hcs, List.map_cons, List.cons_append] at hread
  rw [hchars, hcs, List.map_cons, List.cons_append, readNat, skipSpace_cons hspace]
  split
  case h_1 heq => cases heq
  case h_2 heq => cases heq; exact absurd hc (by decide)
  case h_3 heq =>
    cases heq
    simp [digit?_some hc, hread, natOf, hn]

/-! ## Sequences -/

section sequences
variable {α : Type} {element : Reader α} {write : α → Json}

theorem length_le_itemsChars (js : List Json) : js.length < (itemsChars js).length := by
  induction js with
  | nil => simp [itemsChars]
  | cons j js ih => simp only [itemsChars, List.length_cons, List.length_append]; omega

theorem afterValue_itemsChars (js : List Json) (rest : List Symbol) :
    AfterValue ((itemsChars js).map some ++ rest) := by
  cases js with
  | nil => exact Or.inr (Or.inl rfl)
  | cons j js => exact Or.inl rfl

theorem Opens.nextElement_first {cs : List Char} (h : Opens cs) (rest : List Symbol) :
    nextElement true (cs.map some ++ rest) = .ok (true, cs.map some ++ rest) := by
  obtain ⟨c, more, rfl, hspace, hc⟩ := h
  simp [nextElement, skipSpace_cons hspace, hc]

theorem Opens.nextElement_comma {cs : List Char} (h : Opens cs) (rest : List Symbol) :
    nextElement false (some ',' :: (cs.map some ++ rest)) = .ok (true, cs.map some ++ rest) := by
  obtain ⟨c, more, rfl, hspace, hc⟩ := h
  simp [nextElement, skipSpace_cons (c := some ',') rfl, skipSpace_cons hspace, hc]

/-- The first item of a sequence is read as one behind a comma. -/
theorem readElements_first {j : Json} (hj : Opens (chars j)) (js : List Json) (bound : Nat)
    (rest : List Symbol) :
    readElements element (bound + 1) true ((chars j ++ itemsChars js).map some ++ rest) =
      readElements element (bound + 1) false ((itemsChars (j :: js)).map some ++ rest) := by
  rw [itemsChars, List.map_cons, List.map_append, List.cons_append, List.append_assoc, readElements,
    readElements, hj.nextElement_first, hj.nextElement_comma]

theorem readElements_end (bound : Nat) (first : Bool) (rest : List Symbol) :
    readElements element (bound + 1) first (some ']' :: rest) = .ok ([], some ']' :: rest) := by
  simp [readElements, nextElement, skipSpace_cons (c := some ']') rfl]

/-- Items that read back one by one read back in a row. -/
theorem readElements_items {vs : List α} (h : ∀ v ∈ vs, ReadsBack element (chars (write v)) v)
    {bound : Nat} (hbound : vs.length < bound) (rest : List Symbol) :
    readElements element bound false ((itemsChars (vs.map write)).map some ++ rest) =
      .ok (vs, some ']' :: rest) := by
  induction vs generalizing bound with
  | nil =>
    obtain ⟨bound, rfl⟩ := Nat.exists_eq_add_one_of_ne_zero (Nat.ne_of_gt hbound)
    exact readElements_end bound false rest
  | cons v vs ih =>
    obtain ⟨bound, rfl⟩ := Nat.exists_eq_add_one_of_ne_zero (Nat.ne_zero_of_lt hbound)
    have hv := h v (List.mem_cons_self ..)
    have hvs := ih (fun v hv => h v (List.mem_cons_of_mem _ hv)) (Nat.lt_of_succ_lt_succ hbound)
    rw [List.map_cons, itemsChars, List.map_cons, List.map_append, List.cons_append,
      List.append_assoc, readElements, hv.opens.nextElement_comma]
    simp only [hv.reads _ (afterValue_itemsChars _ rest), hvs]

/-- One refused item is enough to refuse the row. -/
theorem readElements_refuses {vs : List α}
    (h : ∀ v ∈ vs, ReadsBack element (chars (write v)) v ∨ Refuses element (chars (write v)))
    (hbad : ∃ v ∈ vs, Refuses element (chars (write v))) (bound : Nat) (rest : List Symbol) :
    ∃ f, readElements element bound false ((itemsChars (vs.map write)).map some ++ rest) =
      .error f := by
  induction vs generalizing bound with
  | nil => simp at hbad
  | cons v vs ih =>
    cases bound with
    | zero => exact ⟨_, rfl⟩
    | succ bound =>
    rw [List.map_cons, itemsChars, List.map_cons, List.map_append, List.cons_append,
      List.append_assoc, readElements]
    by_cases hv : Refuses element (chars (write v))
    · obtain ⟨f, hf⟩ := hv.fails _ (afterValue_itemsChars (vs.map write) rest)
      rw [hv.opens.nextElement_comma]
      simp only [hf]
      exact ⟨f, rfl⟩
    · have hback := (h v (List.mem_cons_self ..)).resolve_right hv
      have hmore : ∃ v ∈ vs, Refuses element (chars (write v)) := by
        obtain ⟨w, hw, hrefuses⟩ := hbad
        exact ⟨w, (List.mem_cons.1 hw).resolve_left (by rintro rfl; exact hv hrefuses), hrefuses⟩
      obtain ⟨f, hf⟩ := ih (fun v hv => h v (List.mem_cons_of_mem _ hv)) hmore bound
      rw [hback.opens.nextElement_comma]
      simp only [hback.reads _ (afterValue_itemsChars _ rest), hf]
      exact ⟨f, rfl⟩

theorem opens_array (js : List Json) : Opens (chars (.array js)) := by
  cases js <;> exact ⟨_, _, rfl, by decide, by decide⟩

theorem readList_back {vs : List α} (h : ∀ v ∈ vs, ReadsBack element (chars (write v)) v)
    (depth : Nat) :
    ReadsBack (readList (depth + 1) element) (chars (.array (vs.map write))) vs where
  opens := opens_array _
  reads rest _ := by
    have hend : endSequence (some ']' :: rest) = .ok ((), rest) := rfl
    cases vs with
    | nil =>
      simp [chars, readList, skipSpace_cons (c := some '[') rfl, readSequence, readElements_end, hend]
    | cons v vs =>
      have hopens := (h v (List.mem_cons_self ..)).opens
      have hbound : (v :: vs).length <
          ((chars (write v) ++ itemsChars (vs.map write)).map some ++ rest).length + 1 := by
        have := length_le_itemsChars (vs.map write)
        simp only [List.length_map, List.length_append, List.length_cons] at this ⊢
        omega
      rw [List.map_cons, chars, List.map_cons, List.cons_append, readList, skipSpace_cons rfl]
      simp only [Nat.add_eq_zero_iff, Nat.one_ne_zero, and_false, if_false]
      rw [readSequence, readElements_first hopens, ← List.map_cons, readElements_items h hbound]
      simp only [hend]

theorem readList_refuses {vs : List α}
    (h : ∀ v ∈ vs, ReadsBack element (chars (write v)) v ∨ Refuses element (chars (write v)))
    (hbad : ∃ v ∈ vs, Refuses element (chars (write v))) (depth : Nat) :
    Refuses (readList (depth + 1) element) (chars (.array (vs.map write))) where
  opens := opens_array _
  fails rest _ := by
    cases vs with
    | nil => simp at hbad
    | cons v vs =>
      have hopens : Opens (chars (write v)) := (h v (List.mem_cons_self ..)).elim (·.opens) (·.opens)
      obtain ⟨f, hf⟩ := readElements_refuses h hbad
        (((chars (write v) ++ itemsChars (vs.map write)).map some ++ rest).length + 1) rest
      rw [List.map_cons, chars, List.map_cons, List.cons_append, readList, skipSpace_cons rfl]
      simp only [Nat.add_eq_zero_iff, Nat.one_ne_zero, and_false, if_false]
      rw [readSequence, readElements_first hopens, ← List.map_cons, hf]
      exact ⟨f, rfl⟩

theorem readList_tooDeep (element : Reader α) (js : List Json) :
    Refuses (readList 0 element) (chars (.array js)) := by
  refine ⟨opens_array js, fun rest _ => ?_⟩
  cases js <;> exact ⟨_, rfl⟩

end sequences

/-! ## Structures -/

section structures
variable {σ : Type} {fields : List (Field σ)} {seen : List String} {v w : σ}
  {entries : List (String × Json)}

/-- Entries of a map lead from one value to another: each names a field that has not been read yet and
reads back as a change of the value so far. -/
inductive Leads (fields : List (Field σ)) :
    List String → σ → List (String × Json) → List String → σ → Prop
  | nil {seen : List String} {v : σ} : Leads fields seen v [] seen v
  | cons {seen seen' : List String} {v v' w : σ} {key : String} {j : Json}
      {entries : List (String × Json)} {field : Field σ}
      (known : (fields.find? fun f => f.name == key) = some field)
      (fresh : seen.contains key = false) (back : ReadsBack (field.read v) (chars j) v')
      (more : Leads fields (key :: seen) v' entries seen' w) :
      Leads fields seen v ((key, j) :: entries) seen' w

theorem length_le_fieldsChars (entries : List (String × Json)) :
    entries.length < (fieldsChars entries).length := by
  induction entries with
  | nil => simp [fieldsChars]
  | cons entry entries ih =>
    simp only [fieldsChars, List.length_cons, List.length_append]
    omega

theorem afterValue_fieldsChars (entries : List (String × Json)) (rest : List Symbol) :
    AfterValue ((fieldsChars entries).map some ++ rest) := by
  cases entries with
  | nil => exact Or.inr (Or.inr rfl)
  | cons entry entries => exact Or.inl rfl

/-- What is read of an entry whose name is known and new. -/
theorem readFieldsByName_entry {key : String} {j : Json} {field : Field σ}
    (known : (fields.find? fun f => f.name == key) = some field)
    (fresh : seen.contains key = false) (bound : Nat) (rest : List Symbol) :
    readFieldsByName fields (bound + 1) false seen v
        ((fieldsChars ((key, j) :: entries)).map some ++ rest) =
      match field.read v ((chars j).map some ++ ((fieldsChars entries).map some ++ rest)) with
      | .error f => .error f
      | .ok (v', rest) => readFieldsByName fields bound false (key :: seen) v' rest := by
  have hnext : ∀ t, nextKey false (some ',' :: some '"' :: t) = .ok (true, t) := fun _ => rfl
  have hcolon : ∀ t, readColon (some ':' :: t) = .ok ((), t) := fun _ => rfl
  have htext := readText_escaped key
    (some ':' :: ((chars j).map some ++ ((fieldsChars entries).map some ++ rest)))
  simp only [fieldsChars, stringChars, List.map_cons, List.map_append, List.cons_append,
    List.append_assoc] at htext ⊢
  simp only [readFieldsByName, hnext, htext, known, fresh, hcolon]
  rfl

/-- Entries that lead to a value are read to it, whatever follows them. -/
theorem Leads.read {seen' : List String} (h : Leads fields seen v entries seen' w)
    (others : List (String × Json)) (bound : Nat) (rest : List Symbol) :
    readFieldsByName fields (entries.length + bound) false seen v
        ((fieldsChars (entries ++ others)).map some ++ rest) =
      readFieldsByName fields bound false seen' w ((fieldsChars others).map some ++ rest) := by
  induction h with
  | nil => simp
  | @cons seen seen' v v' w key j entries field known fresh back more ih =>
    rw [List.length_cons, Nat.add_right_comm, List.cons_append, readFieldsByName_entry known fresh]
    simp only [back.reads _ (afterValue_fieldsChars _ rest), ih]

theorem Leads.append {seen' seen'' : List String} {u : σ} {others : List (String × Json)}
    (h : Leads fields seen v entries seen' w) (hmore : Leads fields seen' w others seen'' u) :
    Leads fields seen v (entries ++ others) seen'' u := by
  induction h with
  | nil => exact hmore
  | cons known fresh back _ ih => exact .cons known fresh back (ih hmore)

theorem opens_object (entries : List (String × Json)) : Opens (chars (.object entries)) := by
  cases entries <;> exact ⟨_, _, rfl, by decide, by decide⟩

/-- What a structure is read to from what its entries are read to. -/
theorem readStructure_object (expected : String) (depth : Nat) (default : σ)
    (entries : List (String × Json)) (rest : List Symbol) :
    ∃ bound, entries.length < bound ∧
      readStructure expected (depth + 1) fields default ((chars (.object entries)).map some ++ rest) =
        leave endMap (readFieldsByName fields bound false [] default
          ((fieldsChars entries).map some ++ rest)) := by
  cases entries with
  | nil => exact ⟨1, Nat.one_pos, rfl⟩
  | cons entry entries =>
    have hlength := length_le_fieldsChars (entry :: entries)
    refine ⟨((fieldsChars (entry :: entries)).tail.map some ++ rest).length + 1, ?_, rfl⟩
    rw [List.length_append, List.length_map, List.length_tail]
    omega

/-- A structure reads back by name when its entries lead from the default to it. -/
theorem readStructure_back {seen' : List String} {default : σ}
    (h : Leads fields [] default entries seen' w) (expected : String) (depth : Nat) :
    ReadsBack (readStructure expected (depth + 1) fields default) (chars (.object entries)) w where
  opens := opens_object entries
  reads rest _ := by
    obtain ⟨bound, hbound, hread⟩ := readStructure_object expected depth default entries rest
    obtain ⟨more, rfl⟩ := Nat.exists_eq_add_of_lt hbound
    have := h.read [] (more + 1) rest
    rw [List.append_nil, ← Nat.add_assoc] at this
    rw [hread, this, fieldsChars, List.map_cons, List.map_nil]
    rfl

/-- A structure is refused when one of its entries is, whatever follows that entry. -/
theorem readStructure_refuses {seen' : List String} {default : σ} {key : String} {j : Json}
    {field : Field σ} (h : Leads fields [] default entries seen' w)
    (known : (fields.find? fun f => f.name == key) = some field)
    (fresh : seen'.contains key = false) (bad : Refuses (field.read w) (chars j))
    (others : List (String × Json)) (expected : String) (depth : Nat) :
    Refuses (readStructure expected (depth + 1) fields default)
      (chars (.object (entries ++ (key, j) :: others))) where
  opens := opens_object _
  fails rest _ := by
    obtain ⟨bound, hbound, hread⟩ :=
      readStructure_object expected depth default (entries ++ (key, j) :: others) rest
    obtain ⟨more, rfl⟩ : ∃ more, bound = entries.length + (more + 1) := by
      rw [List.length_append, List.length_cons] at hbound
      exact ⟨bound - entries.length - 1, by omega⟩
    obtain ⟨f, hf⟩ := bad.fails _ (afterValue_fieldsChars others rest)
    rw [hread, h.read, readFieldsByName_entry known fresh, hf]
    exact ⟨f, rfl⟩

end structures

/-! ## Changed values and whole texts -/

section whole
variable {α β : Type} {read : Reader α} {cs : List Char} {v : α}

theorem ReadsBack.map (h : ReadsBack read cs v) (f : α → β) :
    ReadsBack (fun s => (read s).map f) cs (f v) where
  opens := h.opens
  reads rest hrest := by rw [h.reads rest hrest]; rfl

theorem Refuses.map (h : Refuses read cs) (f : α → β) : Refuses (fun s => (read s).map f) cs where
  opens := h.opens
  fails rest hrest := by
    obtain ⟨e, he⟩ := h.fails rest hrest
    exact ⟨e, by rw [he]; rfl⟩

theorem symbolsOf_print (j : Json) : symbolsOf j.print = (chars j).map some := by
  rw [symbolsOf, print, String.toList_ofList]

theorem readShaped_print {j : Json} (h : ReadsBack read (chars j) v) :
    readShaped read j.print = .ok v := by
  have := h.reads [] trivial
  rw [List.append_nil] at this
  simp [readShaped, symbolsOf_print, readWhole, this, skipSpace, describeFault]

theorem readShaped_print_refused {j : Json} (h : Refuses read (chars j)) :
    ∃ e, readShaped read j.print = .error e := by
  obtain ⟨f, hf⟩ := h.fails [] trivial
  rw [List.append_nil] at hf
  simp [readShaped, symbolsOf_print, readWhole, hf, describeFault]

end whole

end Harvest.Json
