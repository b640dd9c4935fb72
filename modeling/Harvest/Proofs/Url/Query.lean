import Harvest.Url.Query
import Harvest.Proofs.Text.Split
import Harvest.Proofs.Text.Utf8

/-!
# Query parameters read back

A component of a query reads back as its text (`decodeComponent_encode`), and as no component holds a
separator, the pairs of a query read back in their order (`parsePairs_encodePairs`). Setting a parameter
leaves exactly one with its key, all others as they were (`setPair_own`, `setPair_others`), and what was
set before is forgotten (`setPair_setPair`).
-/

namespace Harvest.Url

open Text (Utf8.encode Utf8.encodeChar Utf8.encode_of_ascii Utf8.toNat_toUInt8)

/-! ## The characters of components -/

/-- Characters of a component as it is written. -/
def isComponentChar (c : Char) : Bool :=
  isPlain c || c == '+' || c == '%'

theorem isComponentChar_range {c : Char} (h : isComponentChar c = true) :
    0x20 < c.toNat ∧ c.toNat < 0x7F := by
  have hletter : ∀ {a b : Char}, 0x20 < a.toNat → b.toNat < 0x7F → a ≤ c ∧ c ≤ b →
      0x20 < c.toNat ∧ c.toNat < 0x7F := fun ha hb h =>
    ⟨Nat.lt_of_lt_of_le ha h.1, Nat.lt_of_le_of_lt h.2 hb⟩
  simp only [isComponentChar, isPlain, Bool.or_eq_true, Bool.and_eq_true, decide_eq_true_eq,
    beq_iff_eq] at h
  rcases h with (((((((h | h) | h) | rfl) | rfl) | rfl) | rfl) | rfl) | rfl
  · exact hletter (by decide) (by decide) h
  · exact hletter (by decide) (by decide) h
  · exact hletter (by decide) (by decide) h
  all_goals decide

theorem isComponentChar_lt {c : Char} (h : isComponentChar c = true) : c.toNat < 0x80 := by
  have := isComponentChar_range h
  omega

theorem isComponentChar_of_isPlain {c : Char} (h : isPlain c = true) : isComponentChar c = true := by
  simp [isComponentChar, h]

/-- The byte of a character of ASCII. -/
def byteOf (c : Char) : UInt8 :=
  c.toNat.toUInt8

theorem toNat_byteOf {c : Char} (h : c.toNat < 0x80) : (byteOf c).toNat = c.toNat :=
  Utf8.toNat_toUInt8 (by omega)

theorem byteOf_inj {c d : Char} (hc : c.toNat < 0x80) (hd : d.toNat < 0x80)
    (h : byteOf c = byteOf d) : c = d := by
  have : c.toNat = d.toNat := by rw [← toNat_byteOf hc, h, toNat_byteOf hd]
  exact Char.toNat_inj.1 this

theorem hexDigit_spec : ∀ n < 16, isPlain (Percent.hexDigit n) = true ∧
    Percent.hexOfByte? (byteOf (Percent.hexDigit n)) = some n := by
  decide

theorem isComponentChar_of_mem_encodeByte {b : UInt8} {c : Char} (h : c ∈ Percent.encodeByte b) :
    isComponentChar c = true := by
  have hb := b.toNat_lt
  simp only [Percent.encodeByte, List.mem_cons, List.not_mem_nil, or_false] at h
  rcases h with rfl | rfl | rfl
  · rfl
  · exact isComponentChar_of_isPlain (hexDigit_spec _ (by omega)).1
  · exact isComponentChar_of_isPlain (hexDigit_spec _ (by omega)).1

theorem isComponentChar_of_mem_char {c d : Char} (h : d ∈ encodeComponentChar c) :
    isComponentChar d = true := by
  unfold encodeComponentChar at h
  split at h
  case isTrue hplain =>
    rw [List.mem_singleton.1 h]
    exact isComponentChar_of_isPlain hplain
  case isFalse =>
  split at h
  · rw [List.mem_singleton.1 h]
    rfl
  · obtain ⟨b, -, hb⟩ := List.mem_flatMap.1 h
    exact isComponentChar_of_mem_encodeByte hb

theorem isComponentChar_of_mem {s : String} {c : Char} (h : c ∈ encodeComponent s) :
    isComponentChar c = true := by
  obtain ⟨d, -, hd⟩ := List.mem_flatMap.1 h
  exact isComponentChar_of_mem_char hd

/-! ## Components read back -/

/-- What a byte of a component stands for before percent signs are resolved. -/
def unplus (b : UInt8) : UInt8 :=
  if b == 0x2B then 0x20 else b

theorem unplus_byteOf {c : Char} (h : isPlain c = true) : unplus (byteOf c) = byteOf c := by
  have hlt := isComponentChar_lt (isComponentChar_of_isPlain h)
  have hne : byteOf c ≠ 0x2B := by
    intro heq
    have : c = '+' := byteOf_inj hlt (by decide) heq
    rw [this] at h
    exact absurd h (by decide)
  simp [unplus, hne]

theorem decode_cons_of_ne {b : UInt8} (h : b ≠ 0x25) (bs : List UInt8) :
    Percent.decode (b :: bs) = b :: Percent.decode bs := by
  rw [Percent.decode]
  rintro a c rest rfl
  exact fun _ => h rfl

theorem decode_encodeByte (b : UInt8) (bs : List UInt8) :
    Percent.decode (((Percent.encodeByte b).map byteOf).map unplus ++ bs) =
      b :: Percent.decode bs := by
  have hb := b.toNat_lt
  obtain ⟨hhigh, hvalue⟩ := hexDigit_spec (b.toNat / 16) (by omega)
  obtain ⟨hlow, hvalue'⟩ := hexDigit_spec (b.toNat % 16) (by omega)
  have hpercent : unplus (byteOf '%') = 0x25 := by decide
  have hsum : b.toNat / 16 * 16 + b.toNat % 16 = b.toNat := by omega
  simp only [Percent.encodeByte, List.map_cons, List.map_nil, List.cons_append, List.nil_append,
    hpercent, unplus_byteOf hhigh, unplus_byteOf hlow]
  rw [Percent.decode, hvalue, hvalue']
  simp [hsum]

theorem decode_encodeWhole (bytes bs : List UInt8) :
    Percent.decode (((bytes.flatMap Percent.encodeByte).map byteOf).map unplus ++ bs) =
      bytes ++ Percent.decode bs := by
  induction bytes with
  | nil => rfl
  | cons b bytes ih =>
    rw [List.flatMap_cons, List.map_append, List.map_append, List.append_assoc, decode_encodeByte, ih]
    rfl

theorem decode_encodeComponentChar (c : Char) (bs : List UInt8) :
    Percent.decode (((encodeComponentChar c).map byteOf).map unplus ++ bs) =
      Utf8.encodeChar c ++ Percent.decode bs := by
  unfold encodeComponentChar
  split
  case isTrue h =>
    have hlt := isComponentChar_lt (isComponentChar_of_isPlain h)
    have hne : byteOf c ≠ 0x25 := by
      intro heq
      have : c = '%' := byteOf_inj hlt (by decide) heq
      rw [this] at h
      exact absurd h (by decide)
    rw [List.map_singleton, List.map_singleton, unplus_byteOf h, List.singleton_append,
      decode_cons_of_ne hne, Utf8.encodeChar, if_pos hlt]
    rfl
  case isFalse =>
  split
  case isTrue h =>
    subst h
    exact decode_cons_of_ne (by decide) bs
  case isFalse => exact decode_encodeWhole (Utf8.encodeChar c) bs

/-- A component reads back as its text. -/
theorem decodeComponent_encode (s : String) :
    decodeComponent ((encodeComponent s).map byteOf) = s := by
  have hchars : ∀ cs : List Char,
      Percent.decode (((cs.flatMap encodeComponentChar).map byteOf).map unplus) = Utf8.encode cs := by
    intro cs
    induction cs with
    | nil => rfl
    | cons c cs ih =>
      rw [List.flatMap_cons, List.map_append, List.map_append, decode_encodeComponentChar, ih]
      rfl
  calc decodeComponent ((encodeComponent s).map byteOf)
      = Text.Utf8.toStringLossy (Utf8.encode s.toList) := congrArg Text.Utf8.toStringLossy (hchars s.toList)
    _ = s := Text.Utf8.toStringLossy_ofString s

/-! ## Pairs -/

/-- Characters of a query as pairs are written. -/
def isQueryChar (c : Char) : Bool :=
  isComponentChar c || c == '=' || c == '&'

theorem byteOf_ne_of_mem {s : String} {d : Char} (hd : d.toNat < 0x80)
    (hsep : isComponentChar d = false) : ∀ b ∈ (encodeComponent s).map byteOf, b ≠ byteOf d := by
  intro b hb heq
  obtain ⟨c, hc, rfl⟩ := List.mem_map.1 hb
  have hcomp := isComponentChar_of_mem hc
  rw [byteOf_inj (isComponentChar_lt hcomp) hd heq, hsep] at hcomp
  cases hcomp

/-- The bytes of a pair. -/
def pairBytes (p : Pair) : List UInt8 :=
  (encodeComponent p.1).map byteOf ++ 0x3D :: (encodeComponent p.2).map byteOf

theorem parsePair?_pairBytes (p : Pair) : parsePair? (pairBytes p) = some p := by
  have hne : (pairBytes p).isEmpty = false := by
    rw [pairBytes, List.isEmpty_eq_false_iff]
    simp
  have hkey : ∀ b ∈ (encodeComponent p.1).map byteOf, (b == 0x3D) = false := fun b hb =>
    beq_false_of_ne (byteOf_ne_of_mem (d := '=') (by decide) rfl b hb)
  have hcut : Text.cutAt (· == 0x3D) (pairBytes p) =
      ((encodeComponent p.1).map byteOf, some ((encodeComponent p.2).map byteOf)) :=
    Text.cutAt_append hkey rfl _
  rw [parsePair?, hne]
  simp [hcut, decodeComponent_encode]

theorem isQueryChar_of_mem {pairs : List Pair} {c : Char} (h : c ∈ (encodePairs pairs).toList) :
    isQueryChar c = true := by
  rw [encodePairs, String.toList_ofList] at h
  induction pairs with
  | nil => cases h
  | cons p pairs ih =>
    have hpair : ∀ c ∈ encodePair p, isQueryChar c = true := by
      intro c hc
      rcases List.mem_append.1 hc with hc | hc
      · simp [isQueryChar, isComponentChar_of_mem hc]
      · rcases List.mem_cons.1 hc with rfl | hc
        · rfl
        · simp [isQueryChar, isComponentChar_of_mem hc]
    cases pairs with
    | nil => exact hpair c (by simpa using h)
    | cons q pairs =>
      rw [List.map_cons, List.map_cons, List.intercalate_cons_cons, List.append_assoc] at h
      rcases List.mem_append.1 h with h | h
      · exact hpair c h
      · rcases List.mem_cons.1 h with rfl | h
        · rfl
        · exact ih h

theorem isQueryChar_range {c : Char} (h : isQueryChar c = true) :
    0x20 < c.toNat ∧ c.toNat < 0x7F := by
  simp only [isQueryChar, Bool.or_eq_true, beq_iff_eq] at h
  rcases h with (h | rfl) | rfl
  · exact isComponentChar_range h
  · decide
  · decide

theorem isQueryChar_lt {c : Char} (h : isQueryChar c = true) : c.toNat < 0x80 := by
  have := isQueryChar_range h
  omega

theorem ofString_encodePairs (pairs : List Pair) :
    Text.Utf8.ofString (encodePairs pairs) = [0x26].intercalate (pairs.map pairBytes) := by
  rw [Text.Utf8.ofString, Utf8.encode_of_ascii fun c hc => isQueryChar_lt (isQueryChar_of_mem hc),
    encodePairs, String.toList_ofList]
  change (['&'].intercalate _).map byteOf = _
  rw [Text.map_intercalate, List.map_map]
  congr 2
  funext p
  simp [encodePair, pairBytes, byteOf]

/-- The pairs of a query read back in their order. -/
theorem parsePairs_encodePairs (pairs : List Pair) : parsePairs (encodePairs pairs) = pairs := by
  rw [parsePairs, ofString_encodePairs]
  cases hpairs : pairs with
  | nil => rfl
  | cons p more =>
    have hsep : ∀ piece ∈ pairs.map pairBytes, ∀ b ∈ piece, (b == 0x26) = false := by
      intro piece hpiece b hb
      obtain ⟨q, -, rfl⟩ := List.mem_map.1 hpiece
      rw [beq_eq_false_iff_ne]
      rcases List.mem_append.1 hb with hb | hb
      · exact byteOf_ne_of_mem (d := '&') (by decide) rfl b hb
      · rcases List.mem_cons.1 hb with rfl | hb
        · decide
        · exact byteOf_ne_of_mem (d := '&') (by decide) rfl b hb
    rw [← hpairs, Text.splitWhere_intercalate (by simp [hpairs]) hsep rfl, List.filterMap_map]
    have hread : parsePair? ∘ pairBytes = some := funext parsePair?_pairBytes
    rw [hread, List.filterMap_some]

/-! ## Setting parameters -/

/-- No parameter has the key. -/
def Lacks (pairs : List Pair) (key : String) : Prop :=
  ∀ q ∈ pairs, q.1 ≠ key

section setting
variable {pairs : List Pair} {key : String}

theorem lacks_nil (key : String) : Lacks [] key := by
  rintro q ⟨⟩

theorem Lacks.any_eq (h : Lacks pairs key) : (pairs.any fun q => q.1 == key) = false := by
  rw [List.any_eq_false]
  intro q hq
  simpa using h q hq

theorem Lacks.own_eq (h : Lacks pairs key) : pairs.filter (fun q => q.1 == key) = [] := by
  rw [List.filter_eq_nil_iff]
  intro q hq
  simpa using h q hq

theorem Lacks.others_eq (h : Lacks pairs key) : pairs.filter (fun q => q.1 != key) = pairs := by
  rw [List.filter_eq_self]
  intro q hq
  simpa using h q hq

theorem lacks_others (pairs : List Pair) (key : String) :
    Lacks (pairs.filter fun q => q.1 != key) key := by
  intro q hq
  simpa using (List.mem_filter.1 hq).2

/-- A key is lacking, or there is a first pair with it. -/
theorem lacks_or_first (pairs : List Pair) (key : String) :
    Lacks pairs key ∨
      ∃ before old after, pairs = before ++ (key, old) :: after ∧ Lacks before key := by
  induction pairs with
  | nil => exact Or.inl (lacks_nil key)
  | cons q pairs ih =>
    by_cases hq : q.1 = key
    · obtain ⟨k, v⟩ := q
      obtain rfl : k = key := hq
      exact Or.inr ⟨[], v, pairs, rfl, lacks_nil k⟩
    · rcases ih with h | ⟨before, old, after, rfl, h⟩
      · exact Or.inl (List.forall_mem_cons.2 ⟨hq, h⟩)
      · exact Or.inr ⟨q :: before, old, after, rfl, List.forall_mem_cons.2 ⟨hq, h⟩⟩

theorem replaceFirst_append (h : Lacks pairs key) (value : String) (more : List Pair) :
    replaceFirst key value (pairs ++ more) = pairs ++ replaceFirst key value more := by
  induction pairs with
  | nil => rfl
  | cons q pairs ih =>
    obtain ⟨hq, h⟩ := List.forall_mem_cons.1 h
    rw [List.cons_append, replaceFirst, if_neg hq, ih h, List.cons_append]

/-- Among pairs of which one has the key, that one gets the value. -/
theorem setPair_middle {after : List Pair} (hbefore : Lacks pairs key) (old value : String) :
    setPair (pairs ++ (key, old) :: after) (key, value) =
      pairs ++ (key, value) :: after.filter fun q => q.1 != key := by
  rw [setPair, if_pos (by simp), replaceFirst_append hbefore, replaceFirst, if_pos rfl]

/-- A parameter is set in the place of the first with its key, or at the end; the others with the key
go. -/
theorem setPair_eq (pairs : List Pair) (key : String) :
    ∃ before after, Lacks before key ∧ Lacks after key ∧
      pairs.filter (fun q => q.1 != key) = before ++ after ∧
      ∀ value, setPair pairs (key, value) = before ++ (key, value) :: after := by
  rcases lacks_or_first pairs key with h | ⟨before, old, after, rfl, hbefore⟩
  · refine ⟨pairs, [], h, lacks_nil key, ?_, ?_⟩
    · rw [h.others_eq, List.append_nil]
    · intro value
      rw [setPair, h.any_eq]
      rfl
  · refine ⟨before, after.filter fun q => q.1 != key, hbefore, lacks_others after key, ?_, ?_⟩
    · simp [hbefore.others_eq]
    · exact setPair_middle hbefore old

/-- What was set before under the same key is forgotten. -/
theorem setPair_setPair (pairs : List Pair) (key value value' : String) :
    setPair (setPair pairs (key, value)) (key, value') = setPair pairs (key, value') := by
  obtain ⟨before, after, hbefore, hafter, -, hset⟩ := setPair_eq pairs key
  rw [hset, hset, setPair_middle hbefore, hafter.others_eq]

/-- Exactly one parameter has the key that was set. -/
theorem setPair_own (pairs : List Pair) (key value : String) :
    (setPair pairs (key, value)).filter (fun q => q.1 == key) = [(key, value)] := by
  obtain ⟨before, after, hbefore, hafter, -, hset⟩ := setPair_eq pairs key
  rw [hset, List.filter_append, List.filter_cons_of_pos (by simp), hbefore.own_eq, hafter.own_eq]
  rfl

/-- The parameters with other keys are those of before, in their order. -/
theorem setPair_others (pairs : List Pair) (key value : String) :
    (setPair pairs (key, value)).filter (fun q => q.1 != key) =
      pairs.filter (fun q => q.1 != key) := by
  obtain ⟨before, after, hbefore, hafter, hothers, hset⟩ := setPair_eq pairs key
  rw [hset, hothers, List.filter_append, List.filter_cons_of_neg (by simp), hbefore.others_eq,
    hafter.others_eq]

end setting

/-! ## Addresses -/

theorem params_setParams (u : Url) (new : List Pair) :
    (u.setParams new).params = setPairs u.params new := by
  rw [setParams, params, Option.map_some, parsePairs_encodePairs]
  rfl

/-- Setting a parameter of an address twice is setting it once. -/
theorem setParams_setParams (u : Url) (key value value' : String) :
    (u.setParams [(key, value)]).setParams [(key, value')] = u.setParams [(key, value')] := by
  have hpairs : setPairs (u.setParams [(key, value)]).params [(key, value')] =
      setPairs u.params [(key, value')] := by
    rw [params_setParams]
    exact setPair_setPair u.params key value value'
  rw [setParams, hpairs]
  rfl

theorem param?_setParams (u : Url) (key value : String) :
    (u.setParams [(key, value)]).param? key = some value := by
  have hown : (setPairs u.params [(key, value)]).filter (fun q => q.1 == key) = [(key, value)] :=
    setPair_own u.params key value
  rw [param?, params_setParams, ← List.head?_filter, hown]
  rfl

end Harvest.Url
