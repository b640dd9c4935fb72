import Harvest.Template.Render
import Harvest.Proofs.Number.Decimal
import Harvest.Proofs.Url.Reparse

/-!
# The template that counts a parameter up

`increment` reads the parameter `p` of the address of the last page as an integer and sets it to the next
one (`nextUrl_increment`), as long as that fits into 64 bits. A parameter that is missing or no integer
counts as zero (`counter`).
-/

namespace Harvest.Template

/-- The text of the template. -/
def incrementText : String :=
  "\x7b\x7bset_params url \"p\" (add (param url \"p\") 1)\x7d\x7d"

/-- The reference to the address of the last page. -/
def lastUrl : Argument :=
  .reference ⟨"url", [.name "url"]⟩

/-- What the text is read as. -/
def increment : Template :=
  ⟨[.call "set_params"
    [lastUrl, .literal (.string "p"),
      .call "add" [.call "param" [lastUrl, .literal (.string "p")] [], .literal (.int 1)] []] []]⟩

theorem compile_increment : compile incrementText = .ok increment := by
  have hread : ofText? incrementText = some increment := by with_unfolding_all rfl
  rw [compile, hread]

/-- The integer that the parameter `p` holds. -/
def counter (u : Url) : Int :=
  ((u.param? "p").bind Number.parseInteger).getD 0

/-- The address with the parameter `p` set to an integer. -/
def numbered (u : Url) (i : Int) : Url :=
  u.setParams [("p", Number.ofInt i)]

theorem toInteger_param (u : Url) : toInteger (.string ((u.param? "p").getD "")) = counter u := by
  unfold counter toInteger
  cases u.param? "p" with
  | none => rfl
  | some v => rfl

/-- The calls of the template, the inner ones first. -/
theorem render_calls (last : Url) (payload : Payload) :
    increment.render (pageData last payload) =
      .ok (setQuery last.toText
        [.string "p", .int (sumOf (.string ((queryParam last.toText "p").getD "")) (.int 1))] ++
        "") := by
  rfl

theorem pairsOf_number (i : Int) :
    pairsOf [.string "p", .int i] = [("p", Number.ofInt i)] := by
  rfl

theorem minInt64_le_counter (u : Url) : Number.minInt64 ≤ counter u := by
  unfold counter
  cases hread : (u.param? "p").bind Number.parseInteger with
  | none => decide
  | some i =>
    obtain ⟨value, -, hvalue⟩ := Option.bind_eq_some_iff.1 hread
    exact (Number.parseInteger_range hvalue).1

/-- The sum is the next number, unless that is too large. -/
theorem sumOf_param {u : Url} (hfits : counter u + 1 ≤ Number.maxInt64) :
    sumOf (.string ((u.param? "p").getD "")) (.int 1) = counter u + 1 := by
  have hone : toInteger (.int 1) = 1 := by decide
  have hlow := minInt64_le_counter u
  rw [sumOf, toInteger_param, hone, Number.wrapInt64_eq_self (by omega) hfits]

theorem render_increment {last : Url} (hparse : Url.parse last.toText = .ok last)
    (hfits : counter last + 1 ≤ Number.maxInt64) (payload : Payload) :
    increment.render (pageData last payload) = .ok (numbered last (counter last + 1)).toText := by
  rw [render_calls, String.append_empty, queryParam, hparse, setQuery, hparse]
  simp only [sumOf_param hfits, pairsOf_number]
  rfl

/-! ## Numbered addresses -/

/-- An address that reads back does so with any number, against any base. -/
theorem parseAgainst_numbered {u : Url} (h : Url.parse u.toText = .ok u) (i : Int) (base : Option Url) :
    Url.parseAgainst base (numbered u i).toText = .ok (numbered u i) :=
  Url.parseAgainst_setParams h _ base

/-- An address is another one with the parameter `p` made a number, and with nothing else changed. -/
structure IsNumbered (start : Url) (i : Int) (url : Url) : Prop where
  reads : Url.parse url.toText = .ok url
  /-- Exactly one parameter `p`. -/
  number : url.params.filter (fun q => q.1 == "p") = [("p", Number.ofInt i)]
  others : url.params.filter (fun q => q.1 != "p") = start.params.filter (fun q => q.1 != "p")
  scheme : url.scheme = start.scheme
  username : url.username = start.username
  password : url.password = start.password
  host : url.host = start.host
  port : url.port = start.port
  path : url.path = start.path
  fragment : url.fragment = start.fragment

theorem isNumbered_numbered {start : Url} (hstart : Url.parse start.toText = .ok start) (i : Int) :
    IsNumbered start i (numbered start i) where
  reads := parseAgainst_numbered hstart i none
  number := by
    rw [numbered, Url.params_setParams]
    exact Url.setPair_own start.params "p" (Number.ofInt i)
  others := by
    rw [numbered, Url.params_setParams]
    exact Url.setPair_others start.params "p" (Number.ofInt i)
  scheme := rfl
  username := rfl
  password := rfl
  host := rfl
  port := rfl
  path := rfl
  fragment := rfl

theorem numbered_numbered (u : Url) (i j : Int) : numbered (numbered u i) j = numbered u j :=
  Url.setParams_setParams u "p" _ _

/-- The number of a numbered address, unless it is too large to be read. -/
theorem counter_numbered (u : Url) {i : Int} (hlow : Number.minInt64 ≤ i)
    (hhigh : i ≤ Number.maxInt64) : counter (numbered u i) = i := by
  rw [counter, numbered, Url.param?_setParams, Option.bind_some, Number.parseInteger_ofInt hlow hhigh]
  rfl

/-- The next address is the last one with its parameter counted up. -/
theorem nextUrl_increment {last : Url} (hparse : Url.parse last.toText = .ok last)
    (hfits : counter last + 1 ≤ Number.maxInt64) (payload : Payload) :
    increment.nextUrl last payload = .ok (numbered last (counter last + 1)).toText := by
  have htrim : Text.trim (numbered last (counter last + 1)).toText =
      (numbered last (counter last + 1)).toText :=
    Url.trim_withQuery hparse fun _ => Url.isQueryChar_of_mem
  have hwritten : (numbered last (counter last + 1)).toText.isEmpty = false := by
    rw [Bool.eq_false_iff]
    intro hempty
    have hread := parseAgainst_numbered hparse (counter last + 1) none
    rw [String.isEmpty_iff.1 hempty] at hread
    cases hread
  rw [nextUrl, render_increment hparse hfits]
  simp only [htrim, hwritten]
  rfl

end Harvest.Template
