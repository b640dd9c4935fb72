import Harvest.Template.Helper
import Harvest.Proofs.Url.Reparse
import Harvest.Proofs.Url.Settle

/-!
# Setting the parameters of a query

`setQuery` reads an address, sets the parameters that its arguments name, and writes the address again.
Nothing but the query changes; its parameters are settled (`Readdressed`), whatever characters their keys
and values hold, and reading a parameter back gives what was set (`setQuery_readdressed`).
-/

namespace Harvest.Template

/-- An address is another one with parameters set, and with nothing else changed. -/
structure Readdressed (start : Url) (new : List Url.Pair) (url : Url) : Prop where
  reads : Url.parse url.toText = .ok url
  /-- The old parameters in their places, and after them those that are new, as first mentioned. -/
  params : url.params = Url.settle new start.params ++
    Url.settle new (new.filter fun q => (Url.lastValue? start.params q.1).isNone)
  /-- The parameters whose keys are not set, each as often and in the order as before. -/
  others : url.params.filter (fun q => (Url.lastValue? new q.1).isNone) =
    start.params.filter fun q => (Url.lastValue? new q.1).isNone
  /-- Exactly one parameter for each key that is set, with the value that was mentioned last. -/
  own : ∀ key value, Url.lastValue? new key = some value →
    url.params.filter (fun q => q.1 == key) = [(key, value)]
  scheme : url.scheme = start.scheme
  username : url.username = start.username
  password : url.password = start.password
  host : url.host = start.host
  port : url.port = start.port
  path : url.path = start.path
  fragment : url.fragment = start.fragment

theorem readdressed_setParams {u : Url} (h : Url.parse u.toText = .ok u) (new : List Url.Pair) :
    Readdressed u new (u.setParams new) where
  reads := Url.parseAgainst_setParams h new none
  params := by rw [Url.params_setParams, Url.setPairs_eq_append]
  others := by rw [Url.params_setParams, Url.setPairs_others]
  own := by
    intro key value hset
    rw [Url.params_setParams, Url.setPairs_own hset]
  scheme := rfl
  username := rfl
  password := rfl
  host := rfl
  port := rfl
  path := rfl
  fragment := rfl

theorem setQuery_eq {address : String} {u : Url} (hread : Url.parse address = .ok u)
    (arguments : List Json) :
    setQuery address arguments = (u.setParams (pairsOf arguments)).toText := by
  rw [setQuery, hread]

theorem queryParam_eq {address : String} {u : Url} (hread : Url.parse address = .ok u) (key : String) :
    queryParam address key = u.param? key := by
  rw [queryParam, hread]

/-- Setting parameters changes nothing but the parameters that are set, they read back as they were set, and
setting them again changes nothing. -/
theorem setQuery_readdressed {address : String} {u : Url} (hread : Url.parse address = .ok u)
    (hreparse : Url.parse u.toText = .ok u) (arguments : List Json) :
    (∃ v, setQuery address arguments = v.toText ∧ Readdressed u (pairsOf arguments) v) ∧
      (∀ key, queryParam (setQuery address arguments) key =
        (Url.lastValue? (pairsOf arguments) key).or (queryParam address key)) ∧
      setQuery (setQuery address arguments) arguments = setQuery address arguments := by
  have hset := setQuery_eq hread arguments
  have hurl := readdressed_setParams hreparse (pairsOf arguments)
  have hback := hurl.reads
  refine ⟨⟨_, hset, hurl⟩, fun key => ?_, ?_⟩
  · rw [hset, queryParam_eq hback, queryParam_eq hread, Url.param?_setParams_or]
  · rw [hset, setQuery_eq hback, Url.setParams_again]

/-- An address in which one parameter is there twice. -/
def crowded : Url :=
  ⟨"http", "", "", some (.domain "a.test"), none, .segments [""], some "a=1&b=2&a=3", some "f"⟩

/-- One key mentioned twice, one that has to be escaped, and one without a value. -/
def awkward : List Json :=
  [.string "a", .string "x", .string "&=+%é", .string "", .string "a", .string "&=+%", .string "n"]

theorem setQuery_readdressed_crowded :
    (Url.parse "http://a.test?a=1&b=2&a=3#f" = .ok crowded ∧
      Url.parse crowded.toText = .ok crowded) ∧
      setQuery "http://a.test?a=1&b=2&a=3#f" awkward =
        "http://a.test/?a=%26%3D%2B%25&b=2&%26%3D%2B%25%C3%A9=&n=#f" ∧
      (∃ v, setQuery "http://a.test?a=1&b=2&a=3#f" awkward = v.toText ∧
        Readdressed crowded [("a", "x"), ("&=+%é", ""), ("a", "&=+%"), ("n", "")] v) ∧
      queryParam (setQuery "http://a.test?a=1&b=2&a=3#f" awkward) "a" = some "&=+%" ∧
      setQuery (setQuery "http://a.test?a=1&b=2&a=3#f" awkward) awkward =
        setQuery "http://a.test?a=1&b=2&a=3#f" awkward := by
  have hread : Url.parse "http://a.test?a=1&b=2&a=3#f" = .ok crowded := by decide +kernel
  have hreparse : Url.parse crowded.toText = .ok crowded := by decide +kernel
  have hset : setQuery "http://a.test?a=1&b=2&a=3#f" awkward =
      "http://a.test/?a=%26%3D%2B%25&b=2&%26%3D%2B%25%C3%A9=&n=#f" := by
    rw [setQuery_eq hread]
    decide +kernel
  obtain ⟨hurl, hparam, hagain⟩ := setQuery_readdressed hread hreparse awkward
  refine ⟨⟨hread, hreparse⟩, hset, hurl, ?_, hagain⟩
  rw [hparam]
  rfl

end Harvest.Template
