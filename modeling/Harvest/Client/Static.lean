import Harvest.Client.Basic
import Harvest.Text.Utf8

/-!
# Clients with fixed pages

A client whose answers depend on the url alone: it serves a page as bytes, or as the text that these
stand for, and knows nothing of other urls. `Url.ofPage` gives its pages their addresses.
-/

namespace Harvest

/-- The address of a page by its name. -/
def Url.ofPage (name : String) : Url :=
  ⟨"http", "", "", some (.domain "a.test"), none, .segments [name], none, none⟩

namespace Client

/-- The answer to a request for a url. -/
def found (pages : String → Option (List UInt8)) (url : String) : Except ClientError (List UInt8) :=
  match pages url with
  | some body => .ok body
  | none => .error (.http url 404 "not found")

/-- The client that serves the given pages, whatever the request. -/
def serving (pages : String → Option (List UInt8)) : Client where
  getText _ url := (found pages url).map Text.Utf8.toStringLossy
  getBytes _ url := found pages url
  postText _ url _ := (found pages url).map Text.Utf8.toStringLossy
  postBytes _ url _ := found pages url
  socksEnabled := false

end Client

end Harvest
