import Harvest.Error
import Harvest.Markup.Document
import Harvest.Url.Parser

/-!
# Clients

A `Client` fetches pages. What it answers may depend on the requests made before, so each of its
operations takes the `History` of requests. `Client.fetchText` and its siblings make a request: they
give the answer together with the history that the request has been added to.
-/

namespace Harvest

/-- The names and values of a form. -/
abbrev Form := List (String × String)

/-- A request for a page. -/
inductive Request where
  | get (url : String)
  /-- Sends a form. -/
  | post (url : String) (form : Form)
  deriving DecidableEq, Repr

/-- The requests made so far, in their order. -/
abbrev History := List Request

/-- Something that fetches pages. -/
structure Client where
  getText : History → String → Except ClientError String
  getBytes : History → String → Except ClientError (List UInt8)
  postText : History → String → Form → Except ClientError String
  postBytes : History → String → Form → Except ClientError (List UInt8)
  /-- Whether requests go through a SOCKS proxy. -/
  socksEnabled : Bool

/-- A page with the url it was fetched from. -/
structure WebPage where
  url : Url
  document : Markup.Document

/-- Reads a text that was fetched from a url. -/
def WebPage.parse (url : Url) (body : String) : WebPage :=
  ⟨url, .parse body⟩

namespace Client

/-- Requests the text of a page. -/
def fetchText (c : Client) (url : String) (h : History) : Except ClientError String × History :=
  (c.getText h url, h ++ [.get url])

/-- Requests the bytes of a page. -/
def fetchBytes (c : Client) (url : String) (h : History) :
    Except ClientError (List UInt8) × History :=
  (c.getBytes h url, h ++ [.get url])

/-- Sends a form and takes the answer as text. -/
def sendForText (c : Client) (url : String) (form : Form) (h : History) :
    Except ClientError String × History :=
  (c.postText h url form, h ++ [.post url form])

/-- Sends a form and takes the answer as bytes. -/
def sendForBytes (c : Client) (url : String) (form : Form) (h : History) :
    Except ClientError (List UInt8) × History :=
  (c.postBytes h url form, h ++ [.post url form])

/-- Requests a page and reads it. Nothing is requested if the url is malformed. -/
def fetchPage (c : Client) (url : String) (h : History) : Except ClientError WebPage × History :=
  match Url.parse url with
  | .error fault => (.error (.invalidUrl url fault), h)
  | .ok parsed =>
    match c.fetchText url h with
    | (.error e, h) => (.error e, h)
    | (.ok body, h) => (.ok (.parse parsed body), h)

end Client

end Harvest
