import Harvest.Client.Basic
import Harvest.Client.Config
import Harvest.Client.Proxy
import Harvest.Text.Utf8
import Harvest.Url.Query

/-!
# HTTP clients

An `HttpClient` sends messages through a `Transport`, which may answer every attempt at the same message
differently. Attempts that fail to connect are repeated as often as the settings allow; an answer with a
status other than 200 is a failure that is never repeated.
-/

namespace Harvest

/-- What is sent to a server: a form in its encoded shape, if there is one. -/
structure Message where
  url : String
  form : Option String
  deriving DecidableEq, Repr

/-- The answer of a server; its body may turn out to be unreadable. -/
structure Response where
  status : Nat
  body : Except String (List UInt8)

/-- Why an attempt brought no answer. -/
inductive Failure where
  /-- No connection came about. -/
  | connection (reason : String)
  /-- The message cannot be sent. -/
  | message (reason : String)
  deriving DecidableEq, Repr

/-- What comes of an attempt at a message, by the requests made before and the number of attempts that
have failed to connect. -/
abbrev Transport := History → Message → Nat → Except Failure Response

/-- A client for HTTP. -/
structure HttpClient where
  transport : Transport
  /-- How many more attempts follow a failure to connect. -/
  retry : Nat
  socksEnabled : Bool

namespace HttpClient

/-- How many characters of a body an error tells. -/
def snippetLength : Nat := 256

/-- The beginning of a body. -/
def snippet (body : List UInt8) : String :=
  String.ofList ((Text.Utf8.decodeLossy body).take snippetLength)

/-- Takes the body out of a response. -/
def accept (url : String) (r : Response) : Except ClientError (List UInt8) :=
  match r.body with
  | .error reason => .error (.transport url reason)
  | .ok body => if r.status = 200 then .ok body else .error (.http url r.status (snippet body))

/-- Sends a message, with at most `retries` more attempts after those that have `failed`. -/
def attempt (url : String) (send : Nat → Except Failure Response) (failed : Nat) :
    Nat → Except ClientError (List UInt8)
  | 0 =>
    match send failed with
    | .ok r => accept url r
    | .error (.connection reason) => .error (.transport url reason)
    | .error (.message reason) => .error (.transport url reason)
  | retries + 1 =>
    match send failed with
    | .ok r => accept url r
    | .error (.connection _) => attempt url send (failed + 1) retries
    | .error (.message reason) => .error (.transport url reason)

/-- The bytes of a page. -/
def getBytes (c : HttpClient) (h : History) (url : String) : Except ClientError (List UInt8) :=
  attempt url (c.transport h ⟨url, none⟩) 0 c.retry

/-- The bytes that answer a form. -/
def postBytes (c : HttpClient) (h : History) (url : String) (form : Form) :
    Except ClientError (List UInt8) :=
  attempt url (c.transport h ⟨url, some (Url.encodePairs form)⟩) 0 c.retry

/-- The client that an HTTP client is; text is read as UTF-8. -/
def toClient (c : HttpClient) : Client where
  getText h url := (c.getBytes h url).map Text.Utf8.toStringLossy
  getBytes := c.getBytes
  postText h url form := (c.postBytes h url form).map Text.Utf8.toStringLossy
  postBytes := c.postBytes
  socksEnabled := c.socksEnabled

/-- The client without special settings. -/
def default (transport : Transport) : HttpClient :=
  ⟨transport, ClientConfig.default.retry, false⟩

/-- The client with the given settings; the transport goes by the settings too. -/
def ofConfig (transport : ClientConfig → Transport) (config : ClientConfig) :
    Except ClientError HttpClient :=
  match config.socks5Proxy with
  | none => .ok ⟨transport config, config.retry, false⟩
  | some address =>
    if Proxy.isUsable address then .ok ⟨transport config, config.retry, true⟩
    else .error (.proxy address "invalid proxy url")

end HttpClient

end Harvest
