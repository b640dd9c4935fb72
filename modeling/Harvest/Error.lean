import Harvest.Url.Basic

/-!
# Errors

`ClientError` is what goes wrong when a page is fetched, `ScrapeError` what goes wrong when it is
scraped, and `RegistryError` what goes wrong when a type is registered. Three of the scrape errors say
only that a result set has come to its end (`ScrapeError.isExhausted`).
-/

namespace Harvest

/-- Why a page could not be fetched. -/
inductive ClientError where
  /-- The server answered with a status other than 200. -/
  | http (url : String) (status : Nat) (body : String)
  /-- No answer came about. -/
  | transport (url reason : String)
  /-- The proxy address cannot be used. -/
  | proxy (address reason : String)
  | invalidUrl (url : String) (fault : Url.Fault)
  deriving DecidableEq, Repr

/-- The status that the server answered with. -/
def ClientError.status? : ClientError → Option Nat
  | .http _ status _ => some status
  | _ => none

/-- The wording of a client error. -/
def ClientError.message : ClientError → String
  | .http url status body =>
    "unable to retrieve " ++ url ++ ": HTTP " ++ Number.ofNat status ++ " " ++ body
  | .transport url reason => "transport error for " ++ url ++ ": " ++ reason
  | .proxy address reason => "invalid proxy " ++ address ++ ": " ++ reason
  | .invalidUrl url fault => "invalid URL " ++ url ++ ": " ++ fault.message

/-- Why a page could not be scraped. -/
inductive ScrapeError where
  | noSchema
  | noNextUrl
  | noRows
  | noData
  | notImplemented (operation : String)
  | template (reason : String)
  | invalidUrl (url : String) (fault : Url.Fault)
  | client (error : ClientError)
  | json (message : String)
  deriving DecidableEq, Repr

namespace ScrapeError

/-- Whether the error only marks the end of a result set. -/
def isExhausted : ScrapeError → Bool
  | .noNextUrl => true
  | .noRows => true
  | .noData => true
  | _ => false

/-- The wording of a scrape error. -/
def message : ScrapeError → String
  | .noSchema => "schema is not available"
  | .noNextUrl => "no next url"
  | .noRows => "no rows"
  | .noData => "no data"
  | .notImplemented operation => operation ++ " is not implemented"
  | .template reason => "template error: " ++ reason
  | .invalidUrl url fault => "invalid URL " ++ url ++ ": " ++ fault.message
  | .client e => e.message
  | .json text => "JSON error: " ++ text

end ScrapeError

/-- Why a type could not be registered. -/
inductive RegistryError where
  | sealed (name : String)
  deriving DecidableEq, Repr

/-- The wording of a registry error. -/
def RegistryError.message : RegistryError → String
  | .sealed name =>
    "cannot register type " ++ name ++ ": registry is sealed after first lookup"

end Harvest
