import Harvest.Json.Printer
import Harvest.Json.Shaped

/-!
# Settings of a client

`ClientConfig.ofText` reads the settings from JSON text. Fields that are missing keep the values of
`ClientConfig.default`, unknown ones are passed over.
-/

namespace Harvest

/-- The settings of a client. -/
structure ClientConfig where
  /-- The address of a SOCKS5 proxy. -/
  socks5Proxy : Option String
  userAgent : String
  dialTimeoutSecs : Nat
  readTimeoutSecs : Nat
  /-- How many more attempts follow a failure to connect. -/
  retry : Nat
  deriving DecidableEq, Repr

namespace ClientConfig

/-- The settings of a client that nothing was said about. -/
def default : ClientConfig where
  socks5Proxy := none
  userAgent :=
    "Mozilla/5.0 (X11; Linux x86_64) AppleWebKit/537.36 (KHTML, like Gecko) " ++
    "Chrome/39.0.2171.27 Safari/537.36"
  dialTimeoutSecs := 10
  readTimeoutSecs := 10
  retry := 3

/-- The settings with all their fields. -/
def toJson (c : ClientConfig) : Json :=
  .object
    [("socks5_proxy", (c.socks5Proxy.map Json.string).getD .null),
     ("user_agent", .string c.userAgent),
     ("dial_timeout_secs", .int c.dialTimeoutSecs),
     ("read_timeout_secs", .int c.readTimeoutSecs),
     ("retry", .int c.retry)]

/-- Reads a number of seconds. -/
def readSeconds : Json.Reader Nat :=
  Json.readNat "u64" Number.maxNat64

/-- The fields of the settings. -/
def fields : List (Json.Field ClientConfig) :=
  [⟨"socks5_proxy", fun c s =>
      (Json.readOptionalString s).map fun v => { c with socks5Proxy := v }⟩,
   ⟨"user_agent", fun c s => (Json.readString s).map fun v => { c with userAgent := v }⟩,
   ⟨"dial_timeout_secs", fun c s => (readSeconds s).map fun v => { c with dialTimeoutSecs := v }⟩,
   ⟨"read_timeout_secs", fun c s => (readSeconds s).map fun v => { c with readTimeoutSecs := v }⟩,
   ⟨"retry", fun c s => (Json.readNat "u32" (Nat.pow 2 32 - 1) s).map fun v => { c with retry := v }⟩]

/-- Reads settings from JSON text, or tells what is wrong with it. -/
def ofText (text : String) : Except String ClientConfig :=
  Json.readShaped (Json.readStructure "struct ClientConfig" Json.maxDepth fields default) text

end ClientConfig

end Harvest
