import Harvest.Extract.Selection
import Harvest.Json.Lookup
import Harvest.Json.Reader
import Harvest.Text.Clean

/-!
# Payloads

A `Payload` is the body of a page in one of three formats. `Payload.get?` answers with the value at a
path: raw bytes answer every path with themselves, JSON takes paths of keys and indices, and a web page
takes selectors. The empty path leads to the whole.
-/

namespace Harvest

/-- A format of payloads. -/
inductive Format where
  | raw
  | json
  | html
  deriving DecidableEq, Repr

/-- The body of a page. -/
inductive Payload where
  | raw (bytes : List UInt8)
  | json (root : Json)
  | html (document : Markup.Document)

/-- A value within a payload. -/
inductive Item where
  | json (value : Json)
  | bytes (value : List UInt8)
  | text (value : String)

/-- The JSON value that an item is. -/
def Item.json? : Item → Option Json
  | .json v => some v
  | _ => none

/-- An item as JSON. -/
def Item.toJson : Item → Json
  | .json v => v
  | .bytes bs => .string (Text.Utf8.toStringLossy bs)
  | .text s => .string s

namespace Payload

/-- Reads a body. Only JSON can be malformed. -/
def parse (format : Format) (body : List UInt8) : Except String Payload :=
  match format with
  | .raw => .ok (.raw body)
  | .json => (Json.readBytes body).map .json
  | .html => .ok (.html (Markup.Document.parse (Text.Utf8.toStringLossy body)))

/-- The value at a path. A JSON null counts as missing. -/
def get? (p : Payload) (path : String) : Option Item :=
  match p with
  | .raw bytes => some (.bytes bytes)
  | .json root => ((root.lookup? path).filter fun v => !v.isNull).map .json
  | .html d =>
    let sel := Selection.ofDocument d path
    if sel.isEmpty then none else some (.text (Text.clean sel.first.text))

end Payload

end Harvest
