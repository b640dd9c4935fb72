import Harvest.Json.Basic
import Harvest.Text.Split

/-!
# Paths into JSON values

A path is a list of segments with full stops between them. Each segment is a key of an object or an
index of an array. The empty path leads to the value itself.
-/

namespace Harvest.Json

/-- The value one segment further: a field of an object, or an item of an array. -/
def step? (j : Json) (segment : String) : Option Json :=
  match j with
  | .array items => (Number.parseIndex segment).bind fun i => items[i]?
  | .object fields => Fields.find? segment fields
  | _ => none

/-- Follows segments one after the other. -/
def follow? (j : Json) : List String → Option Json
  | [] => some j
  | s :: more => (j.step? s).bind fun v => v.follow? more

/-- The segments of a path. -/
def segments (path : String) : List String :=
  Text.splitOnChar '.' path

/-- The value that a path leads to. -/
def lookup? (j : Json) (path : String) : Option Json :=
  if path.isEmpty then some j else j.follow? (segments path)

end Harvest.Json
