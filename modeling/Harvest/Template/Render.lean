import Harvest.Error
import Harvest.Template.Helper
import Harvest.Template.Parser
import Harvest.Payload

/-!
# Rendering templates

`Template.render` writes a template for given data. A reference that leads nowhere writes nothing; a helper
that does not exist or lacks an argument makes the whole fail. `Template.nextUrl` renders the address of
the next page from the address of the last one and its payload.
-/

namespace Harvest.Template

/-! ## Arguments -/

/-- The value of an option. -/
def optionValue? (name : String) (options : List (String × Found)) : Option Json :=
  (options.find? fun o => o.1 == name).map fun o => o.2.value

/-- The faults of a helper without a body: arguments that it lacks. -/
def checkBodiless (helper : BlockHelper) (name : String) (arguments : List Found)
    (options : List (String × Found)) : Except String Unit :=
  let needsOne : Except String Unit := (argumentAt name arguments 0).map fun _ => ()
  match helper with
  | .when _ => needsOne
  | .each => needsOne
  | .inside => needsOne
  | .raw => .ok ()
  | .log =>
    let level := match optionValue? "level" options with
      | some (.string s) => s
      | _ => "info"
    if ["error", "warn", "info", "debug", "trace"].contains (Text.Casing.asciiLowerString level) then
      .ok ()
    else .error ("no level " ++ level)

/-- The value of a helper without a body. -/
def callValue (name : String) (arguments : List Found) (options : List (String × Found)) :
    Except String Json :=
  match valueHelper? name with
  | some f => f arguments
  | none =>
    match blockHelper? name with
    | some helper => (checkBodiless helper name arguments options).map fun _ => .string ""
    | none => .error ("no helper " ++ name)

mutual

/-- What an argument stands for. -/
def evaluate (data : Json) (scopes : List Scope) : Argument → Except String Found
  | .literal v => .ok (.ofValue v)
  | .reference r => resolve data scopes r
  | .call name arguments options =>
    match evaluateAll data scopes arguments with
    | .error e => .error e
    | .ok arguments =>
      match evaluateOptions data scopes options with
      | .error e => .error e
      | .ok options => (callValue name arguments options).map Found.ofValue

/-- What several arguments stand for. -/
def evaluateAll (data : Json) (scopes : List Scope) : List Argument → Except String (List Found)
  | [] => .ok []
  | a :: more =>
    match evaluate data scopes a with
    | .error e => .error e
    | .ok found => (evaluateAll data scopes more).map (found :: ·)

/-- What the values of options stand for. -/
def evaluateOptions (data : Json) (scopes : List Scope) :
    List (String × Argument) → Except String (List (String × Found))
  | [] => .ok []
  | (name, a) :: more =>
    match evaluate data scopes a with
    | .error e => .error e
    | .ok found => (evaluateOptions data scopes more).map ((name, found) :: ·)

end

/-- The arguments and the options of a call. -/
def evaluateBoth (data : Json) (scopes : List Scope) (arguments : List Argument)
    (options : List (String × Argument)) : Except String (List Found × List (String × Found)) :=
  match evaluateAll data scopes arguments with
  | .error e => .error e
  | .ok arguments => (evaluateOptions data scopes options).map fun options => (arguments, options)

/-! ## Elements -/

/-- The text of a reference, or of a call in parentheses, that stands alone. One that has the name of a
helper calls it. -/
def showValue (data : Json) (scopes : List Scope) (target : Argument) : Except String String :=
  let shown : Except String String :=
    (evaluate data scopes target).map fun found => (found.value?.map textOf).getD ""
  let name : Except String String := match target with
    | .reference r => .ok r.source
    | _ => shown
  match name with
  | .error e => .error e
  | .ok name => if isHelper name then (callValue name [] []).map textOf else shown

/-- The scope of a block that goes inside a value. -/
def insideScope (found : Found) (names : List String) : Scope :=
  let scope := found.scope
  match names with
  | [name] =>
    { scope with
      names := [(name, if found.place?.isSome then .base else .value found.value)] }
  | _ => scope

/-- The scope of one round of a loop: `key` is the index or the key of the item. -/
def roundScope (found : Found) (locals : List (String × Json)) (step : String) (key item : Json)
    (names : List String) : Scope :=
  let base : Base := match found.place? with
    | some p => .place (p ++ [step])
    | none => .value item
  let itself : Meaning := if found.place?.isSome then .base else .value item
  let meanings : List (String × Meaning) := match names with
    | [name] => [(name, itself)]
    | [name, keyName] => [(keyName, .value key), (name, itself)]
    | _ => []
  ⟨base, locals, meanings⟩

/-- The rounds of a loop over the items of a list. -/
def listRounds (found : Found) (names : List String) (count : Nat) :
    Nat → List Json → List Scope
  | _, [] => []
  | i, item :: more =>
    let index : Json := .int i
    roundScope found [("first", .bool (i == 0)), ("last", .bool (i + 1 == count)), ("index", index)]
      (Number.ofNat i) index item names :: listRounds found names count (i + 1) more

/-- The rounds of a loop over the fields of an object. -/
def fieldRounds (found : Found) (names : List String) (count : Nat) :
    Nat → List (String × Json) → List Scope
  | _, [] => []
  | i, (k, item) :: more =>
    roundScope found
      [("first", .bool (i == 0)), ("last", .bool (i + 1 == count)), ("key", .string k), ("index", .int i)]
      k (.string k) item names :: fieldRounds found names count (i + 1) more

/-- The rounds of a loop; nothing if the value is no collection, or an empty one. -/
def rounds? (found : Found) (names : List String) : Option (List Scope) :=
  match found.value with
  | .array [] => none
  | .object [] => none
  | .array items => some (listRounds found names items.length 0 items)
  | .object fields => some (fieldRounds found names fields.length 0 fields)
  | _ => none

/-- Whether the options of a call make zero count as true. -/
def includesZero (options : List (String × Found)) : Bool :=
  match optionValue? "includeZero" options with
  | some (.bool b) => b
  | _ => false

/-- The texts of several rounds, one after the other. -/
def eachRound (render : Scope → Except String String) : List Scope → Except String String
  | [] => .ok ""
  | s :: more =>
    match render s with
    | .error e => .error e
    | .ok text => (eachRound render more).map (text ++ ·)

/-- Writes a block. `body` writes its body with some scopes added, and `otherwise` its other branch. -/
def runBlock (name : String) (arguments : List Found) (options : List (String × Found))
    (names : List String) (body : List Scope → Except String String)
    (otherwise : Unit → Except String String) : Except String String :=
  match valueHelper? name with
  | some f => (f arguments).map textOf
  | none =>
    match blockHelper? name with
    | none => .error ("no helper " ++ name)
    | some helper =>
      match checkBodiless helper name arguments options with
      | .error e => .error e
      | .ok () =>
        let found := arguments.head?.getD .missing
        match helper with
        | .raw => body []
        | .log => .ok ""
        | .when expected =>
          if isTruthy (includesZero options) found.value == expected then body [] else otherwise ()
        | .inside =>
          if isTruthy false found.value then body [insideScope found names] else otherwise ()
        | .each =>
          match rounds? found names with
          | some scopes => eachRound (fun s => body [s]) scopes
          | none => otherwise ()

mutual

/-- Writes an element. -/
def renderElement (data : Json) : Element → List Scope → Except String String
  | .text s, _ => .ok s
  | .missing, _ => .error "no such template"
  | .group body, scopes => renderAll data body scopes
  | .value target, scopes => showValue data scopes target
  | .call name arguments options, scopes =>
    match evaluateBoth data scopes arguments options with
    | .error e => .error e
    | .ok (arguments, options) => (callValue name arguments options).map textOf
  | .block name arguments options names body otherwise, scopes =>
    match evaluateBoth data scopes arguments options with
    | .error e => .error e
    | .ok (arguments, options) =>
      runBlock name arguments options names (fun inner => renderAll data body (inner ++ scopes))
        (fun () => renderAll data otherwise scopes)

/-- Writes elements one after the other. -/
def renderAll (data : Json) : List Element → List Scope → Except String String
  | [], _ => .ok ""
  | e :: more, scopes =>
    match renderElement data e scopes with
    | .error fault => .error fault
    | .ok text => (renderAll data more scopes).map (text ++ ·)

end

/-- Writes a template. -/
def render (t : Template) (data : Json) : Except String String :=
  renderAll data t.elements [.outermost]

/-! ## Addresses of further pages -/

/-- What a template that computes an address sees: the address of the last page and its payload. -/
def pageData (last : Url) (payload : Payload) : Json :=
  .object [("data", ((payload.get? "").map Item.toJson).getD .null), ("url", .string last.toText)]

/-- Reads a template. -/
def compile (source : String) : Except ScrapeError Template :=
  match ofText? source with
  | some t => .ok t
  | none => .error (.template "malformed template")

/-- The address of the next page. An empty text means that there is none. -/
def nextUrl (t : Template) (last : Url) (payload : Payload) : Except ScrapeError String :=
  match t.render (pageData last payload) with
  | .error e => .error (.template e)
  | .ok text =>
    let next := Text.trim text
    if next.isEmpty then .error .noNextUrl else .ok next

end Harvest.Template
