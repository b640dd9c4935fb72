import Harvest.Extract.Path
import Harvest.Extract.Registry
import Harvest.Number.Decimal
import Harvest.Text.Casing
import Harvest.Text.Label

/-!
# Evaluation of schemas

`evaluate` reads one property of a parent selection as a value. The selector of the property comes first;
an empty one stands for the parent itself. A property that cannot be found, or whose selector is none, has
the value `Value.null`, and its neighbours do not notice.

The registry is threaded through, since every lookup of a type seals it.
-/

namespace Harvest

/-- A result together with the registry as it is afterwards. -/
abbrev Registered (α : Type) := Registry → α × Registry

namespace Extract

/-! ## Reading one selection -/

/-- The elements that a property is read from. -/
def propertyNodes (selector : String) (parent : Selection) : Option Selection :=
  if selector.isEmpty then some parent
  else match Selector.parse? selector with
    | none => none
    | some s => if (parent.find s).isEmpty then none else some (parent.find s)

/-- Text that keeps its lines, or an attribute; no pattern is applied. -/
def longText (path : Path) (sel : Selection) : Option String :=
  match path.attribute? with
  | some name => (sel.attribute? name).map Text.clean
  | none => some (Text.trim (Text.stripInvalid sel.text))

/-- The text or the attribute of every element; elements without the attribute are left out. -/
def array (path : Path) (sel : Selection) : List String :=
  match path.attribute? with
  | some name => (sel.nodes.filterMap (Selection.attributeOf? sel.document name)).map Text.clean
  | none => sel.each.map fun item => Text.clean item.text

/-- The first element below an item that a selector describes. -/
def subNode? (selector : String) (item : Selection) : Option Selection :=
  match Selector.parse? selector with
  | none => none
  | some s => if (item.find s).isEmpty then none else some (item.find s).first

/-- The key of an item of a property array. -/
def itemKey? (path : Path) (item : Selection) : Option String :=
  let label :=
    if path.selector.isEmpty then path.resolveOwn item
    else (subNode? path.selector item).bind path.resolve
  (label.map Text.normalizeKey).filter fun key => !key.isEmpty

/-- Whether a value stands for no value. -/
def isNoValue (value : String) : Bool :=
  value.isEmpty || Text.Casing.equalIgnoringAsciiCase value "nil"

/-- The value of an item of a property array. -/
def itemValue? (path : Path) (item : Selection) : Option String :=
  let value :=
    if path.selector.isEmpty then path.resolve item
    else (subNode? path.selector item).bind path.resolve
  value.filter fun v => !isNoValue v

/-- The entry of an item of a property array. -/
def pairOf? (keyPath valPath : Path) (item : Selection) : Option (String × String) :=
  (itemKey? keyPath item).bind fun key => (itemValue? valPath item).map fun value => (key, value)

/-- The entries of the items; a later item overwrites the entry of an earlier one. -/
def propertyArray (keyPath valPath : Path) (sel : Selection) : Fields String :=
  Fields.ofList (sel.each.filterMap (pairOf? keyPath valPath))

/-! ## Records -/

/-- Puts the value of a property into a record: the fields of a record that merges with its parent, and
otherwise one field. -/
def mergeProperty (keepNull : Bool) (id : String) (merges : Bool) (value : Value)
    (record : Record) : Record :=
  match value with
  | .record fields => if merges then Fields.extend record fields else Fields.insert id value record
  | .null => if keepNull then Fields.insert id value record else record
  | _ => Fields.insert id value record

mutual

/-- Reads a property of a parent. -/
def evaluate (s : Schema) (parent : Selection) : Registered Value := fun r =>
  match s with
  | ⟨id, css, next, kind, merges, keyPath, valPath, limit, properties⟩ =>
    if parent.isEmpty then (.null, r)
    else match propertyNodes (css.head?.getD "") parent with
      | none => (.null, r)
      | some sel =>
        match kind with
        | .object =>
          let (fields, r) := mergeAll true properties sel [] r
          (.record fields, r)
        | .string => (.ofText? (Path.resolve css sel), r)
        | .image => (.ofText? (Path.resolve css sel), r)
        | .longText => (.ofText? (longText css sel), r)
        | .integer => (.ofInteger? ((Path.resolve css sel).bind Number.parseInteger), r)
        | .array => (.list (array css sel), r)
        | .propertyArray => (.map (propertyArray keyPath valPath sel), r)
        | kind =>
          match r.lookup kind.tag with
          | (some resolver, r) =>
            (resolver ⟨id, css, next, kind, merges, keyPath, valPath, limit, properties⟩ sel, r)
          | (none, r) => (.ofText? (Path.resolve css sel), r)

/-- Puts the values of properties into a record, one after the other. -/
def mergeAll (keepNull : Bool) (properties : List Schema) (sel : Selection) (record : Record) :
    Registered Record := fun r =>
  match properties with
  | [] => (record, r)
  | p :: more =>
    let (value, r) := evaluate p sel r
    mergeAll keepNull more sel (mergeProperty keepNull p.id p.mergeWithParent value record) r

end

/-- The record of properties; those without a value are null. -/
def record (properties : List Schema) (sel : Selection) : Registered Record :=
  mergeAll true properties sel []

/-- The record of properties; those without a value are left out. -/
def nestedRecord (properties : List Schema) (sel : Selection) : Registered Record :=
  mergeAll false properties sel []

/-- The results for several selections, one after the other. -/
def forEach {α : Type} (read : Selection → Registered α) : List Selection → Registered (List α)
  | [], r => ([], r)
  | sel :: more, r =>
    let (first, r) := read sel r
    let (others, r) := forEach read more r
    (first :: others, r)

/-- A record for every element that the selector of a schema describes. -/
def records (s : Schema) (d : Markup.Document) : Registered (List Record) :=
  forEach (record s.properties) (Selection.ofDocument d s.selector).each

end Extract

end Harvest
