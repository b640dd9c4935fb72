import Harvest.Error
import Harvest.Extract.Selection
import Harvest.Schema.Basic
import Harvest.Value

/-!
# Registered types

A `Registry` maps the names of types to the functions that read them. The first lookup seals it, whether
or not it finds anything; from then on no type can be registered, so that a name never changes its meaning
between two evaluations.
-/

namespace Harvest

/-- A function that reads selected elements as a value. -/
abbrev Resolver := Schema → Selection → Value

/-- Names of types with the functions that read them. -/
structure Registry where
  types : Fields Resolver
  /-- Whether there has been a lookup. -/
  isSealed : Bool
  deriving Inhabited

namespace Registry

/-- No type is registered. -/
def empty : Registry := ⟨[], false⟩

/-- Registers a type; one of the same name is replaced. -/
def register (r : Registry) (name : String) (resolver : Resolver) :
    Except RegistryError Registry :=
  if r.isSealed then .error (.sealed name)
  else .ok { r with types := Fields.insert name resolver r.types }

/-- The function of a name. -/
def find? (r : Registry) (name : String) : Option Resolver :=
  Fields.find? name r.types

/-- The registry after a lookup. -/
def toSealed (r : Registry) : Registry :=
  { r with isSealed := true }

/-- Looks a name up, which seals the registry. -/
def lookup (r : Registry) (name : String) : Option Resolver × Registry :=
  (r.find? name, r.toSealed)

/-- The names of the registered types. -/
def names (r : Registry) : List String :=
  Fields.keys r.types

end Registry

end Harvest
