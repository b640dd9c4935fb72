/-!
# Ascending field lists

A field list maps keys to values. `Fields.insert` keeps the keys ascending and distinct, so that two
lists with the same fields are equal, and the last value set for a key wins.
-/

namespace Harvest

/-- Keys with values, ascending by key. -/
abbrev Fields (α : Type) := List (String × α)

namespace Fields

variable {α : Type}

/-- Sets a field. -/
def insert (key : String) (value : α) : Fields α → Fields α
  | [] => [(key, value)]
  | (k, v) :: rest =>
    if key < k then (key, value) :: (k, v) :: rest
    else if key = k then (key, value) :: rest
    else (k, v) :: insert key value rest

/-- Sets fields one after the other. -/
def extend (fields : Fields α) (more : List (String × α)) : Fields α :=
  more.foldl (fun acc f => insert f.1 f.2 acc) fields

/-- The field list that holds the given fields. -/
def ofList (fields : List (String × α)) : Fields α :=
  extend [] fields

/-- The value of a key. -/
def find? (key : String) : Fields α → Option α
  | [] => none
  | (k, v) :: rest => if k = key then some v else find? key rest

/-- The fields without one key. -/
def erase (key : String) (fields : Fields α) : Fields α :=
  fields.filter fun f => f.1 != key

/-- The keys. -/
def keys (fields : Fields α) : List String :=
  fields.map Prod.fst

end Fields

end Harvest
