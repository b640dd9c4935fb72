/-!
# Splitting a sequence

`splitWhere p xs` cuts `xs` at each element that satisfies `p`; the cut elements go, and there is
always one piece more than cuts. `cutAt p xs` cuts at the first such element only.
-/

namespace Harvest.Text

/-- The pieces between elements that satisfy `p`. -/
def splitWhere {α : Type} (p : α → Bool) : List α → List (List α)
  | [] => [[]]
  | x :: xs =>
    if p x then [] :: splitWhere p xs
    else match splitWhere p xs with
      | [] => [[x]]
      | piece :: more => (x :: piece) :: more

/-- The elements before the first that satisfies `p`, and those after it if there is one. -/
def cutAt {α : Type} (p : α → Bool) : List α → List α × Option (List α)
  | [] => ([], none)
  | x :: xs =>
    if p x then ([], some xs)
    else
      let (before, after) := cutAt p xs
      (x :: before, after)

/-- The pieces of a text between the separators `sep`. -/
def splitOnChar (sep : Char) (s : String) : List String :=
  (splitWhere (· == sep) s.toList).map String.ofList

/-- What follows `pre` in `xs`, if `xs` starts with it. -/
def stripStart? {α : Type} [BEq α] : List α → List α → Option (List α)
  | [], xs => some xs
  | _ :: _, [] => none
  | p :: pre, x :: xs => if p == x then stripStart? pre xs else none

/-- Whether `part` occurs in `xs` without a gap. -/
def containsPart {α : Type} [BEq α] (part : List α) : List α → Bool
  | [] => part.isEmpty
  | x :: xs => (stripStart? part (x :: xs)).isSome || containsPart part xs

end Harvest.Text
