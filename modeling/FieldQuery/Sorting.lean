/-!
# Sorting

Sorting a list by insertion. Members of which neither comes before the other keep their order.
-/

namespace FieldQuery

variable {α : Type}

/-- Puts a member in front of the first one that it may stand before. -/
def insertBy (le : α → α → Bool) (x : α) : List α → List α
  | [] => [x]
  | y :: ys => if le x y then x :: y :: ys else y :: insertBy le x ys

/-- The members in order. -/
def sortBy (le : α → α → Bool) : List α → List α
  | [] => []
  | x :: xs => insertBy le x (sortBy le xs)

end FieldQuery
