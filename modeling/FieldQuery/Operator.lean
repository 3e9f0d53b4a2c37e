import FieldQuery.Bound

/-!
# Operators of a node

The tests that a node may apply to a field, and the two keys that join nodes. Each is written as a
text that starts with a dollar sign.
-/

namespace FieldQuery

/-- What a field is tested for: equality, a bound, or whether it has a value at all. -/
inductive Operator where
  | eq
  | bound (b : Bound)
  | exist
deriving DecidableEq

namespace Operator

/-- All operators, in the order of their texts. -/
def all : List Operator := [eq, exist, bound .gt, bound .gte, bound .lt, bound .lte]

def text : Operator → String
  | eq => "$eq"
  | bound b => "$" ++ b.text
  | exist => "$exists"

def ofText? (s : String) : Option Operator := all.find? fun o => o.text == s

/-- What is missing from a table that holds the texts of all operators is the text of none. -/
theorem ofText?_eq_none {table : List String} (complete : ∀ op ∈ all, op.text ∈ table) {s : String}
    (h : s ∉ table) : ofText? s = none := by
  refine List.find?_eq_none.mpr fun op hop heq => h ?_
  rw [← eq_of_beq heq]
  exact complete op hop

/-- The key of a conjunction of nodes. -/
def andKey : String := "$and"

/-- The key of a disjunction of nodes. -/
def orKey : String := "$or"

end Operator

end FieldQuery
