import FieldQuery.Attribute
import FieldQuery.Constraint.Basic

/-!
# Calling attributes of a constraint by name

Besides its refinements a constraint has the attributes of every kind and some of its own. Called by
name without arguments, a copying one answers with the constraint itself; data and operations that
need an argument cannot be called; the operation that makes a constraint anew misses its fields; and
what any other attribute answers is no constraint.
-/

namespace FieldQuery.Constraint

/-- The attributes of a kind of constraint that are data. -/
def data : Variant → List String
  | .equal => ["field", "value", "as_filter_mode", "has_value", "kind", "ignore_absent"]
  | .range => ["field", "value", "as_filter_mode", "has_value", "kind", "bound", "match_if_absent"]

/-- The issues of a constraint of which nothing is given. -/
def nothingGiven : Variant → List Issue
  | .equal => [⟨["field"], .missing⟩]
  | .range => [⟨["field"], .missing⟩, ⟨["bound"], .missing⟩]

/-- The constraint that an attribute answers with when it is called. -/
def call (c : Constraint) (name : String) : Except Failure Constraint :=
  match Refinement.named? name with
  | some r => c.refine r
  | none =>
    if Attribute.copies.contains name then .ok c
    else if name = "__class__" ∨ name = "__init__" then .error (.invalid (nothingGiven c.variant))
    else if (data c.variant).contains name || Attribute.isUncallable name then .error .unfit
    else .error .lacking

end FieldQuery.Constraint
