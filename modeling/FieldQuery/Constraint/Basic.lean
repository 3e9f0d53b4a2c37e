import FieldQuery.Artifact
import FieldQuery.Normalize

/-!
# Constraints

A constraint compares one field with one value that has been normalized. It renders to at most one
artifact that scores and at most one that only filters: a value that is there gives exactly one of
the two, and an absent value never scores. Refinements return a changed constraint; artifacts
rendered before stay what they were.
-/

namespace FieldQuery

/-- The two kinds of constraint. -/
inductive Variant where
  | equal
  | range
deriving DecidableEq

namespace Variant

/-- The word for the kind in data. -/
def tag : Variant → String
  | equal => "equal"
  | range => "range"

/-- The name of the kind as messages give it. -/
def name : Variant → String
  | equal => "EqualityConstraint"
  | range => "RangeConstraint"

end Variant

/-- How the field is compared, with the flags that only this kind of comparison has. -/
inductive Comparison where
  | equal (ignoreAbsent : Bool)
  | range (bound : Bound) (matchIfAbsent : Bool)
deriving DecidableEq

structure Constraint where
  field : String
  value : Value
  /-- Whether the constraint only filters. -/
  asFilter : Bool
  comparison : Comparison

/-- The ways to refine a constraint. -/
inductive Refinement where
  | asFilter
  | ignoreAbsentValues
  | including
  | orEmpty
deriving DecidableEq

namespace Refinement

def text : Refinement → String
  | asFilter => "as_filter"
  | ignoreAbsentValues => "ignore_absent_values"
  | including => "including"
  | orEmpty => "or_empty"

def all : List Refinement := [asFilter, ignoreAbsentValues, including, orEmpty]

def named? (s : String) : Option Refinement := all.find? fun r => r.text == s

end Refinement

namespace Constraint

def variant (c : Constraint) : Variant :=
  match c.comparison with
  | .equal _ => .equal
  | .range _ _ => .range

def hasValue (c : Constraint) : Bool := !c.value.isAbsent

/-- A refined constraint, if its kind has the refinement. -/
def refine (c : Constraint) : Refinement → Except Failure Constraint
  | .asFilter => .ok { c with asFilter := true }
  | .ignoreAbsentValues =>
    match c.comparison with
    | .equal _ => .ok { c with comparison := .equal true }
    | .range _ _ => .error .lacking
  | .including =>
    match c.comparison with
    | .range bound matchIfAbsent => .ok { c with comparison := .range bound.widened matchIfAbsent }
    | .equal _ => .error .lacking
  | .orEmpty =>
    match c.comparison with
    | .range bound _ => .ok { c with asFilter := true, comparison := .range bound true }
    | .equal _ => .error .lacking

/-- The artifact that scores. -/
def query? (c : Constraint) : Option Artifact :=
  if !c.hasValue || c.asFilter then none
  else
    match c.comparison with
    | .equal _ => some (.term c.field c.value)
    | .range _ true => none
    | .range bound false => some (.range c.field bound c.value)

/-- The artifact that only filters. -/
def filter? (c : Constraint) : Option Artifact :=
  match c.comparison with
  | .equal ignoreAbsent =>
    if !c.hasValue then if ignoreAbsent then none else some (.missing c.field)
    else if c.asFilter then some (.term c.field c.value) else none
  | .range bound matchIfAbsent =>
    if !c.asFilter || !c.hasValue then none
    else if matchIfAbsent then
      some (.anyOf [.range c.field bound c.value, .missing c.field])
    else some (.range c.field bound c.value)

/-- A description with the given text in place of the value. -/
def describeWith (c : Constraint) (shown : String) : String :=
  match c.comparison with
  | .equal _ => c.field ++ " = '" ++ shown ++ "'"
  | .range bound _ => c.field ++ " " ++ bound.label ++ " '" ++ shown ++ "'"

/-- The full description. -/
def describe (c : Constraint) : String := c.describeWith c.value.display

/-- The description that keeps the value back. -/
def redacted (s : Settings) (c : Constraint) : String := c.describeWith s.redactedValue

/-- The fields of a constraint in order. -/
def parts (c : Constraint) : List (String × Value) :=
  [("field", .str c.field), ("value", c.value), ("as_filter_mode", .bool c.asFilter),
    ("kind", .str c.variant.tag)] ++
    match c.comparison with
    | .equal ignoreAbsent => [("ignore_absent", .bool ignoreAbsent)]
    | .range bound matchIfAbsent =>
      [("bound", .member bound.member), ("match_if_absent", .bool matchIfAbsent)]

/-- The constraint as a value of its own. -/
def asValue (c : Constraint) : Value := .record c.variant.name c.describe c.parts

/-- Equality: the same kind, equal fields. -/
def same (a b : Constraint) : Bool :=
  a.field == b.field && a.value.same b.value && a.asFilter == b.asFilter &&
    a.comparison == b.comparison

end Constraint

end FieldQuery
