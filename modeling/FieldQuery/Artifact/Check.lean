import FieldQuery.Artifact
import FieldQuery.Checked

/-!
# Checking data into artifacts

An artifact that is made from outside data has its field and its bound checked; its value may be
anything, and is not normalized.
-/

namespace FieldQuery

namespace Checked

/-- A bound, given by what is taken for its word. -/
def bound (v : Option Value) : Checked Bound :=
  match v with
  | none => .error .missing
  | some v =>
    match text v with
    | .error _ => .error .notInFamily
    | .ok word =>
      match Bound.ofText? word with
      | some b => .ok b
      | none => .error .notInFamily

end Checked

namespace Artifact

/-- What the kinds of artifact on one field are made of besides the field. -/
inductive Shape where
  | term (value : Value)
  | range (bound value : Value)
  | missing

/-- The artifact on a field, or the issues of the field and of the bound. -/
def check (field : Value) (shape : Shape) : Except Failure Artifact :=
  let name := Checked.text field
  let bound (b : Value) := Checked.bound (some b)
  match shape, name with
  | .term value, .ok name => .ok (term name value)
  | .missing, .ok name => .ok (missing name)
  | .range b value, name =>
    match name, bound b with
    | .ok name, .ok b => .ok (range name b value)
    | name, b => .error (.invalid (name.issues "field" ++ b.issues "bound"))
  | _, name => .error (.invalid (name.issues "field"))

end Artifact

end FieldQuery
