import FieldQuery.Artifact.Check
import FieldQuery.Constraint.Basic
import FieldQuery.Text.Case

/-!
# Checking data into constraints

A constraint is made from named values, by a factory or from data that comes from outside. Every
field is checked, and all faults are reported together in the order of the fields; but an empty
field name and a value that cannot be normalized end the check at once.
-/

namespace FieldQuery

namespace Checked

/-- The word for the kind; it may be left out. -/
def tag (variant : Variant) : Option Value → Checked Unit
  | none => .ok ()
  | some (.str s) => if s = variant.tag then .ok () else .error .otherThanLiteral
  | some _ => .error .otherThanLiteral

end Checked

namespace Constraint

/-- Equality on the identity attribute of entities, in any case of letters, is equality on the
identity field of the engine. -/
def mapIdentity (s : Settings) (variant : Variant) (field : String) : Except Failure String :=
  match variant with
  | .range => .ok field
  | .equal =>
    match s.entityIdField with
    | none => .error .lacking
    | some name =>
      if Text.lower field = Text.lower name then
        match s.idField with
        | some idField => .ok idField
        | none => .error .idFieldNotText
      else .ok field

/-- Checks the field name. -/
def checkField (s : Settings) (variant : Variant) :
    Option Value → Except Failure (Checked String)
  | none => .ok (.error .missing)
  | some v =>
    match Checked.text v with
    | .error fault => .ok (.error fault)
    | .ok field =>
      if field = "" then .error (.emptyField variant.name)
      else (mapIdentity s variant field).map .ok

/-- The normalized value; one that is not given is absent. -/
def checkValue (s : Settings) : Option Value → Except Failure Value
  | none => .ok .absent
  | some v => v.normalize s

/-- Checks the fields that only one kind of constraint has. -/
def checkComparison (variant : Variant) (get : String → Option Value) :
    Except (List Issue) Comparison :=
  match variant with
  | .equal =>
    let ignoreAbsent := Checked.flag (get "ignore_absent")
    match ignoreAbsent with
    | .ok b => .ok (.equal b)
    | _ => .error (ignoreAbsent.issues "ignore_absent")
  | .range =>
    let bound := Checked.bound (get "bound")
    let matchIfAbsent := Checked.flag (get "match_if_absent")
    match bound, matchIfAbsent with
    | .ok b, .ok m => .ok (.range b m)
    | _, _ => .error (bound.issues "bound" ++ matchIfAbsent.issues "match_if_absent")

/-- The constraint that the named values describe. -/
def check (s : Settings) (variant : Variant) (get : String → Option Value) :
    Except Failure Constraint :=
  match checkField s variant (get "field") with
  | .error e => .error e
  | .ok field =>
    match checkValue s (get "value") with
    | .error e => .error e
    | .ok value =>
      let asFilter := Checked.flag (get "as_filter_mode")
      let tag := Checked.tag variant (get "kind")
      let comparison := checkComparison variant get
      match field, asFilter, tag, comparison with
      | .ok field, .ok asFilter, .ok (), .ok comparison =>
        .ok ⟨field, value, asFilter, comparison⟩
      | _, _, _, _ =>
        .error (.invalid (field.issues "field" ++ asFilter.issues "as_filter_mode" ++
          tag.issues "kind" ++
          match comparison with
          | .ok _ => []
          | .error issues => issues))

/-- Named values given as a list. -/
def given (entries : List (String × Value)) (name : String) : Option Value :=
  (entries.find? fun e => e.1 == name).map (·.2)

/-- The constraint that a field equals a value. -/
def equal (s : Settings) (field value : Value) : Except Failure Constraint :=
  check s .equal (given [("field", field), ("value", value)])

/-- The constraint that a field lies beyond a bound. -/
def range (s : Settings) (bound : Bound) (field value : Value) : Except Failure Constraint :=
  check s .range (given [("field", field), ("bound", .member bound.member), ("value", value)])

/-- The constraint that a field is less than a value. -/
def lessThan (s : Settings) (field value : Value) : Except Failure Constraint :=
  range s .lt field value

/-- The constraint that a field is greater than a value. -/
def greaterThan (s : Settings) (field value : Value) : Except Failure Constraint :=
  range s .gt field value

end Constraint

/-- The ways to make a constraint from a field and a value. -/
inductive Factory where
  | equal
  | lessThan
  | greaterThan
deriving DecidableEq

namespace Factory

def all : List Factory := [equal, lessThan, greaterThan]

def text : Factory → String
  | equal => "equal"
  | lessThan => "less_than"
  | greaterThan => "greater_than"

def named? (s : String) : Option Factory := all.find? fun f => f.text == s

def make (f : Factory) (s : Settings) (field value : Value) : Except Failure Constraint :=
  match f with
  | equal => Constraint.equal s field value
  | lessThan => Constraint.lessThan s field value
  | greaterThan => Constraint.greaterThan s field value

end Factory

end FieldQuery
