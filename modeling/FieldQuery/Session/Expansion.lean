import FieldQuery.Session.Thing

/-!
# Putting shared things into values

A value with shared things in it becomes a value without them: each number is replaced by the value
that the thing now has. What is compared, shown or compiled has been expanded before. The functions
here leave open where the values of the things come from; a session reads them from its things.
-/

namespace FieldQuery

namespace Value

mutual

/-- The value with the values of its shared things, as `read` gives them. -/
def expand (read : Nat → Except Failure Value) : Value → Except Failure Value
  | shared number => read number
  | list xs => (expandAll read xs).map list
  | tuple xs => (expandAll read xs).map tuple
  | dict entries => (expandEntries read entries).map dict
  | entity kind id declared masking further =>
    match expand read id, expandFields read declared, expandFields read masking,
      expandFields read further with
    | .ok id, .ok declared, .ok masking, .ok further =>
      .ok (entity kind id declared masking further)
    | .error e, _, _, _ | _, .error e, _, _ | _, _, .error e, _ | _, _, _, .error e => .error e
  | reference id => (expand read id).map reference
  | v => .ok v
termination_by structural v => v

def expandAll (read : Nat → Except Failure Value) : List Value → Except Failure (List Value)
  | [] => .ok []
  | x :: xs =>
    match expand read x with
    | .error e => .error e
    | .ok y => (expandAll read xs).map (y :: ·)
termination_by structural xs => xs

def expandEntries (read : Nat → Except Failure Value) :
    List (Value × Value) → Except Failure (List (Value × Value))
  | [] => .ok []
  | (k, v) :: entries =>
    match expand read k, expand read v with
    | .ok k, .ok v => (expandEntries read entries).map ((k, v) :: ·)
    | .error e, _ | _, .error e => .error e
termination_by structural entries => entries

def expandFields (read : Nat → Except Failure Value) :
    List (String × Value) → Except Failure (List (String × Value))
  | [] => .ok []
  | (name, v) :: fields =>
    match expand read v with
    | .error e => .error e
    | .ok v => (expandFields read fields).map ((name, v) :: ·)
termination_by structural fields => fields

end

end Value

namespace Artifact

mutual

/-- The artifact with expanded values. -/
def expand (read : Nat → Except Failure Value) : Artifact → Except Failure Artifact
  | term field value => (value.expand read).map (term field)
  | range field bound value => (value.expand read).map (range field bound)
  | missing field => .ok (missing field)
  | anyOf branches => (expandAll read branches).map anyOf
termination_by structural a => a

def expandAll (read : Nat → Except Failure Value) : List Artifact → Except Failure (List Artifact)
  | [] => .ok []
  | a :: as =>
    match expand read a with
    | .error e => .error e
    | .ok b => (expandAll read as).map (b :: ·)
termination_by structural as => as

end

end Artifact

/-- The constraint with an expanded value. -/
def Constraint.expand (read : Nat → Except Failure Value) (c : Constraint) :
    Except Failure Constraint :=
  (c.value.expand read).map fun v => { c with value := v }

/-- The composite with expanded values. -/
def Composite.expand (read : Nat → Except Failure Value) (c : Composite) :
    Except Failure Composite :=
  match Artifact.expandAll read c.queries, Artifact.expandAll read c.filters,
    c.constraints.mapM (Constraint.expand read) with
  | .ok queries, .ok filters, .ok constraints => .ok ⟨constraints, queries, filters⟩
  | .error e, _, _ | _, .error e, _ | _, _, .error e => .error e

namespace Session

/-- The state of a reference with expanded values. -/
def ReferenceState.expand (read : Nat → Except Failure Value) (r : ReferenceState) :
    Except Failure ReferenceState :=
  match r.id.expand read, (r.calls.getD []).mapM (Value.expand read) with
  | .ok id, .ok calls => .ok { r with id := id, calls := r.calls.map fun _ => calls }
  | .error e, _ | _, .error e => .error e

/-- The expanded value of the thing with the given number. -/
def Thing.value (s : Settings) (read : Nat → Except Failure Value) (number : Nat) :
    Thing → Except Failure Value
  | .constraint c => (c.expand read).map Constraint.asValue
  | .artifact a => (a.expand read).map Artifact.asValue
  | .composite k =>
    match k.composite with
    | .error e => .error e
    | .ok c => (c.expand read).map fun c => c.asValue s number
  | .entity e => e.toValue.expand read
  | .reference r => (Value.reference r.reference.id).expand read
  | .nothing => .ok .null

end Session

end FieldQuery
