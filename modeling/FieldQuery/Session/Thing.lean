import FieldQuery.Comparisons
import FieldQuery.Constraint.Call
import FieldQuery.Constraint.Check
import FieldQuery.Entity
import FieldQuery.Reference

/-!
# Things of a session

What a session keeps under numbers. Entities and references change when their attributes are set,
and the lists of a composite can be replaced. A value that holds one of these things holds its
number, so that it always shows the thing as it now is. A reference remembers what its loader was
asked for.
-/

namespace FieldQuery.Session

/-! ## References -/

/-- A loader that looks identities up in a table and answers with what a name then stands for, or
something that cannot be asked. -/
inductive Loader where
  | table (entries : List (Value × Option String))
  | broken

/-- How a reference stands. -/
structure ReferenceState where
  id : Value
  isFilled : Bool
  isLoaded : Bool
  /-- The identities that the loader was asked for, if that is recorded. -/
  calls : Option (List Value)

/-- A reference with the identities that its loader was asked for, if that is recorded. -/
structure TrackedReference where
  reference : Reference Value (Loader × List Value)
  calls : List Value
  isTracked : Bool

namespace TrackedReference

def state (r : TrackedReference) : ReferenceState where
  id := r.reference.id
  isFilled := r.reference.isFilled
  isLoaded := r.reference.isLoaded
  calls := if r.isTracked then some r.calls else none

/-- A value, unless it is nothing. -/
def present? : Value → Option Value
  | .null => none
  | v => some v

/-- The name that a table gives to an identity; of several entries the last one counts. -/
def nameIn? (entries : List (Value × Option String)) (id : Value) : Option String :=
  (entries.reverse.find? fun e => e.1.same id).bind (·.2)

/-- How a loader answers, when names stand for the given values. -/
def ask (named : String → Option Value) :
    Loader × List Value → Value → Option Value × (Loader × List Value)
  | (.table entries, calls), id =>
    ((nameIn? entries id).bind fun name => (named name).bind present?,
      (.table entries, calls ++ [id]))
  | (.broken, calls), _ => (none, (.broken, calls))

/-- Why asking a reference now fails, if it does: its loader cannot be asked, its identity cannot be
looked up, or the name that is found stands for nothing. -/
def refusal? (named : String → Option Value) (r : TrackedReference) : Option Failure :=
  match r.reference.held, r.reference.loader with
  | none, some (loader, _) =>
    if !r.reference.isFilled then none
    else
      match loader with
      | .broken => some .unfit
      | .table entries =>
        match r.reference.id.hashKey with
        | .error e => some e
        | .ok _ =>
          match nameIn? entries r.reference.id with
          | none => none
          | some name => if (named name).isNone then some .unbound else none
  | _, _ => none

/-- What the reference holds when it is asked, and the reference afterwards. -/
def get (named : String → Option Value) (r : TrackedReference) :
    Except Failure (Option Value × TrackedReference) :=
  match r.refusal? named with
  | some e => .error e
  | none =>
    let (found, reference) := r.reference.get (ask named)
    let calls := match reference.loader with
      | some (_, calls) => calls
      | none => r.calls
    .ok (found, { r with reference := reference, calls := calls })

/-- Sets an attribute. What it holds, its identity and its loader can be set. -/
def assign (r : TrackedReference) (name : String) (v : Value) : Except Failure TrackedReference :=
  match name with
  | "id" => .ok { r with reference := { r.reference with id := v } }
  | "loader" =>
    let loader := (present? v).map fun _ => (.broken, r.calls)
    .ok { r with reference := { r.reference with loader := loader } }
  | "_value" => .ok { r with reference := { r.reference with held := present? v } }
  | "is_filled" | "is_loaded" => .error .lacking
  | name =>
    if Attribute.isHidden name then (Attribute.setHidden name v).map fun _ => r
    else if Attribute.computed.contains name then .error .lacking
    else .error .refused

end TrackedReference

/-! ## Composites -/

/-- A composite whose lists may have been replaced, by what may be no list of that kind, and the
other attributes that were set on it. -/
structure Assembly where
  constraints : Except Failure (List Constraint)
  queries : Except Failure (List Artifact)
  filters : Except Failure (List Artifact)
  attributes : List (String × Value)

namespace Assembly

def ofComposite (c : Composite) : Assembly := ⟨.ok c.constraints, .ok c.queries, .ok c.filters, []⟩

/-- The composite, if its lists are what they should be and its operations are not masked. -/
def composite (k : Assembly) : Except Failure Composite :=
  match k.queries, k.filters, k.constraints with
  | .ok queries, .ok filters, .ok constraints =>
    if k.attributes.any fun a => a.1 == "to_dict" || a.1 == "describe" then .error .unfit
    else .ok ⟨constraints, queries, filters⟩
  | .error e, _, _ | _, .error e, _ | _, _, .error e => .error e

/-- Whether one of some names was set as an attribute. -/
def masks (k : Assembly) (names : List String) : Bool :=
  k.attributes.any fun a => names.contains a.1

end Assembly

/-! ## Things -/

inductive Thing where
  | constraint (c : Constraint)
  | artifact (a : Artifact)
  | composite (k : Assembly)
  | entity (e : Entity)
  | reference (r : TrackedReference)
  | nothing

namespace Thing

/-- The identity of a thing that has one. -/
def id? : Thing → Option Value
  | entity e => some e.id
  | reference r => some r.reference.id
  | composite k => k.attributes.lookup "id"
  | constraint _ | artifact _ | nothing => none

/-- Whether a thing has data, or an operation that needs an argument, under a name. -/
def hasUncallable (name : String) : Thing → Bool
  | constraint c =>
    (Constraint.data c.variant).contains name || Attribute.isUncallable name
  | artifact a => a.fieldNames.contains name || Attribute.isUncallable name
  | composite k =>
    (Attribute.dataOfObjects ++ Attribute.operationsOfObjects ++
      ["constraints", "queries", "filters", "__and__"]).contains name ||
      k.masks [name]
  | entity e => e.hasUncallable name
  | reference _ =>
    ["id", "loader", "_value", "is_filled", "is_loaded", "of"].contains name ||
      Attribute.isUncallable name
  | nothing => false

/-- Why calling an attribute of a thing fails, if what it answers is of no use. -/
def callRefusal (t : Thing) (name : String) : Failure :=
  if t.hasUncallable name then .unfit else .lacking

end Thing

/-- The constraints at the front of a list of things, and whether there is nothing else. -/
def leadingConstraints : List Thing → List Constraint × Bool
  | [] => ([], true)
  | .constraint c :: things => ((leadingConstraints things).map (c :: ·) id)
  | _ :: _ => ([], false)

end FieldQuery.Session
