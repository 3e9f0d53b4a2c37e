import FieldQuery.Attribute
import FieldQuery.Checked

/-!
# Entities

A stored document: its kind, its identity, and its fields. A kind may declare text fields with
defaults; they stand before the others. The identity is a text or nothing when the entity is made.

Every kind has attributes of its own, such as its operations. An attribute of that name that is set
on an entity masks the one of the kind. It shows among the fields, but neither in the text of the
entity nor in a comparison.
-/

namespace FieldQuery

structure Entity where
  kind : String
  id : Value
  declared : List (String × Value)
  masking : List (String × Value)
  further : List (String × Value)

namespace Entity

def toValue (e : Entity) : Value := .entity e.kind e.id e.declared e.masking e.further

/-- Checks an identity: nothing, or something that is taken for a text. -/
def checkIdentity : Value → Checked Value
  | .null => .ok .null
  | v => (Checked.text v).map .str

/-- The identity of a reference or an entity, or the issue that it has. -/
def identity (v : Value) : Except Failure Value :=
  match checkIdentity v with
  | .ok id => .ok id
  | .error fault => .error (.fault ["id"] fault)

/-- The given value of a declared text field, or its default. -/
def checkDeclared (given : List (String × Value)) (field : String × String) : Checked Value :=
  match given.lookup field.1 with
  | some v => (Checked.text v).map .str
  | none => .ok (.str field.2)

/-- Sets the value of a name: a name keeps its first place and takes its last value. -/
def putField (fields : List (String × Value)) (name : String) (v : Value) :
    List (String × Value) :=
  if fields.any (·.1 == name) then fields.map fun f => if f.1 == name then (name, v) else f
  else fields ++ [(name, v)]

/-- Makes an entity whose kind declares the text fields `declared` with their defaults. The identity
cannot be given a second time among the other fields. -/
def make (kind : String) (declared : List (String × String)) (id : Value)
    (given : List (String × Value)) : Except Failure Entity :=
  let given := given.foldl (fun fields g => putField fields g.1 g.2) []
  let identity := checkIdentity id
  let checks := declared.map fun field => (field.1, checkDeclared given field)
  let issues := identity.issues "id" ++ checks.flatMap fun c => c.2.issues c.1
  if given.any (·.1 == "id") then .error .unfit
  else
    match identity, issues with
    | .ok id, [] =>
      let fields := checks.filterMap fun c => c.2.toOption.map fun v => (c.1, v)
      .ok ⟨kind, id, fields, [], given.filter fun g => !declared.any (·.1 == g.1)⟩
    | _, issues => .error (.invalid issues)

/-- Sets an attribute: the identity, a declared field, an attribute of the kind, which is masked
from then on, or a further field, which may be new. -/
def assign (e : Entity) (name : String) (v : Value) : Except Failure Entity :=
  if Attribute.isHidden name then (Attribute.setHidden name v).map fun _ => e
  else if Attribute.computed.contains name then .error .lacking
  else if name = "id" then .ok { e with id := v }
  else if e.declared.any (·.1 == name) then .ok { e with declared := putField e.declared name v }
  else if Attribute.ofEntities.contains name then
    .ok { e with masking := putField e.masking name v }
  else .ok { e with further := putField e.further name v }

/-- Whether an attribute masks the one of the kind. -/
def masks (e : Entity) (name : String) : Bool := e.masking.any (·.1 == name)

/-- Whether an entity has data, or an operation that needs an argument, under a name. A further
field does not mask an operation of the kind. -/
def hasUncallable (e : Entity) (name : String) : Bool :=
  name == "id" || e.declared.any (·.1 == name) || e.masks name || Attribute.isUncallable name ||
    (e.further.any (·.1 == name) && !Attribute.ofEntities.contains name)

end Entity

end FieldQuery
