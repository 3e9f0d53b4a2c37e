import FieldQuery.Constraint.Check
import FieldQuery.Item
import FieldQuery.Json.Reader

/-!
# Validation

Outside data is validated as a constraint of one kind, or as a constraint of the kind that it says
it is. Data is an item or a JSON text; a constraint that is already of the right kind is taken as it
is.
-/

namespace FieldQuery

namespace Constraint

/-- The kind that a tag names. -/
def variantOf? : Value → Option Variant
  | .str "equal" => some .equal
  | .str "range" => some .range
  | _ => none

/-- Validates the entries of a dict as a constraint of one kind. -/
def ofEntries (s : Settings) (variant : Variant) (entries : List (Value × Value)) :
    Except Failure Constraint :=
  check s variant fun name => Value.lookupText name entries

/-- Validates a value as a constraint of one kind. -/
def ofValue (s : Settings) (variant : Variant) : Value → Except Failure Constraint
  | .dict entries => ofEntries s variant entries
  | _ => .error (.fault [] .notRecord)

/-- Issues below a tag stand at places that start with it. -/
def underTag (variant : Variant) : Except Failure Constraint → Except Failure Constraint
  | .error (.invalid issues) =>
    .error (.invalid (issues.map fun i => { i with place := variant.tag :: i.place }))
  | r => r

/-- Validates by the tag that was found. -/
def ofTag (tag : Option Value) (next : Variant → Except Failure Constraint) :
    Except Failure Constraint :=
  match tag with
  | none => .error (.fault [] .tagNotFound)
  | some t =>
    match variantOf? t with
    | none => .error (.fault [] .tagInvalid)
    | some variant => underTag variant (next variant)

/-- The tag of a thing with fields, if it has one. -/
def fieldTag (fields : List (String × Value)) : Option Value := given fields "kind"

/-- Validates a value as a constraint of the kind that it says. Scalars and sequences have no field
that could say it. -/
def ofTaggedValue (s : Settings) : Value → Except Failure Constraint
  | .dict entries =>
    ofTag (Value.lookupText "kind" entries) fun variant => ofEntries s variant entries
  | .null | .bool _ | .int _ | .float _ | .str _ | .bytes _ | .list _ | .tuple _ | .date _ |
    .time _ _ | .moment _ => .error (.fault [] .notAttributes)
  | .entity _ _ declared _ further =>
    ofTag (fieldTag (declared ++ further)) fun _ => .error (.fault [] .notRecord)
  | .record _ _ parts => ofTag (fieldTag parts) fun _ => .error (.fault [] .notRecord)
  | _ => .error (.fault [] .tagNotFound)

/-- Validates parsed JSON. -/
def ofJsonValue (s : Settings) (target : Option Variant) (v : Value) : Except Failure Constraint :=
  match target, v with
  | some variant, v => ofValue s variant v
  | none, .dict entries => ofTaggedValue s (.dict entries)
  | none, _ => .error (.fault [] .notDict)

/-- Validates an item as a constraint of the target kind, or of the kind that it says. -/
def validate (s : Settings) (target : Option Variant) : Item → Except Failure Constraint
  | .value v =>
    match target with
    | some variant => ofValue s variant v
    | none => ofTaggedValue s v
  | .constraint c =>
    match target with
    | some variant => if c.variant = variant then .ok c else .error (.fault [] .notRecord)
    | none => .ok c
  | .artifact a =>
    match target with
    | some _ => .error (.fault [] .notRecord)
    | none => ofTaggedValue s a.asValue
  | .composite _ =>
    match target with
    | some _ => .error (.fault [] .notRecord)
    | none => .error (.fault [] .tagNotFound)

/-- Validates a JSON text. -/
def validateJson (s : Settings) (target : Option Variant) (text : String) :
    Except Failure Constraint :=
  match Json.parse text with
  | some v => ofJsonValue s target v
  | none => .error (.fault [] .badJson)

end Constraint

end FieldQuery
