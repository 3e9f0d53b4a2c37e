import FieldQuery.Value.Text

/-!
# Settings

The five settings with their defaults, and their names. They may be set to any value. What is no
text can be no field name and no name of a zone; it is refused where one of them is needed. Beside
them stands the source of the zones that a setting can name, which is no setting and never changes.
-/

namespace FieldQuery

/-- How the zone is chosen: not at all, by a name, or by something that names no zone. -/
inductive ZoneChoice where
  | unset
  | named (name : String)
  | unfit
deriving DecidableEq

structure Settings where
  /-- The level that logging is configured with; only a text names one. -/
  logLevel : Value := .str "INFO"
  /-- The identity field that the engine reserves, if it is a text. -/
  idField : Option String := some "_id"
  /-- The entity attribute that equality constraints map onto the identity field, if it is a text.
  -/
  entityIdField : Option String := some "id"
  /-- What stands for a value in a redacted description. -/
  redactedValue : String := "?"
  /-- The zone in which instants become civil date-times. -/
  timeZone : ZoneChoice := .unset
  /-- Where the zone is looked up. -/
  zones : Zone.Source := .listed

namespace Settings

instance : Inhabited Settings := ⟨{}⟩

/-- The names of the settings. -/
inductive Name where
  | logLevel | idField | entityIdField | redactedValue | timeZone
deriving DecidableEq

namespace Name

def all : List Name := [logLevel, idField, entityIdField, redactedValue, timeZone]

def text : Name → String
  | logLevel => "LOG_LEVEL"
  | idField => "ID_FIELD"
  | entityIdField => "ENTITY_ID_FIELD"
  | redactedValue => "REDACTED_VALUE"
  | timeZone => "TIME_ZONE"

def named? (s : String) : Option Name := all.find? fun n => n.text == s

end Name

/-- The value of a setting. -/
def get (s : Settings) : Name → Value
  | .logLevel => s.logLevel
  | .idField => (s.idField.map .str).getD .null
  | .entityIdField => (s.entityIdField.map .str).getD .null
  | .redactedValue => .str s.redactedValue
  | .timeZone =>
    match s.timeZone with
    | .named name => .str name
    | .unset | .unfit => .null

/-- The text that field names are compared with. Bytes can be compared with them, but equal none,
and neither does the empty text. -/
def comparable? (v : Value) : Option String :=
  match v with
  | .bytes _ => some ""
  | v => v.text?

/-- The choice of a zone by a value: what counts as false chooses none. -/
def zoneChoice (v : Value) : ZoneChoice :=
  match v.text? with
  | some name => .named name
  | none => if v.truthy then .unfit else .unset

/-- The settings with one of them changed. -/
def put (s : Settings) (name : Name) (v : Value) : Settings :=
  match name with
  | .logLevel => { s with logLevel := v }
  | .idField => { s with idField := v.text? }
  | .entityIdField => { s with entityIdField := comparable? v }
  | .redactedValue => { s with redactedValue := v.display }
  | .timeZone => { s with timeZone := zoneChoice v }

end Settings

end FieldQuery
