import FieldQuery.Constraint.Validate

/-!
# Dumping constraints

A constraint is dumped to a dict of its fields, as values or in the plain form that JSON text can
carry. An absent value is dumped as null, which validation reads back as absent.
-/

namespace FieldQuery

namespace Value

mutual

/-- The value as a dump keeps it: fractions become texts, and things with fields become dicts. -/
def dumped : Value → Value
  | fraction q => str (fractionText q)
  | list xs => list (dumpedAll xs)
  | tuple xs => tuple (dumpedAll xs)
  | dict entries => dict (dumpedEntries entries)
  | entity _ id declared _ further =>
    dict ((str "id", dumped id) :: dumpedFields declared ++ dumpedFields further)
  | reference id => dict [(str "id", dumped id)]
  | record _ _ parts => dict (dumpedFields parts)
  | v => v
termination_by structural v => v

def dumpedAll : List Value → List Value
  | [] => []
  | x :: xs => dumped x :: dumpedAll xs
termination_by structural xs => xs

def dumpedEntries : List (Value × Value) → List (Value × Value)
  | [] => []
  | (k, v) :: entries => (k, dumped v) :: dumpedEntries entries
termination_by structural entries => entries

def dumpedFields : List (String × Value) → List (Value × Value)
  | [] => []
  | (name, v) :: fields => (str name, dumped v) :: dumpedFields fields
termination_by structural fields => fields

end

/-- An offset in JSON, in whole minutes; `Z` stands for less than a second. -/
def jsonOffset (offset : Int) : List Char :=
  let seconds := offset / secondMicros
  let minutes := seconds.natAbs / 60
  if seconds = 0 then ['Z']
  else
    (if seconds < 0 then '-' else '+') :: Text.padded 2 (minutes / 60) ++ ':' ::
      Text.padded 2 (minutes % 60)

/-- A time or a date-time in JSON. -/
def jsonClock (civil : List Char) (offset : Option Int) : String :=
  String.ofList (civil ++ (offset.map jsonOffset).getD [])

mutual

/-- The text that a key becomes in JSON; the texts of a tuple's members are joined by commas. -/
def jsonKey : Value → Except Failure String
  | str s | member (.text _ _ s) => .ok s
  | null => .ok "None"
  | bool b => .ok (if b then "true" else "false")
  | bytes bs =>
    match Text.ofUtf8? bs with
    | some s => .ok s
    | none => .error .unwritable
  | member (.plain _ _ code) => .ok (String.ofList (Text.signed code))
  | member (.flags _ parts) => .ok (String.ofList (Text.signed (Member.mask parts)))
  | time t offset => .ok (jsonClock t.isoChars offset)
  | moment m => .ok (jsonClock (m.civil.chars 'T') m.offset?)
  | tuple xs => (jsonKeys xs).map (",".intercalate ·)
  | list _ | dict _ | entity _ _ _ _ _ | bundle _ _ _ _ | shared _ | absent => .error .unwritable
  | v => .ok v.display
termination_by structural v => v

def jsonKeys : List Value → Except Failure (List String)
  | [] => .ok []
  | x :: xs =>
    match jsonKey x with
    | .error e => .error e
    | .ok name => (jsonKeys xs).map (name :: ·)
termination_by structural xs => xs

end

mutual

/-- The plain form of a value that JSON text can carry. -/
def plain : Value → Except Failure Value
  | null => .ok null
  | bool b => .ok (bool b)
  | int n => .ok (int n)
  | float x => .ok (if x.isNaN || x.isInfinite then null else float x)
  | decimal d => .ok (str d.text)
  | fraction q => .ok (str (fractionText q))
  | str s => .ok (str s)
  | bytes bs =>
    match Text.ofUtf8? bs with
    | some s => .ok (str s)
    | none => .error .unwritable
  | uuid u => .ok (str u.text)
  | date d => .ok (str (String.ofList d.isoChars))
  | time t offset => .ok (str (jsonClock t.isoChars offset))
  | moment m => .ok (str (jsonClock (m.civil.chars 'T') m.offset?))
  | member (.plain _ _ code) => .ok (int code)
  | member (.text _ _ s) => .ok (str s)
  | member (.number _ _ n) => .ok (int n)
  | member (.flags _ parts) => .ok (int (Member.mask parts))
  | list xs => (plainAll xs).map list
  | tuple xs => (plainAll xs).map list
  | dict entries => (plainEntries entries).map dictOf
  | entity _ id declared _ further =>
    match plain id with
    | .error e => .error e
    | .ok i =>
      match plainFields declared with
      | .error e => .error e
      | .ok own => (plainFields further).map fun es => dictOf ((str "id", i) :: own ++ es)
  | reference id => (plain id).map fun i => dict [(str "id", i)]
  | record _ _ parts => (plainFields parts).map dictOf
  | absent => .error .unwritable
  | bundle _ _ _ _ | shared _ => .error .unwritable
termination_by structural v => v

def plainAll : List Value → Except Failure (List Value)
  | [] => .ok []
  | x :: xs =>
    match plain x with
    | .error e => .error e
    | .ok y =>
      match plainAll xs with
      | .error e => .error e
      | .ok ys => .ok (y :: ys)
termination_by structural xs => xs

def plainEntries : List (Value × Value) → Except Failure (List (Value × Value))
  | [] => .ok []
  | (k, v) :: entries =>
    match jsonKey k with
    | .error e => .error e
    | .ok name =>
      match plain v with
      | .error e => .error e
      | .ok y =>
        match plainEntries entries with
        | .error e => .error e
        | .ok ys => .ok ((str name, y) :: ys)
termination_by structural entries => entries

def plainFields : List (String × Value) → Except Failure (List (Value × Value))
  | [] => .ok []
  | (name, v) :: fields =>
    match plain v with
    | .error e => .error e
    | .ok y =>
      match plainFields fields with
      | .error e => .error e
      | .ok ys => .ok ((str name, y) :: ys)
termination_by structural fields => fields

end

end Value

namespace Constraint

/-- The fields of a dump, given the form of the value and of the bound. -/
def dumpWith (c : Constraint) (value : Value) (bound : Bound → Value) : Value :=
  .object ([("field", .str c.field), ("value", value), ("as_filter_mode", .bool c.asFilter),
    ("kind", .str c.variant.tag)] ++
    match c.comparison with
    | .equal ignoreAbsent => [("ignore_absent", .bool ignoreAbsent)]
    | .range b matchIfAbsent => [("bound", bound b), ("match_if_absent", .bool matchIfAbsent)])

/-- The dump that keeps values; a bound stays a member. -/
def dump (c : Constraint) : Value :=
  c.dumpWith (if c.value.isAbsent then .null else c.value.dumped) fun b => .member b.member

/-- The dump in plain form; a bound becomes its word. -/
def dumpPlain (c : Constraint) : Except Failure Value :=
  (if c.value.isAbsent then .ok .null else c.value.plain).map fun v =>
    c.dumpWith v fun b => .str b.text

/-- The constraint that a plain dump is read back as. -/
def restore (s : Settings) (dump : Value) : Except Failure Constraint := ofJsonValue s none dump

/-- The constraint that a dump of values is read back as. -/
def revive (s : Settings) (dump : Value) : Except Failure Constraint := ofTaggedValue s dump

end Constraint

end FieldQuery
