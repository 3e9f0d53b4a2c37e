import FieldQuery.Session.Expansion
import FieldQuery.Sorting

/-!
# Sessions

The state of a run over named things: the settings, the state of logging with what was logged, the
things, and which of them the names stand for. A computation that fails keeps what it had logged.
-/

namespace FieldQuery

/-- The state of a session. -/
structure Session where
  settings : Settings := {}
  logging : Logging :=
    { Logging.fresh with configured := true, handlers := 1, rootLevel := LogLevel.info.number }
  /-- What was logged and not yet asked for. -/
  logged : List Logging.Entry := []
  /-- The things, each at the place of its number. -/
  things : List Session.Thing := []
  names : List (String × Nat) := []
  /-- The number of stamps that have been given out. -/
  stamps : Nat := 0

namespace Session

instance : Inhabited Session := ⟨{}⟩

/-! ## Reading things -/

/-- The expanded value of a thing, through no more than `depth` things inside each other. -/
def valueWithin (s : Session) : (depth : Nat) → Nat → Except Failure Value
  | 0, _ => .error .endless
  | depth + 1, number =>
    match s.things[number]? with
    | none => .ok .null
    | some thing => thing.value s.settings (s.valueWithin depth) number

/-- The expanded value of a thing. A chain of things that is longer than their number comes back to
one of them, and has no end. -/
def read (s : Session) (number : Nat) : Except Failure Value :=
  s.valueWithin (s.things.length + 1) number

/-- The thing itself as a value: its number, or nothing. -/
def shared (s : Session) (number : Nat) : Value :=
  match s.things[number]? with
  | none | some .nothing => .null
  | some _ => .shared number

/-- The value that a name stands for. -/
def named (s : Session) (name : String) : Option Value := (s.names.lookup name).map s.shared

/-- What a value is to normalization: an entity or a reference is looked at, and what it holds stays
as it is. -/
def reveal (s : Session) (v : Value) : Value :=
  match v with
  | .shared number =>
    match s.things[number]? with
    | some (.entity e) => e.toValue
    | some (.reference r) => .reference r.reference.id
    | _ => v
  | v => v

/-- The names, in order, that stand for a thing. -/
def namesOf (s : Session) (number : Nat) : List String :=
  sortBy (fun a b => decide (a ≤ b)) ((s.names.filter fun n => n.2 == number).map (·.1))

/-- The outcome of a comparison, which fails if it comes to a clash. -/
def outcome (clash equal : Bool) : Except Failure Bool :=
  if clash then .error .signaling else .ok equal

/-- Equality of two values that may hold things. -/
def sameValue (s : Session) (v w : Value) : Except Failure Bool :=
  match v.expand s.read, w.expand s.read with
  | .ok v, .ok w => outcome (v.clashes w) (v.same w)
  | .error e, _ | _, .error e => .error e

/-- Equality of two things with different numbers. -/
def sameThing (s : Session) : Thing → Thing → Except Failure Bool
  | .reference r, .reference q => s.sameValue r.reference.id q.reference.id
  | .constraint c, .constraint d =>
    match c.expand s.read, d.expand s.read with
    | .ok c, .ok d => outcome (c.asValue.clashes d.asValue) (c.same d)
    | .error e, _ | _, .error e => .error e
  | .artifact a, .artifact b =>
    match a.expand s.read, b.expand s.read with
    | .ok a, .ok b => outcome (a.asValue.clashes b.asValue) (a.same b)
    | .error e, _ | _, .error e => .error e
  | .entity e, .entity f => s.sameValue e.toValue f.toValue
  | .nothing, .nothing => .ok true
  | _, _ => .ok false

/-- Equality of two things. A thing equals itself, except for a reference whose identity does not.
-/
def same (s : Session) (a b : Nat × Thing) : Except Failure Bool :=
  if a.1 = b.1 then
    match a.2 with
    | .reference r =>
      .ok (match r.reference.id.quantity? with
        | some (.nan _) => false
        | _ => true)
    | _ => .ok true
  else s.sameThing a.2 b.2

/-! ## Computations -/

/-- A computation that may fail and that changes the session. -/
abbrev Run (α : Type) := ExceptT Failure (StateM Session) α

/-- A result that does not hang on the session. -/
def lift {α : Type} : Except Failure α → Run α
  | .ok a => pure a
  | .error e => throw e

/-- The thing that a name stands for, with its number. -/
def find (name : String) : Run (Nat × Thing) := do
  let s ← get
  match s.names.lookup name with
  | some number => pure (number, (s.things[number]?).getD .nothing)
  | none => throw .unbound

/-- Keeps a new thing. -/
def place (thing : Thing) : Run Nat := do
  let s ← get
  set { s with things := s.things ++ [thing] }
  pure s.things.length

/-- Makes a name stand for a new thing. -/
def bindName (name : String) (thing : Thing) : Run Unit := do
  let number ← place thing
  modify fun s => { s with names := (name, number) :: s.names.filter fun n => n.1 != name }

/-- Puts another thing in the place of one. -/
def replace (number : Nat) (thing : Thing) : Run Unit :=
  modify fun s => { s with things := s.things.set number thing }

/-- A stamp for something that is to be told from everything made before. -/
def newStamp : Run Nat := do
  let s ← get
  set { s with stamps := s.stamps + 1 }
  pure (s.stamps + 1)

/-- Logs those entries whose logger passes them on. -/
def report (entries : List Logging.Entry) : Run Unit :=
  modify fun s =>
    { s with logged := s.logged ++ entries.filter fun e => s.logging.isEnabled e.logger e.level }

/-- A value as it now is. -/
def resolve (v : Value) : Run Value := do lift (v.expand (← get).read)

/-- The value that a name stands for. -/
def valueOf (name : String) : Run Value := do
  match (← get).named name with
  | some v => pure v
  | none => throw .unbound

end Session

end FieldQuery
