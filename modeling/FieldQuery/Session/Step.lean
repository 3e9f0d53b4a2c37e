import FieldQuery.Session.Basic

/-!
# Steps of a session

Constraints, artifacts, composites, entities and references are made, refined, rendered, combined
and compared, settings and log levels change on the way, and what is logged is collected.

A step that fails leaves the named things as they were; what it had logged before stays logged.
Answers show things as they are when the step has been made.
-/

namespace FieldQuery.Session

/-- What a step answers. -/
inductive Answer where
  | constraint (c : Constraint)
  | artifact (a : Artifact)
  /-- A composite, and the names of attributes that were set on it. -/
  | composite (c : Composite) (masked : List String)
  | rendered (a : Option Artifact)
  | value (v : Value)
  | reference (r : ReferenceState)
  | got (v : Value) (names : List String) (r : ReferenceState)
  | equal (b : Bool)
  | entries (es : List Logging.Entry)
  | done

inductive Step where
  | make (name : String) (factory : Factory) (field value : Value) (calls : List String)
  | call (name on method : String)
  | state (on : String)
  | set (setting : String) (v : Value)
  | assign (on name : String) (v : Value)
  | normalize (v : Value)
  | combine (name : String) (members : List String)
  | and (name left : String) (right : Value)
  | composite (on : String)
  | render (on : String) (mode : Constraint.Mode) (name : String)
  | artifact (on : String)
  | equal (left right : String)
  | debug (on : Bool)
  | level (logger : String) (number : Int)
  | logs
  | entity (name : String) (e : Entity)
  | reference (name : String) (id : Value) (loads : Option (List (Value × Option String)))
  | referenceOf (name : String) (entity : Option String)
  | referenceTo (name on : String)
  | get (on : String)
  | referenceState (on : String)

/-! ## Constraints and artifacts -/

/-- The answer that shows a constraint, which renders it for both uses. -/
def present (c : Constraint) : Run Answer := do
  let s ← get
  report (c.renderEntries s.settings)
  return .constraint (← lift (c.expand s.read))

/-- Shows a constraint and makes a name stand for it. -/
def keep (name : String) (c : Constraint) : Run Answer := do
  let answer ← present c
  bindName name (.constraint c)
  pure answer

/-- The use that the operation of a name renders a constraint for. -/
def renderedBy? : String → Option Constraint.Mode
  | "render_as_query" => some .query
  | "render_as_filter" => some .filter
  | _ => none

/-- The constraint that an attribute of a constraint answers with. Rendering is reported, although
an artifact is no answer; a deep copy shares no thing with the constraint. -/
def callConstraint (c : Constraint) (method : String) : Run Constraint := do
  let s ← get
  if let some mode := renderedBy? method then report (c.renderReport s.settings mode).entries
  let answer ← lift (c.call method)
  if method = "__deepcopy__" then lift (answer.expand s.read) else pure answer

/-- The constraint that a factory makes of a field and a value of the session, after some calls. -/
def build (factory : Factory) (field value : Value) (calls : List String) : Run Constraint := do
  let s ← get
  let c ← lift (factory.make s.settings field (s.reveal value))
  calls.foldlM callConstraint c

/-- Calls an attribute of a thing, which has to answer with a constraint. -/
def call (name on method : String) : Run Answer := do
  match ← find on with
  | (_, .constraint c) => keep name (← callConstraint c method)
  | (number, .reference r) =>
    if method = "get" then
      let (_, r) ← lift (r.get (← get).named)
      replace number (.reference r)
    throw ((Thing.reference r).callRefusal method)
  | (_, thing) => throw (thing.callRefusal method)

/-- Renders a constraint for one use and keeps the artifact. -/
def render (on : String) (mode : Constraint.Mode) (name : String) : Run Answer := do
  match (← find on).2 with
  | .constraint c =>
    let s ← get
    report (c.renderReport s.settings mode).entries
    match c.artifact? mode with
    | some a =>
      let shown ← lift (a.expand s.read)
      bindName name (.artifact a)
      pure (.rendered (some shown))
    | none =>
      bindName name .nothing
      pure (.rendered none)
  | _ => throw .lacking

/-! ## Composites -/

/-- The answer that shows a composite. -/
def presentComposite (k : Assembly) : Run Answer := do
  let c ← lift k.composite
  return .composite (← lift (c.expand (← get).read)) (k.attributes.map (·.1))

/-- Reports the rendering of a new composite and makes a name stand for it. -/
def commit (name : String) (composite : Composite) : Run Answer := do
  report (Composite.combineEntries (← get).settings composite.constraints)
  let answer ← presentComposite (.ofComposite composite)
  bindName name (.composite (.ofComposite composite))
  pure answer

/-- Fails to combine constraints with something that is none; those before it have been rendered. -/
def failToCombine (cs : List Constraint) : Run Answer := do
  report (Composite.combineEntries (← get).settings cs)
  throw .lacking

/-- Combines the constraints of some names. -/
def combine (name : String) (members : List String) : Run Answer := do
  let things ← members.mapM fun m => do return (← find m).2
  match leadingConstraints things with
  | (cs, true) => commit name (.combine cs)
  | (cs, false) => failToCombine cs

/-- Joins a composite with a constraint or with another composite. -/
def and (name left : String) (right : Value) : Run Answer := do
  match (← find left).2 with
  | .composite k =>
    let cs ← lift k.constraints
    match right with
    | .shared number =>
      match (← get).things[number]? with
      | some (.composite k') => commit name (.combine (cs ++ (← lift k'.constraints)))
      | some (.constraint d) => commit name (.combine (cs ++ [d]))
      | _ => failToCombine cs
    | _ => failToCombine cs
  | _ => throw .unfit

/-- The members of a value that is set as a list of a composite; `pick` takes the right things. -/
def membersOf {α : Type} (s : Session) (pick : Thing → Option α) (v : Value) :
    Except Failure (List α) :=
  match v with
  | .shared number =>
    match s.things[number]? with
    | some (.composite _) => .error .unfit
    | _ => .error .lacking
  | v =>
    match v.elements? with
    | none => .error .unfit
    | some vs => vs.mapM fun
      | .shared number =>
        match (s.things[number]?).bind pick with
        | some a => .ok a
        | none => .error .lacking
      | _ => .error .lacking

def constraintOf? : Thing → Option Constraint
  | .constraint c => some c
  | _ => none

def artifactOf? : Thing → Option Artifact
  | .artifact a => some a
  | _ => none

/-- A composite with one of its attributes set. -/
def assignComposite (s : Session) (k : Assembly) (name : String) (v : Value) :
    Except Failure Assembly :=
  match name with
  | "constraints" => .ok { k with constraints := membersOf s constraintOf? v }
  | "queries" => .ok { k with queries := membersOf s artifactOf? v }
  | "filters" => .ok { k with filters := membersOf s artifactOf? v }
  | "__class__" | "__dict__" | "__weakref__" => (Attribute.setHidden name v).map fun _ => k
  | name => .ok { k with attributes := Entity.putField k.attributes name v }

/-! ## Entities and references -/

/-- The answer that shows a reference. -/
def presentReference (r : TrackedReference) : Run Answer := do
  return .reference (← lift (r.state.expand (← get).read))

/-- Makes a new reference under a name. -/
def newReference (name : String) (r : TrackedReference) : Run Answer := do
  let answer ← presentReference r
  bindName name (.reference r)
  pure answer

/-- Makes a reference that holds a thing with an identity. -/
def newReferenceTo (name : String) (number : Nat) (thing : Thing) : Run Answer := do
  match thing, thing.id? with
  | .nothing, _ => newReference name ⟨.of .null none, [], false⟩
  | _, some id =>
    newReference name ⟨.of (← lift (Entity.identity id)) (some (.shared number)), [], false⟩
  | _, none => throw .lacking

/-- Asks a reference for what it refers to. -/
def ask (on : String) : Run Answer := do
  match ← find on with
  | (number, .reference r) =>
    let (found, r) ← lift (r.get (← get).named)
    replace number (.reference r)
    let s ← get
    let state ← lift (r.state.expand s.read)
    let names := match found with
      | some (.shared held) => s.namesOf held
      | _ => []
    return .got (← resolve (found.getD .null)) names state
  | (_, thing) => throw (thing.callRefusal "get")

/-- Sets an attribute of a thing. The fields of constraints and artifacts cannot be set. -/
def assign (on name : String) (v : Value) : Run Answer := do
  let (number, thing) ← find on
  match thing with
  | .constraint _ | .artifact _ =>
    if Attribute.isHidden name then lift (Attribute.setHidden name v)
    else throw (.fault [name] .frozen)
  | .composite k => replace number (.composite (← lift (assignComposite (← get) k name v)))
  | .entity e => replace number (.entity (← lift (e.assign name v)))
  | .reference r => replace number (.reference (← lift (r.assign name v)))
  | .nothing => throw .lacking
  pure .done

/-- Changes a setting. The names of other attributes are refused. -/
def changeSetting (setting : String) (v : Value) : Run Answer := do
  match Settings.Name.named? setting with
  | some name =>
    let v ← resolve v
    modify fun s => { s with settings := s.settings.put name v }
    pure .done
  | none =>
    if Attribute.isHidden setting then do
      lift (Attribute.setHidden setting v)
      pure .done
    else if Attribute.computed.contains setting then throw .lacking
    else throw .refused

/-- Sets the level of a logger. -/
def setLevel (logger : String) (level : Int) : Run Answer := do
  modify fun s => { s with logging := s.logging.setLevel logger level }
  pure .done

/-! ## Steps -/

/-- One step of a session. -/
def step : Step → Run Answer
  | .make name factory field value calls => do keep name (← build factory field value calls)
  | .call name on method => call name on method
  | .state on => do
    match (← find on).2 with
    | .constraint c => present c
    | _ => throw .lacking
  | .set setting v => changeSetting setting v
  | .assign on name v => assign on name v
  | .normalize v => do
    let s ← get
    return .value (← resolve (← lift ((s.reveal v).normalize s.settings)))
  | .combine name members => combine name members
  | .and name left right => and name left right
  | .composite on => do
    match (← find on).2 with
    | .composite k => presentComposite k
    | _ => throw .lacking
  | .render on mode name => render on mode name
  | .artifact on => do
    match (← find on).2 with
    | .artifact a => return .artifact (← lift (a.expand (← get).read))
    | _ => throw .lacking
  | .equal left right => do
    let a ← find left
    let b ← find right
    return .equal (← lift ((← get).same a b))
  | .debug on => do
    let level := if on then LogLevel.debug.number else 0
    setLevel "constraintkit" level
  | .level logger number => setLevel logger number
  | .logs => do
    let s ← get
    set { s with logged := [] }
    pure (.entries s.logged)
  | .entity name e => do
    let v ← resolve e.toValue
    bindName name (.entity e)
    pure (.value v)
  | .reference name id none => newReference name ⟨⟨id, none, none⟩, [], true⟩
  | .reference name id (some entries) => do
    let _ ← lift (entries.mapM fun entry => entry.1.hashKey)
    newReference name ⟨⟨id, none, some (.table entries, [])⟩, [], true⟩
  | .referenceOf name none => newReference name ⟨.of .null none, [], false⟩
  | .referenceOf name (some on) => do
    let (number, thing) ← find on
    newReferenceTo name number thing
  | .referenceTo name on => do
    match ← find on with
    | (number, .entity e) =>
      if e.masks "ref" then throw .unfit else newReferenceTo name number (.entity e)
    | (_, thing) => throw (thing.callRefusal "ref")
  | .get on => ask on
  | .referenceState on => do
    match (← find on).2 with
    | .reference r => presentReference r
    | _ => throw .lacking

/-- The answers of a list of steps, and the session after them. -/
def run (s : Session) : List Step → List (Except Failure Answer) × Session
  | [] => ([], s)
  | t :: ts =>
    let (answer, s) := (step t).run.run s
    let (answers, s) := run s ts
    (answer :: answers, s)

end FieldQuery.Session
