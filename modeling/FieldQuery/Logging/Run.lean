import FieldQuery.Logging.Basic

/-!
# Runs of logging

A run starts unconfigured and goes through setups, assignments of the level setting, changes of the
levels of loggers, requests for loggers and messages. Asking for a logger configures logging at the
level that the setting has then; sending a message asks for its logger first.
-/

namespace FieldQuery.Logging

/-- The state of a run: logging itself, and the value of the level setting. -/
structure Run where
  logging : Logging := fresh
  level : Value := .str "INFO"

inductive Event where
  | setup (level : Value)
  | assignLevel (level : Value)
  | setLevel (name level : Value)
  | get (name : Value)
  | emit (name : Value) (method message : String) (args : List Value)

/-- What an event answers. -/
inductive Reply where
  | root (level : Int) (handlers : Nat)
  | logger (name : String) (isDebug : Bool) (rootLevel : Int)
  | entries (es : List Entry)

namespace Run

/-- How the root stands. -/
def rootReply (r : Run) : Reply := .root r.logging.rootLevel r.logging.handlers

/-- The name of a logger whose level is set; what counts as false names the root. -/
def named (name : Value) : Except Failure String :=
  if !name.truthy then .ok "" else requested name

/-- One event. A message whose method or arguments fail has still configured logging. -/
def step (r : Run) : Event → Except Failure Reply × Run
  | .setup level =>
    match r.logging.setup level with
    | .error e => (.error e, r)
    | .ok l =>
      let r := { r with logging := l }
      (.ok r.rootReply, r)
  | .assignLevel level =>
    let r := { r with level := level }
    (.ok r.rootReply, r)
  | .setLevel name level =>
    match named name with
    | .error e => (.error e, r)
    | .ok name =>
      let l := r.logging.add name
      match LogLevel.numberOf level with
      | .error e => (.error e, { r with logging := l })
      | .ok level =>
        let r := { r with logging := l.setLevel name level }
        (.ok r.rootReply, r)
  | .get name =>
    match r.logging.getLogger r.level name with
    | (.error e, l) => (.error e, { r with logging := l })
    | (.ok name, l) =>
      let (isDebug, l) := l.ask name .debug
      (.ok (.logger name isDebug l.rootLevel),
        { r with logging := l })
  | .emit name method message args =>
    match r.logging.getLogger r.level name with
    | (.error e, l) => (.error e, { r with logging := l })
    | (.ok name, l) =>
      match method? method with
      | .error e => (.error e, { r with logging := l })
      | .ok level =>
        let (sent, l) := l.emit name level message args
        (sent.map .entries, { r with logging := l })

/-- The run after a list of events. -/
def after (r : Run) (events : List Event) : Run := events.foldl (fun r e => (r.step e).2) r

end Run

end FieldQuery.Logging
