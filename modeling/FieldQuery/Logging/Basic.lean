import FieldQuery.Logging.Message

/-!
# Logging

Loggers stand in a tree by their dotted names below one root: a logger stands below the nearest
logger whose name is in front of a dot of its own, as far as that logger has been asked for. Logging
is configured once, by the first setup or by the first request for a logger. If the root has no
handler then, it gets one and the level that was named at that time; handlers that are there already
stay, and the level with them. Whatever is set up later changes nothing.
-/

namespace FieldQuery

/-- The named levels. -/
inductive LogLevel where
  | debug
  | info
  | warning
  | error
  | critical
deriving DecidableEq

namespace LogLevel

def all : List LogLevel := [debug, info, warning, error, critical]

def number : LogLevel → Int
  | debug => 10
  | info => 20
  | warning => 30
  | error => 40
  | critical => 50

def name : LogLevel → String
  | debug => "DEBUG"
  | info => "INFO"
  | warning => "WARNING"
  | error => "ERROR"
  | critical => "CRITICAL"

/-- Upper case as far as level names need it: besides the small letters of ASCII, only the small i
without a dot and some ligatures have capitals among the letters of level names, and no level name
has those of a ligature. -/
def upper (c : Char) : Char := if c = 'ı' then 'I' else c.toUpper

/-- The level of a name in any case; an unknown name is the middle level `info`. -/
def named (s : String) : LogLevel :=
  (all.find? fun l => l.name == String.ofList (s.toList.map upper)).getD info

/-- The numbers of the levels by all of their names. -/
def numbers : List (String × Int) :=
  all.map (fun l => (l.name, l.number)) ++ [("WARN", 30), ("FATAL", 50), ("NOTSET", 0)]

/-- The number of the level that a value stands for: its number or one of its names. -/
def numberOf (level : Value) : Except Failure Int :=
  match level with
  | .str s =>
    match numbers.lookup s with
    | some n => .ok n
    | none => .error .refused
  | level => Logging.exactNumber level

/-- The name of a level number. -/
def nameOf (n : Int) : String :=
  match all.find? fun l => l.number == n with
  | some l => l.name
  | none => if n = 0 then "NOTSET" else "Level " ++ String.ofList (Text.signed n)

end LogLevel

/-- A logger of the tree. -/
structure Logger where
  name : String
  /-- The logger above, unless that is the root. -/
  parent : Option String := none
  /-- The level; zero if none has been set. -/
  level : Int := 0
  /-- Whether it passes on messages of a level, as far as that has been asked since any level was
  set. -/
  known : List (LogLevel × Bool) := []

structure Logging where
  configured : Bool := false
  handlers : Nat := 0
  rootLevel : Int := LogLevel.warning.number
  loggers : List Logger := []

namespace Logging

/-- Both names of the root. -/
def isRoot (name : String) : Bool := name == "" || name == "root"

/-- The name of a logger that is asked for without a name. -/
def defaultName : String := "constraintkit.logger"

/-- The level that a value names: a text does, and bytes are an unknown name. -/
def namedLevel (level : Value) : Except Failure LogLevel :=
  match level.text?, level with
  | some s, _ => .ok (LogLevel.named s)
  | none, .bytes _ => .ok .info
  | none, _ => .error .lacking

/-- Configures logging at the named level, unless that has been done. A root with handlers is left
as it is. -/
def setup (l : Logging) (level : Value) : Except Failure Logging :=
  if l.configured then .ok l
  else
    (namedLevel level).map fun level =>
      if l.handlers = 0 then
        { l with configured := true, handlers := 1, rootLevel := level.number }
      else { l with configured := true }

/-! ## The tree -/

/-- The part of a name before its last dot. -/
def front? (cs : List Char) : Option (List Char) :=
  match (cs.reverse.dropWhile (· != '.')).tail.reverse with
  | [] => none
  | p => some p

/-- The names that stand above a name, the nearest first; of two dots in a row the first does not
count. -/
def above : (fuel : Nat) → List Char → List String
  | 0, _ => []
  | fuel + 1, cs =>
    match front? cs with
    | none => []
    | some p => String.ofList p :: above fuel p.dropLast

/-- The names that stand above a name. -/
def ancestors (name : String) : List String := above name.length name.toList

/-- The logger of a name. -/
def logger? (l : Logging) (name : String) : Option Logger := l.loggers.find? (·.name == name)

/-- A logger after one of the given name has come into the tree: that becomes its parent if it
stands above it and the name of its parent so far does not start with it. -/
def Logger.below (name : String) (g : Logger) : Logger :=
  if (ancestors g.name).contains name && !(g.parent.getD "root").startsWith name then
    { g with parent := some name }
  else g

/-- Brings a logger into the tree, unless it is there. -/
def add (l : Logging) (name : String) : Logging :=
  if isRoot name || (l.logger? name).isSome then l
  else
    let parent := (ancestors name).find? fun a => (l.logger? a).isSome
    { l with loggers := l.loggers.map (Logger.below name) ++ [⟨name, parent, 0, []⟩] }

/-- Changes the logger of a name. -/
def modify (l : Logging) (name : String) (f : Logger → Logger) : Logging :=
  { l with loggers := l.loggers.map fun g => if g.name == name then f g else g }

/-- A logger that has to find out anew what it passes on. -/
def Logger.forget (g : Logger) : Logger := { g with known := [] }

/-- Sets the level of a logger. Every logger has to find out anew what it passes on. -/
def setLevel (l : Logging) (name : String) (level : Int) : Logging :=
  let l := l.add name
  let l := { l with loggers := l.loggers.map Logger.forget }
  if isRoot name then { l with rootLevel := level }
  else l.modify name fun g => { g with level := level }

/-- The level of the first logger with one, on the way from a logger to the root. -/
def levelFrom (l : Logging) : (fuel : Nat) → Option String → Int
  | 0, _ | _, none => l.rootLevel
  | fuel + 1, some name =>
    match l.logger? name with
    | none => l.rootLevel
    | some g => if g.level ≠ 0 then g.level else l.levelFrom fuel g.parent

/-- The level that counts for a logger. Every step to a parent makes the name shorter. -/
def effectiveLevel (l : Logging) (name : String) : Int := l.levelFrom (name.length + 1) (some name)

/-- Whether a logger passes on messages of a level. -/
def isEnabled (l : Logging) (name : String) (level : LogLevel) : Bool :=
  match (l.logger? name).bind fun g => g.known.lookup level with
  | some b => b
  | none => l.effectiveLevel name ≤ level.number

/-- Asks whether a logger passes on messages of a level, which it then knows. -/
def ask (l : Logging) (name : String) (level : LogLevel) : Bool × Logging :=
  let b := l.isEnabled name level
  (b, l.modify name fun g => { g with known := (level, b) :: g.known })

/-- The loggers that are there from the start. -/
def loggersOfLibrary : List String :=
  ["constraintkit.constraints.base", "constraintkit.querydsl.composite"]

/-- Logging before anything was configured. -/
def fresh : Logging := loggersOfLibrary.foldl add {}

instance : Inhabited Logging := ⟨fresh⟩

/-! ## Requests and messages -/

/-- The name that a request for a logger means; what counts as false is no name. -/
def requested (name : Value) : Except Failure String :=
  if !name.truthy then .ok defaultName
  else
    match name.text? with
    | some s => .ok s
    | none => .error .unfit

/-- Asks for a logger, which configures logging if nothing has; a name that is none does so as well.
-/
def getLogger (l : Logging) (configuredLevel name : Value) : Except Failure String × Logging :=
  match l.setup configuredLevel with
  | .error e => (.error e, l)
  | .ok l =>
    match requested name with
    | .error e => (.error e, l)
    | .ok name => (.ok name, l.add name)

/-- A message as the handler receives it. -/
structure Entry where
  level : LogLevel
  logger : String
  message : String

/-- What the library itself says to a logger: a template, and the texts that are filled in. -/
structure Report where
  logger : String
  template : String
  texts : List String

/-- What the handler receives of a report: nothing if the texts do not fit the template. -/
def Report.entries (r : Report) : List Entry :=
  match format r.template (r.texts.map .str) with
  | .ok text => [⟨.debug, r.logger, text⟩]
  | .error _ => []

/-- The attributes of a logger that are data, and the operations that take no argument: neither can
be called with a message. -/
def uncallable : List String :=
  ["name", "is_debug", "_logger", "__dict__", "__doc__", "__module__", "__weakref__", "__repr__",
    "__str__", "__hash__", "__dir__", "__sizeof__", "__reduce__", "__reduce_ex__", "__getstate__",
    "__new__", "__init_subclass__"]

/-- The level that a method of a logger sends messages at. -/
def method? (name : String) : Except Failure LogLevel :=
  match name with
  | "debug" => .ok .debug
  | "info" => .ok .info
  | "warning" => .ok .warning
  | "error" => .ok .error
  | name => .error (if uncallable.contains name then .unfit else .lacking)

/-- Sends a message to a logger. -/
def emit (l : Logging) (logger : String) (level : LogLevel) (message : String)
    (args : List Value) : Except Failure (List Entry) × Logging :=
  match l.ask logger level with
  | (true, l) => ((format message args).map fun text => [⟨level, logger, text⟩], l)
  | (false, l) => (.ok [], l)

end Logging

end FieldQuery
