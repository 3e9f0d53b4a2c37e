import FieldQuery.Constraint.Basic
import FieldQuery.Logging.Basic

/-!
# Composites

The artifacts of a list of constraints: those that score and those that only filter, each in the
order of the constraints. Constraints that render to nothing are kept in the list and leave no
artifact. Rendering is reported to the log in words that never hold a value.
-/

namespace FieldQuery

namespace Constraint

/-- The two uses that a constraint is rendered for. -/
inductive Mode where
  | query
  | filter
deriving DecidableEq

def Mode.text : Mode → String
  | query => "query"
  | filter => "filter"

/-- The artifact for a use. -/
def artifact? (c : Constraint) : Mode → Option Artifact
  | .query => c.query?
  | .filter => c.filter?

/-- What rendering for one use says to the log. -/
def renderReport (s : Settings) (c : Constraint) (mode : Mode) : Logging.Report :=
  let logger := "constraintkit.constraints.base"
  match c.artifact? mode with
  | none => ⟨logger, "No %s for %s", [mode.text, c.redacted s]⟩
  | some a => ⟨logger, "Rendered %s %s for %s", [a.kind, mode.text, c.redacted s]⟩

/-- The entries of rendering for both uses. -/
def renderEntries (s : Settings) (c : Constraint) : List Logging.Entry :=
  (c.renderReport s .query).entries ++ (c.renderReport s .filter).entries

/-- What combining says to the log about a constraint that leaves no artifact. -/
def skipReport (s : Settings) (c : Constraint) : Logging.Report :=
  ⟨"constraintkit.querydsl.composite", "Skipping constraint without artifacts: %s", [c.redacted s]⟩

end Constraint

structure Composite where
  constraints : List Constraint
  queries : List Artifact
  filters : List Artifact

namespace Composite

/-- The composite of a list of constraints. -/
def combine (cs : List Constraint) : Composite :=
  ⟨cs, cs.filterMap Constraint.query?, cs.filterMap Constraint.filter?⟩

/-- The composite of the constraints of both sides. -/
def and (a b : Composite) : Composite := combine (a.constraints ++ b.constraints)

/-- The entries of combining. -/
def combineEntries (s : Settings) (cs : List Constraint) : List Logging.Entry :=
  cs.flatMap fun c =>
    c.renderEntries s ++
      if c.query?.isNone && c.filter?.isNone then (c.skipReport s).entries else []

/-- The artifacts in order, those that score first. -/
def artifacts (c : Composite) : List Artifact := c.queries ++ c.filters

def size (c : Composite) : Nat := c.queries.length + c.filters.length

/-- The conjunction of all artifacts. -/
def node (c : Composite) : Value := Node.merge (Artifact.nodes c.artifacts)

def text (c : Composite) : String := c.node.inspect

def describe (c : Composite) : String := " AND ".intercalate (c.constraints.map Constraint.describe)

def redacted (s : Settings) (c : Composite) : String :=
  " AND ".intercalate (c.constraints.map (Constraint.redacted s))

/-- The form that shows what a composite is, with its values kept back. -/
def inspect (s : Settings) (c : Composite) : String := "<Composite: " ++ c.redacted s ++ ">"

/-- The composite as a value of its own, with a stamp that tells it from others. -/
def asValue (s : Settings) (c : Composite) (stamp : Nat) : Value :=
  .bundle c.text (c.inspect s) c.size stamp

end Composite

end FieldQuery
