import FieldQuery.Backend
import FieldQuery.Calendar.Iso
import FieldQuery.Comparisons
import FieldQuery.Constraint.Dump
import FieldQuery.Environment
import FieldQuery.Logging.Run
import FieldQuery.Session.Step
import FieldQuery.Proofs.Composite.Operands
import FieldQuery.Proofs.Constraint.Chronology
import FieldQuery.Proofs.Constraint.RoundTrip
import FieldQuery.Proofs.Node.Precedence
import FieldQuery.Proofs.Node.Rejection
import FieldQuery.Proofs.Value.Instants
import FieldQuery.Proofs.Value.Native
import FieldQuery.Proofs.Value.Projection
import FieldQuery.Proofs.Session.Expansion
import FieldQuery.Proofs.Session.Twins
import FieldQuery.Proofs.Session.Adjustment
import FieldQuery.Proofs.Session.Joining
import FieldQuery.Proofs.Sql.Gaps
import FieldQuery.Proofs.Sql.Identifier
import FieldQuery.Proofs.Sql.Literal
import FieldQuery.Proofs.Sql.Numbers
import FieldQuery.Proofs.Logging.Templates
import FieldQuery.Proofs.Constraint.Building
import FieldQuery.Proofs.Constraint.Fields
import FieldQuery.Proofs.Artifact.Faithful
import FieldQuery.Proofs.Number.Exact
import FieldQuery.Proofs.Value.Canonical
import FieldQuery.Proofs.Item.Keys
import FieldQuery.Proofs.Json.Scalars
import FieldQuery.Proofs.Json.Strings
import FieldQuery.Proofs.Value.Arranged
import FieldQuery.Proofs.Elastic.Expression
import FieldQuery.Proofs.Logging.Configuration
import FieldQuery.Proofs.Reference.Loading
import FieldQuery.Proofs.Session.References
import FieldQuery.Proofs.Reference.Reassignment
import FieldQuery.Proofs.Node.Merging
