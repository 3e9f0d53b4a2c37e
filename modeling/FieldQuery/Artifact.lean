import FieldQuery.Operator
import FieldQuery.Value.Equality
import FieldQuery.Value.Text

/-!
# Artifacts

What a constraint renders to: one predicate on one field, or a choice between predicates. Every
artifact has a node, the dict that backends compile; nodes join by `Node.merge`.
-/

namespace FieldQuery

inductive Artifact where
  | term (field : String) (value : Value)
  | range (field : String) (bound : Bound) (value : Value)
  | missing (field : String)
  | anyOf (branches : List Artifact)

namespace Node

/-- One test of one field. -/
def test (field : String) (op : Operator) (operand : Value) : Value :=
  .object [(field, .object [(op.text, operand)])]

/-- The conjunction of nodes: empty ones are dropped, one alone stands for itself, and none at all
is the empty node, which everything matches. -/
def merge (nodes : List Value) : Value :=
  match nodes.filter Value.truthy with
  | [] => .dict []
  | [node] => node
  | nodes => .object [(Operator.andKey, .list nodes)]

end Node

namespace Artifact

/-- The word for the kind of an artifact in data and in logs. -/
def kind : Artifact → String
  | term _ _ => "term"
  | range _ _ _ => "range"
  | missing _ => "missing"
  | anyOf _ => "any_of"

/-- The name of the kind of an artifact as a value. -/
def kindName : Artifact → String
  | term _ _ => "Term"
  | range _ _ _ => "Range"
  | missing _ => "Missing"
  | anyOf _ => "AnyOf"

mutual

/-- The dict that backends compile. -/
def node : Artifact → Value
  | term field value => Node.test field .eq value
  | range field bound value => Node.test field (.bound bound) value
  | missing field => Node.test field .exist (.bool false)
  | anyOf branches => .object [(Operator.orKey, .list (nodes branches))]
termination_by structural a => a

def nodes : List Artifact → List Value
  | [] => []
  | a :: as => node a :: nodes as
termination_by structural as => as

end

/-- The text of an artifact is that of its node. -/
def text (a : Artifact) : String := a.node.inspect

mutual

/-- The artifact as a value of its own, with its fields in order. -/
def asValue : Artifact → Value
  | term field value =>
    .record "Term" (term field value).text
      [("kind", .str "term"), ("field", .str field), ("value", value)]
  | range field bound value =>
    .record "Range" (range field bound value).text
      [("kind", .str "range"), ("field", .str field), ("bound", .member bound.member),
        ("value", value)]
  | missing field =>
    .record "Missing" (missing field).text [("kind", .str "missing"), ("field", .str field)]
  | anyOf branches =>
    .record "AnyOf" (anyOf branches).text
      [("kind", .str "any_of"), ("branches", .tuple (asValues branches))]
termination_by structural a => a

def asValues : List Artifact → List Value
  | [] => []
  | a :: as => asValue a :: asValues as
termination_by structural as => as

end

/-- The names of the fields of an artifact. -/
def fieldNames : Artifact → List String
  | term _ _ => ["kind", "field", "value"]
  | range _ _ _ => ["kind", "field", "bound", "value"]
  | missing _ => ["kind", "field"]
  | anyOf _ => ["kind", "branches"]

mutual

/-- Equality: the same kind, equal fields. -/
def same : Artifact → Artifact → Bool
  | term field value, term field' value' => field == field' && value.same value'
  | range field bound value, range field' bound' value' =>
    field == field' && bound == bound' && value.same value'
  | missing field, missing field' => field == field'
  | anyOf as, anyOf bs => sameAll as bs
  | _, _ => false
termination_by structural a => a

def sameAll : List Artifact → List Artifact → Bool
  | [], [] => true
  | a :: as, b :: bs => same a b && sameAll as bs
  | _, _ => false
termination_by structural as => as

end

end Artifact

end FieldQuery
