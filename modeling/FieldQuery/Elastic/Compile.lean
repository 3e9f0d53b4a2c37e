import FieldQuery.Condition
import FieldQuery.Elastic.Query
import FieldQuery.Json.Writer

/-!
# From conditions to Elasticsearch queries

Each field gives its equality and existence clauses in order, and then one range clause that holds
all its bounds. A single clause stands alone; any other number is joined by `must`. The query of a
node is given as data, or as JSON text.
-/

namespace FieldQuery.Elastic

variable {texts : Texts}

/-- The supported operators, in the order of their texts. -/
def operators : List String := ["$eq", "$exists", "$gt", "$gte", "$lt", "$lte"]

/-- The operator of a text: besides equality and existence, all that are supported are bounds, whose
words they name behind a dollar sign. -/
def operatorOfText? (s : String) : Option Operator :=
  if !operators.contains s then none
  else if s = "$eq" then some .eq
  else if s = "$exists" then some .exist
  else (Bound.ofText? (String.ofList (s.toList.dropWhile (· == '$')))).map .bound

theorem operatorOfText?_eq (s : String) : operatorOfText? s = Operator.ofText? s := by
  by_cases h : s ∈ operators
  · have hall : ∀ s ∈ operators, operatorOfText? s = Operator.ofText? s := by decide
    exact hall s h
  · have hnone : Operator.ofText? s = none := Operator.ofText?_eq_none (by decide) h
    rw [hnone, operatorOfText?, if_pos (by simpa using h)]

/-- Any key is taken for a field. -/
def dialect : Dialect (Value texts) texts where
  field := .ok
  operator? key := key.text?.bind operatorOfText?
  supported := operators
  agrees key := by rw [Operator.ofKey?, funext operatorOfText?_eq]

/-- The clause of a test that is no bound. -/
def clauseOf (field : Value texts) (t : Test texts) : Option (Query texts) :=
  match t.operator with
  | .eq => some (.term field t.operand)
  | .exist => some (if t.operand.truthy then .exist field else .mustNot [.exist field])
  | .bound _ => none

/-- The bound of a test that is one. -/
def boundOf (t : Test texts) : Option (Bound × Value texts) :=
  match t.operator with
  | .bound b => some (b, t.operand)
  | _ => none

/-- The clauses of one field. -/
def fieldClauses (field : Value texts) (tests : List (Test texts)) : List (Query texts) :=
  tests.filterMap (clauseOf field) ++
    match tests.filterMap boundOf with
    | [] => []
    | bounds => [.range field bounds]

/-- One clause stands alone. -/
def joined : List (Query texts) → Query texts
  | [q] => q
  | qs => .must qs

mutual

/-- The query of a condition. -/
def ofCondition : Condition (Value texts) texts → Query texts
  | .always => .matchAll
  | .all branches => .must (ofConditions branches)
  | .any branches => .should 1 (ofConditions branches)
  | .fields entries => joined (entries.flatMap fun e => fieldClauses e.1 e.2)
termination_by structural c => c

def ofConditions : List (Condition (Value texts) texts) → List (Query texts)
  | [] => []
  | c :: cs => ofCondition c :: ofConditions cs
termination_by structural cs => cs

end

/-- The query of a node. -/
def compile (node : Value texts) : Except (Failure texts) (Query texts) :=
  (Condition.read dialect node).map ofCondition

/-- The query of a value as data, if the value is a node. -/
def where? (v : Value texts) : Except (Failure texts) (Value texts) :=
  match v.node with
  | .error e => .error e
  | .ok node => (compile node).map Query.toValue

/-- The query of a node as JSON text. -/
def expression (node : Value texts) : Except (Failure texts) String :=
  match compile node with
  | .error e => .error e
  | .ok q => Json.write q.toValue

end FieldQuery.Elastic
