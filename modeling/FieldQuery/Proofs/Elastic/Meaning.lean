import FieldQuery.Proofs.Node.Meaning

/-!
# What Elasticsearch queries mean

What is modelled. Two readings of a query: `Query.holds` follows the constructors, and `evaluate`
works on the data that is sent, dict by dict, and knows nothing of the constructors; it gives
nothing for data that is no query. A filter restricts just as `must` does, and of the optional
clauses as many have to match as the query says.

What is proved.
* `evaluate_toValue`, `evaluate_search`: the two readings agree on every query and every search.
* `clauses_and_bounds`, `joined_holds`: the bounds of a field that end in one range clause, and a
  single clause that stands alone, are no loss.
* `holds_ofCondition`: compiling a condition keeps its meaning, by induction on the condition.
* `evaluate_where`: a formed node is compiled to data that is a query and means what the node means,
  empty lists of branches and empty dicts of operators included.

Scores and the analysis of texts are not modelled; an atom is whatever the assignment says it is.
-/

namespace FieldQuery.Elastic

/-! ## Queries -/

namespace Query

mutual

/-- Whether a query matches. -/
def holds (σ : Assignment String Value) : Query → Bool
  | matchAll => true
  | must clauses => (holdsEach σ clauses).all id
  | mustNot clauses => !(holdsEach σ clauses).any id
  | should minimum clauses => decide (minimum ≤ (holdsEach σ clauses).count true)
  | term field operand => σ.test field.fieldName .eq operand
  | range field bounds => bounds.all fun b => σ.test field.fieldName (.bound b.1) b.2
  | exist field => σ.present field.fieldName
termination_by structural q => q

def holdsEach (σ : Assignment String Value) : List Query → List Bool
  | [] => []
  | q :: qs => holds σ q :: holdsEach σ qs
termination_by structural qs => qs

end

theorem holdsEach_eq_map (σ : Assignment String Value) (qs : List Query) :
    holdsEach σ qs = qs.map (holds σ) := by
  induction qs with
  | nil => rfl
  | cons q qs ih => rw [holdsEach, ih, List.map_cons]

end Query

/-! ## Queries as data -/

/-- The bounds of a range clause, each under its word. -/
def evaluateBounds (σ : Assignment String Value) (field : String) :
    List (Value × Value) → Option Bool
  | [] => some true
  | (word, operand) :: bounds =>
    match word.text?.bind Bound.ofText?, evaluateBounds σ field bounds with
    | some b, some rest => some (σ.test field (.bound b) operand && rest)
    | _, _ => none

/-- A query that joins no others. -/
def evaluateLeaf (σ : Assignment String Value) (kind body : Value) : Option Bool :=
  if kind.isText "match_all" then some true
  else if kind.isText "term" then
    match body with
    | .dict [(field, operand)] => some (σ.test field.fieldName .eq operand)
    | _ => none
  else if kind.isText "range" then
    match body with
    | .dict [(field, .dict bounds)] => evaluateBounds σ field.fieldName bounds
    | _ => none
  else if kind.isText "exists" then
    match body with
    | .dict [(key, field)] => if key.isText "field" then some (σ.present field.fieldName) else none
    | _ => none
  else none

/-- What the clauses under one occurrence of a compound query say. -/
def occurrence (kind : Value) (minimum : Option Nat) (clauses : List Bool) : Option Bool :=
  if kind.isText "must" || kind.isText "filter" then some (clauses.all id)
  else if kind.isText "must_not" then some (!clauses.any id)
  else if kind.isText "should" then minimum.map fun n => decide (n ≤ clauses.count true)
  else none

/-- How many of the optional clauses of a compound query have to match. -/
def minimumOf (entries : List (Value × Value)) : Option Nat :=
  match Value.lookupText "minimum_should_match" entries with
  | some (.int n) => some n.toNat
  | _ => none

mutual

/-- Whether a query given as data matches; none for data that is no query. -/
def evaluate (σ : Assignment String Value) : Value → Option Bool
  | .dict [(kind, body)] =>
    if kind.isText "bool" then evaluateCompound σ body else evaluateLeaf σ kind body
  | _ => none
termination_by structural v => v

def evaluateCompound (σ : Assignment String Value) : Value → Option Bool
  | .dict entries => evaluateOccurrences σ (minimumOf entries) entries
  | _ => none
termination_by structural v => v

/-- Every occurrence has to hold. -/
def evaluateOccurrences (σ : Assignment String Value) (minimum : Option Nat) :
    List (Value × Value) → Option Bool
  | [] => some true
  | (kind, body) :: entries =>
    if kind.isText "minimum_should_match" then evaluateOccurrences σ minimum entries
    else
      match (evaluateClauses σ body).bind (occurrence kind minimum),
          evaluateOccurrences σ minimum entries with
      | some here, some rest => some (here && rest)
      | _, _ => none
termination_by structural entries => entries

def evaluateClauses (σ : Assignment String Value) : Value → Option (List Bool)
  | .list clauses => evaluateEach σ clauses
  | _ => none
termination_by structural v => v

def evaluateEach (σ : Assignment String Value) : List Value → Option (List Bool)
  | [] => some []
  | clause :: clauses =>
    match evaluate σ clause, evaluateEach σ clauses with
    | some b, some bs => some (b :: bs)
    | _, _ => none
termination_by structural clauses => clauses

end

theorem bound_ofText?_text (b : Bound) : Bound.ofText? b.text = some b := by
  cases b <;> decide

theorem evaluateBounds_text (σ : Assignment String Value) (field : String)
    (bounds : List (Bound × Value)) :
    evaluateBounds σ field (bounds.map fun b => (.str b.1.text, b.2)) =
      some (bounds.all fun b => σ.test field (.bound b.1) b.2) := by
  induction bounds with
  | nil => rfl
  | cons b bounds ih =>
    have hword : (.str b.1.text : Value).text?.bind Bound.ofText? = some b.1 :=
      bound_ofText?_text b.1
    rw [List.map_cons, evaluateBounds, hword, ih, List.all_cons]

mutual

/-- The data of a query means what the query does. -/
theorem evaluate_toValue (σ : Assignment String Value) :
    ∀ q : Query, evaluate σ q.toValue = some (q.holds σ)
  | .matchAll => rfl
  | .must clauses => by
    have h := evaluateEach_toValues σ clauses
    simp [Query.toValue, Query.boolean, Value.object, evaluate, evaluateCompound,
      evaluateOccurrences, evaluateClauses, occurrence, Value.isText, Value.text?, Query.holds, h]
  | .mustNot clauses => by
    have h := evaluateEach_toValues σ clauses
    simp [Query.toValue, Query.boolean, Value.object, evaluate, evaluateCompound,
      evaluateOccurrences, evaluateClauses, occurrence, Value.isText, Value.text?, Query.holds, h]
  | .should minimum clauses => by
    have h := evaluateEach_toValues σ clauses
    simp [Query.toValue, Query.boolean, Value.object, evaluate, evaluateCompound,
      evaluateOccurrences, evaluateClauses, occurrence, minimumOf, Value.lookupText, Value.isText,
      Value.text?, Query.holds, h]
  | .term field operand => rfl
  | .range field bounds => by
    have h := evaluateBounds_text σ field.fieldName bounds
    simp [Query.toValue, Query.about, Value.object, evaluate, evaluateLeaf, Value.isText,
      Value.text?, Query.holds, Function.comp_def, h]
  | .exist field => rfl

theorem evaluateEach_toValues (σ : Assignment String Value) :
    ∀ qs : List Query, evaluateEach σ (Query.toValues qs) = some (Query.holdsEach σ qs)
  | [] => rfl
  | q :: qs => by
    rw [Query.toValues, evaluateEach, evaluate_toValue σ q, evaluateEach_toValues σ qs,
      Query.holdsEach]

end

/-- A search matches when all its scoring queries and all its filters do. -/
theorem evaluate_search (σ : Assignment String Value) (s : Search) :
    evaluate σ s.toValue = some ((s.must ++ s.filter).all (Query.holds σ)) := by
  obtain ⟨must, filter⟩ := s
  have hm := evaluateEach_toValues σ must
  have hf := evaluateEach_toValues σ filter
  rw [Query.holdsEach_eq_map] at hm hf
  cases must <;> cases filter <;>
    simp_all [Search.toValue, Query.toValue, Query.boolean, Value.object, evaluate, evaluateLeaf,
      evaluateCompound, evaluateOccurrences, evaluateClauses, occurrence, Value.isText, Value.text?,
      Bool.and_assoc]

/-! ## Compiling keeps the meaning -/

theorem joined_holds (σ : Assignment String Value) (qs : List Query) :
    (joined qs).holds σ = qs.all (Query.holds σ) := by
  unfold joined
  split
  · rw [List.all_cons, List.all_nil, Bool.and_true]
  · rw [Query.holds, Query.holdsEach_eq_map, List.all_map]
    rfl

/-- Each test ends in exactly one of the two parts that a field is compiled to. -/
theorem clauses_and_bounds (σ : Assignment String Value) (field : Value) (tests : List Test) :
    ((tests.filterMap (clauseOf field)).all (Query.holds σ) &&
      (tests.filterMap boundOf).all fun b => σ.test field.fieldName (.bound b.1) b.2) =
      tests.all (Test.holds σ field.fieldName) := by
  induction tests with
  | nil => rfl
  | cons t tests ih =>
    obtain ⟨op, operand⟩ := t
    rw [List.all_cons, ← ih]
    cases op with
    | eq => simp [clauseOf, boundOf, Query.holds, Test.holds, Bool.and_assoc]
    | bound b => simp [clauseOf, boundOf, Test.holds, Bool.and_left_comm]
    | exist =>
      cases ht : operand.truthy <;>
        simp [clauseOf, boundOf, Query.holds, Query.holdsEach, Test.holds, ht, Bool.and_assoc]

theorem fieldClauses_holds (σ : Assignment String Value) (field : Value) (tests : List Test) :
    (fieldClauses field tests).all (Query.holds σ) =
      tests.all (Test.holds σ field.fieldName) := by
  rw [fieldClauses, List.all_append, ← clauses_and_bounds]
  congr 1
  split
  · next h => rw [h]; rfl
  · rw [List.all_cons, List.all_nil, Bool.and_true, Query.holds]

theorem count_true_pos (bs : List Bool) : decide (1 ≤ bs.count true) = bs.any id := by
  induction bs with
  | nil => rfl
  | cons b bs ih => cases b <;> simp_all

mutual

/-- The query of a condition means what the condition does. -/
theorem holds_ofCondition (σ : Assignment String Value) :
    ∀ c : Condition Value, (ofCondition c).holds σ = c.holds (σ.comap Value.fieldName id)
  | .always => rfl
  | .all branches => by
    rw [ofCondition, Query.holds, Condition.holds, holdsEach_ofConditions σ branches]
  | .any branches => by
    rw [ofCondition, Query.holds, Condition.holds, holdsEach_ofConditions σ branches,
      count_true_pos]
  | .fields entries => by
    rw [ofCondition, joined_holds, List.all_flatMap, Condition.holds]
    simp only [fieldClauses_holds, Test.holds_comap]

theorem holdsEach_ofConditions (σ : Assignment String Value) :
    ∀ cs : List (Condition Value),
      Query.holdsEach σ (ofConditions cs) =
        Condition.holdsEach (σ.comap Value.fieldName id) cs
  | [] => rfl
  | c :: cs => by
    rw [ofConditions, Query.holdsEach, Condition.holdsEach, holds_ofCondition σ c,
      holdsEach_ofConditions σ cs]

end

/-- A formed node is compiled to a query of the same meaning. -/
theorem compile_formed {strict : Bool} {node : Value} (h : Node.Formed strict node) :
    ∃ q, compile node = .ok q ∧ ∀ σ, q.holds σ = Node.holds σ node := by
  obtain ⟨c, hread, -, hmean⟩ := Condition.read_formed dialect_names h
  refine ⟨ofCondition c, ?_, fun σ => ?_⟩
  · rw [compile, hread]
    rfl
  · rw [holds_ofCondition, hmean]

/-- The same for the query as data. -/
theorem compile_evaluates {strict : Bool} {node : Value} (h : Node.Formed strict node) :
    ∃ query, Backend.elastic.compile node = .ok query ∧
      ∀ σ, evaluate σ query = some (Node.holds σ node) := by
  obtain ⟨q, hq, hmean⟩ := compile_formed h
  refine ⟨q.toValue, ?_, fun σ => by rw [evaluate_toValue, hmean]⟩
  rw [Backend.compile, hq]
  rfl

/-- What a formed node is compiled to is a query, and under every truth assignment it means what the
node means. -/
theorem evaluate_where {node : Value} (h : Node.Formed false node)
    (σ : Assignment String Value) :
    ∃ query, Backend.elastic.where? (.value node) = .ok query ∧
      evaluate σ query = some (Node.holds σ node) := by
  obtain ⟨query, hcompile, hmean⟩ := compile_evaluates h
  rw [h.where?_eq]
  exact ⟨query, hcompile, hmean σ⟩

/-- The statement at a node with an empty conjunction, several bounds of one field, a dict without
operators and the empty node below a disjunction. -/
theorem evaluate_where_nested :
    let node : Value := .object [("$or", .list [
      .object [("$and", .list [])],
      .object [("price", .object [("$gte", .int 5), ("$exists", .bool true), ("$lt", .int 10)]),
        ("name", .str "x")],
      .object [("tags", .object [])],
      .object []])]
    let σ : Assignment String Value := ⟨fun field _ _ => field == "name", fun _ => false⟩
    Node.Formed false node ∧ ∃ query, Backend.elastic.where? (.value node) = .ok query ∧
      evaluate σ query = some (Node.holds σ node) := by
  intro node σ
  have hprice : Node.FormedField false (.str "price",
      .object [("$gte", .int 5), ("$exists", .bool true), ("$lt", .int 10)]) :=
    .operators (by decide) (by decide) (by simp)
  have hname : Node.FormedField false (.str "name", .str "x") := .plain (by decide) (by simp)
  have htags : Node.FormedField false (.str "tags", .object []) :=
    .operators (by decide) (by simp) (by simp)
  have hnode : Node.Formed false node := by
    refine .any rfl (by simp) ?_
    simp only [List.forall_mem_cons]
    exact ⟨.all rfl (by simp) (by simp), .fields (by simp [hprice, hname]),
      .fields (by simp [htags]), Node.formed_empty false, by simp⟩
  exact ⟨hnode, evaluate_where hnode σ⟩

end FieldQuery.Elastic
