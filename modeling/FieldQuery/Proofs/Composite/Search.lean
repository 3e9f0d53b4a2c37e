import FieldQuery.Proofs.Constraint.Agreement
import FieldQuery.Proofs.Node.Grouping

/-!
# Two ways to compile a composite

What is modelled. A composite is compiled as one node that joins its artifacts, or as a search that
keeps the artifacts that score apart from those that filter. Both ways come down to compiling the
artifacts one after the other in the same order: the node is read branch by branch, and no artifact
has an empty node that merging could drop.

What is proved. The two ways fail together and on the same artifact, and what they return has the
same parts (`Composite.searches_alike`): for SQL it is the same clause, for Elasticsearch the
clauses of the one are those of the other, and the generic node joins the nodes that the search
lists. It rests on two lemmas, one for each way (`Elastic.compile_merge`,
`Backend.queries_eq_mapM`).

Nothing is assumed about the artifacts: a field may be a joining key, and a choice may have no
branch. Scores themselves are not modelled.
-/

namespace FieldQuery

/-! ## Compiling one after the other -/

/-- No artifact has an empty node. -/
theorem Artifact.truthy_nodes (as : List Artifact) :
    ∀ node ∈ as.map Artifact.node, node.truthy = true := by
  intro node hn
  obtain ⟨a, -, rfl⟩ := List.mem_map.mp hn
  cases a <;> rfl

namespace Elastic

theorem map_readAll (nodes : List Value) :
    (Condition.readAll dialect nodes).map ofConditions = nodes.mapM compile := by
  induction nodes with
  | nil => rfl
  | cons node nodes ih =>
    rw [List.mapM_cons, ← ih, compile, Condition.readAll]
    cases Condition.read dialect node with
    | error e => rfl
    | ok c => cases Condition.readAll dialect nodes <;> rfl

/-- The query of a conjunction: nothing restricts nothing, and one query stands for itself. -/
def conjunction : List Query → Query
  | [] => .matchAll
  | [q] => q
  | qs => .must qs

theorem ofCondition_conjunction (cs : List (Condition Value)) :
    ofCondition (Condition.conjunction cs) = conjunction (ofConditions cs) := by
  rcases cs with _ | ⟨c, _ | ⟨c', cs⟩⟩ <;> rfl

/-- Nodes that are not empty are compiled one after the other, whether they are merged or not. -/
theorem compile_merge (nodes : List Value) (h : ∀ node ∈ nodes, node.truthy = true) :
    compile (Node.merge nodes) = (nodes.mapM compile).map conjunction := by
  rw [compile, Condition.read_merge h, ← map_readAll]
  cases Condition.readAll dialect nodes with
  | error e => rfl
  | ok cs => exact congrArg Except.ok (ofCondition_conjunction cs)

end Elastic

namespace Backend

theorem queries_eq_mapM (as : List Artifact) :
    queries (as.map .artifact) = (as.map Artifact.node).mapM Elastic.compile := by
  induction as with
  | nil => rfl
  | cons a as ih =>
    rw [List.map_cons, queries, Item.node, List.map_cons, List.mapM_cons, ← ih]
    dsimp only
    cases Elastic.compile a.node with
    | error e => rfl
    | ok q => cases queries (as.map .artifact) <;> rfl

/-- The queries of artifacts as data, when all of them compile. -/
theorem mapM_where?_artifact (as : List Artifact) :
    as.mapM (fun a => elastic.where? (.artifact a)) =
      (queries (as.map .artifact)).map Elastic.Query.toValues := by
  induction as with
  | nil => rfl
  | cons a as ih =>
    rw [List.mapM_cons, ih, List.map_cons, queries, where?, Item.node]
    dsimp only [compile]
    cases Elastic.compile a.node with
    | error e => rfl
    | ok q => cases queries (as.map .artifact) <;> rfl

end Backend

/-! ## Composites -/

namespace Elastic

/-- The query that everything matches, as data. -/
def everything : Value := .object [("match_all", .dict [])]

/-- A compound query of some occurrences, each with its clauses; those without clauses are left
out. -/
def compound (occurrences : List (String × List Value)) : Value :=
  .object [("bool", .object ((occurrences.filter (!·.2.isEmpty)).map fun o => (o.1, .list o.2)))]

/-- What a search consists of, as data. -/
def searchOf (must filter : List Value) : Value :=
  if must = [] ∧ filter = [] then everything else compound [("must", must), ("filter", filter)]

/-- What one query for all artifacts consists of, as data. -/
def whereOf : List Value → Value
  | [] => everything
  | [clause] => clause
  | clauses => compound [("must", clauses)]

theorem search_toValue (must filter : List Query) :
    (Search.mk must filter).toValue =
      searchOf (Query.toValues must) (Query.toValues filter) := by
  cases must <;> cases filter <;> rfl

theorem conjunction_toValue (qs : List Query) :
    (conjunction qs).toValue = whereOf (Query.toValues qs) := by
  match qs with
  | [] => rfl
  | [_] => rfl
  | _ :: _ :: _ => rfl

theorem toValues_append (qs qs' : List Query) :
    Query.toValues (qs ++ qs') = Query.toValues qs ++ Query.toValues qs' := by
  induction qs with
  | nil => rfl
  | cons q qs ih => rw [List.cons_append, Query.toValues, ih, Query.toValues, List.cons_append]

end Elastic

namespace Node

/-- The conjunction of nodes of which none is empty. -/
def conjunctionOf : List Value → Value
  | [] => .dict []
  | [node] => node
  | nodes => .object [(Operator.andKey, .list nodes)]

end Node

namespace Composite

/-- No artifact is dropped from the node of a composite. -/
theorem node_eq_conjunctionOf (c : Composite) :
    c.node = Node.conjunctionOf (c.artifacts.map Artifact.node) := by
  rw [node, Artifact.nodes_eq_map, Node.merge, List.filter_eq_self.mpr (Artifact.truthy_nodes _)]
  rfl

theorem where?_elastic (c : Composite) :
    c.where? .elastic =
      (Backend.queries (c.artifacts.map .artifact)).map fun qs =>
        Elastic.whereOf (Elastic.Query.toValues qs) := by
  have hwhere : c.where? .elastic =
      (Elastic.compile (Node.merge (c.artifacts.map Artifact.node))).map Elastic.Query.toValue := by
    rw [← Artifact.nodes_eq_map]
    rfl
  rw [hwhere, Elastic.compile_merge _ (Artifact.truthy_nodes _), ← Backend.queries_eq_mapM]
  cases Backend.queries (c.artifacts.map .artifact) with
  | error e => rfl
  | ok qs => exact congrArg Except.ok (Elastic.conjunction_toValue qs)

/-- What a search of a composite has to do with its one query. -/
structure SearchesAlike (c : Composite) : Prop where
  sql : c.search .sql = c.where? .sql
  /-- Both fail on the first artifact that cannot be compiled. -/
  elasticFails : ∀ e, c.search .elastic = .error e ↔ c.where? .elastic = .error e
  /-- Compiled one by one, the artifacts are the clauses of both. -/
  elasticParts : ∀ query, c.where? .elastic = .ok query → ∃ must filter,
    c.queries.mapM (fun a => Backend.elastic.where? (.artifact a)) = .ok must ∧
    c.filters.mapM (fun a => Backend.elastic.where? (.artifact a)) = .ok filter ∧
    c.search .elastic = .ok (Elastic.searchOf must filter) ∧
    query = Elastic.whereOf (must ++ filter)
  /-- The node joins all nodes that the search lists. -/
  generic : ∃ queries filters,
    c.search .generic =
      .ok (.object [("queries", .list queries), ("filters", .list filters)]) ∧
    c.where? .generic = .ok c.node ∧ c.node = Node.conjunctionOf (queries ++ filters)

/-- Both ways compile the same artifacts in the same order. -/
theorem search_elastic (c : Composite) :
    (∃ e, Backend.queries (c.artifacts.map .artifact) = .error e ∧ c.search .elastic = .error e) ∨
    ∃ must filter, Backend.queries (c.queries.map .artifact) = .ok must ∧
      Backend.queries (c.filters.map .artifact) = .ok filter ∧
      Backend.queries (c.artifacts.map .artifact) = .ok (must ++ filter) ∧
      c.search .elastic = .ok (Elastic.searchOf (Elastic.Query.toValues must)
        (Elastic.Query.toValues filter)) := by
  have hall : Backend.queries (c.artifacts.map .artifact) = do
      let must ← Backend.queries (c.queries.map .artifact)
      let filter ← Backend.queries (c.filters.map .artifact)
      return must ++ filter := by
    rw [artifacts, Backend.queries_eq_mapM, Backend.queries_eq_mapM, Backend.queries_eq_mapM,
      List.map_append, List.mapM_append]
  rw [hall, search, Backend.search]
  cases Backend.queries (c.queries.map .artifact) with
  | error e => exact .inl ⟨e, rfl, rfl⟩
  | ok must =>
    cases Backend.queries (c.filters.map .artifact) with
    | error e => exact .inl ⟨e, rfl, rfl⟩
    | ok filter =>
      exact .inr ⟨must, filter, rfl, rfl, rfl, congrArg Except.ok (Elastic.search_toValue _ _)⟩

/-- A search and one query for everything are two ways to the same predicate, for every composite,
and fail alike. -/
theorem searches_alike (c : Composite) : c.SearchesAlike := by
  have hwhere := c.where?_elastic
  constructor
  case sql =>
    rw [search, Backend.search, ← List.map_append, Backend.nodes_artifacts, where?, Backend.where?,
      Item.node, node, Artifact.nodes_eq_map, artifacts]
  case elasticFails =>
    intro e
    rcases c.search_elastic with ⟨e', hall, hsearch⟩ | ⟨must, filter, -, -, hall, hsearch⟩
    · rw [hsearch, hwhere, hall]
      rfl
    · rw [hsearch, hwhere, hall]
      simp [Except.map]
  case elasticParts =>
    intro query hquery
    rw [hwhere] at hquery
    rcases c.search_elastic with ⟨e, hall, -⟩ | ⟨must, filter, hmust, hfilter, hall, hsearch⟩
    · rw [hall] at hquery
      cases hquery
    · refine ⟨_, _, ?_, ?_, hsearch, ?_⟩
      · rw [Backend.mapM_where?_artifact, hmust]
        rfl
      · rw [Backend.mapM_where?_artifact, hfilter]
        rfl
      · rw [hall] at hquery
        rw [← Elastic.toValues_append]
        exact (Except.ok.inj hquery).symm
  case generic =>
    refine ⟨c.queries.map Artifact.node, c.filters.map Artifact.node, ?_, rfl, ?_⟩
    · rw [search, Backend.search, Backend.nodes_artifacts, Backend.nodes_artifacts]
      rfl
    · rw [node, Artifact.nodes_eq_map, Node.merge,
        List.filter_eq_self.mpr (Artifact.truthy_nodes _), ← List.map_append]
      rfl

end Composite

end FieldQuery
