import FieldQuery.Proofs.Composite.Compilation

/-!
# What compiled composites compare

What is modelled. The comparisons of a node, of an Elasticsearch query and of a derivation tree of
SQL: the pairs of a field and of what it is compared with, in order. They are read off the data that
a backend returns, or off the tree of its text, by readings that know nothing of artifacts.

What is proved. Whatever a backend returns for a composite compares the fields of constraints with
their values and nothing else: first those of the constraints that score, then those of the
constraints that filter, and only values that are there (`Composite.compared`). So an absent value
is never compared, whatever flags its constraint has and however deep in a choice it would stand.
* `Artifact.comparisons_node`, `Artifact.comparisons_query`, `Artifact.comparisons_condition`: the
  forms of an artifact compare what the artifact compares.
* `Constraint.comparisons_artifact?`: an artifact of a constraint compares its field with its value,
  or nothing.
* `Composite.combine_compares`: all forms of all composites.

Nothing is said of how comparisons are joined; that is a matter of meaning.
-/

namespace FieldQuery

/-! ## Reading comparisons off data -/

namespace Node

/-- What an entry under a field compares the field with; an existence test compares it with nothing.
-/
def compared? (entry : Value × Value) : Option Value :=
  if entry.1.isText Operator.exist.text then none else some entry.2

mutual

/-- The comparisons in a node, in order. -/
def comparisons : Value → List (String × Value)
  | .dict entries => comparisonsIn entries
  | _ => []
termination_by structural v => v

def comparisonsIn : List (Value × Value) → List (String × Value)
  | [] => []
  | (key, value) :: entries => comparisonsUnder key value ++ comparisonsIn entries
termination_by structural entries => entries

/-- The comparisons in what stands under a key: tests, whatever the key, else branches under a
joining key, else a plain operand. -/
def comparisonsUnder (key : Value) : Value → List (String × Value)
  | .dict tests => (tests.filterMap compared?).map (key.fieldName, ·)
  | .list nodes =>
    if key.isJoiningKey then comparisonsEach nodes else [(key.fieldName, .list nodes)]
  | .tuple nodes =>
    if key.isJoiningKey then comparisonsEach nodes else [(key.fieldName, .tuple nodes)]
  | operand => [(key.fieldName, operand)]
termination_by structural v => v

def comparisonsEach : List Value → List (String × Value)
  | [] => []
  | node :: nodes => comparisons node ++ comparisonsEach nodes
termination_by structural nodes => nodes

end

theorem comparisonsEach_eq_flatMap (nodes : List Value) :
    comparisonsEach nodes = nodes.flatMap comparisons := by
  induction nodes with
  | nil => rfl
  | cons node nodes ih => rw [comparisonsEach, ih, List.flatMap_cons]

theorem comparisons_conjunctionOf (nodes : List Value) :
    comparisons (conjunctionOf nodes) = nodes.flatMap comparisons := by
  match nodes with
  | [] => rfl
  | [node] => exact (List.append_nil _).symm
  | node :: node' :: nodes =>
    have hjoined : comparisons (conjunctionOf (node :: node' :: nodes)) =
        comparisonsEach (node :: node' :: nodes) ++ [] := rfl
    rw [hjoined, comparisonsEach_eq_flatMap, List.append_nil]

end Node

namespace Elastic

/-- The comparisons in a query that joins no others. -/
def leafComparisons (kind : Value) : Value → List (String × Value)
  | .dict [(field, body)] =>
    if kind.isText "term" then [(field.fieldName, body)]
    else if kind.isText "range" then
      match body with
      | .dict bounds => bounds.map fun b => (field.fieldName, b.2)
      | _ => []
    else []
  | _ => []

mutual

/-- The comparisons in a query given as data, in order. -/
def comparisons : Value → List (String × Value)
  | .dict [(kind, body)] =>
    if kind.isText "bool" then compoundComparisons body else leafComparisons kind body
  | _ => []
termination_by structural v => v

def compoundComparisons : Value → List (String × Value)
  | .dict occurrences => occurrencesComparisons occurrences
  | _ => []
termination_by structural v => v

def occurrencesComparisons : List (Value × Value) → List (String × Value)
  | [] => []
  | (_, clauses) :: occurrences => clausesComparisons clauses ++ occurrencesComparisons occurrences
termination_by structural occurrences => occurrences

def clausesComparisons : Value → List (String × Value)
  | .list clauses => comparisonsEach clauses
  | _ => []
termination_by structural v => v

def comparisonsEach : List Value → List (String × Value)
  | [] => []
  | clause :: clauses => comparisons clause ++ comparisonsEach clauses
termination_by structural clauses => clauses

end

theorem comparisonsEach_eq_flatMap (clauses : List Value) :
    comparisonsEach clauses = clauses.flatMap comparisons := by
  induction clauses with
  | nil => rfl
  | cons clause clauses ih => rw [comparisonsEach, ih, List.flatMap_cons]

theorem comparisons_compound (occurrences : List (String × List Value)) :
    comparisons (compound occurrences) =
      occurrences.flatMap fun o => o.2.flatMap comparisons := by
  have hbool : comparisons (compound occurrences) =
      occurrencesComparisons (((occurrences.filter (!·.2.isEmpty)).map
        fun o => (o.1, Value.list o.2)).map fun e => (.str e.1, e.2)) := rfl
  rw [hbool]
  induction occurrences with
  | nil => rfl
  | cons o occurrences ih =>
    obtain ⟨name, clauses⟩ := o
    rw [List.flatMap_cons, ← ih rfl]
    -- an occurrence without clauses is left out, and would have compared nothing
    cases clauses with
    | nil => rfl
    | cons clause clauses =>
      rw [← comparisonsEach_eq_flatMap]
      rfl

theorem comparisons_whereOf (clauses : List Value) :
    comparisons (whereOf clauses) = clauses.flatMap comparisons := by
  match clauses with
  | [] => rfl
  | [_] => exact (List.append_nil _).symm
  | clause :: clause' :: clauses =>
    exact (comparisons_compound _).trans (List.append_nil _)

theorem comparisons_searchOf (must filter : List Value) :
    comparisons (searchOf must filter) = (must ++ filter).flatMap comparisons := by
  unfold searchOf
  split
  · next h =>
    obtain ⟨rfl, rfl⟩ := h
    rfl
  · rw [comparisons_compound, List.flatMap_append]
    exact congrArg _ (List.append_nil _)

end Elastic

/-! ## Artifacts -/

namespace Artifact

mutual

/-- The comparisons of an artifact, in order. -/
def comparisons : Artifact → List (String × Value)
  | term field value => [(field, value)]
  | range field _ value => [(field, value)]
  | missing _ => []
  | anyOf branches => comparisonsEach branches
termination_by structural a => a

def comparisonsEach : List Artifact → List (String × Value)
  | [] => []
  | a :: as => comparisons a ++ comparisonsEach as
termination_by structural as => as

end

mutual

/-- The node of an artifact compares what the artifact does, also under a joining key. -/
theorem comparisons_node : ∀ a : Artifact, Node.comparisons a.node = a.comparisons
  | .term _ _ => rfl
  | .range _ bound _ => by cases bound <;> rfl
  | .missing _ => rfl
  | .anyOf branches => by
    have hor : Node.comparisons (anyOf branches).node =
        Node.comparisonsEach (nodes branches) ++ [] := rfl
    rw [hor, comparisonsEach_nodes branches, List.append_nil, comparisons]

theorem comparisonsEach_nodes :
    ∀ as : List Artifact, Node.comparisonsEach (nodes as) = comparisonsEach as
  | [] => rfl
  | a :: as => by
    rw [nodes, Node.comparisonsEach, comparisons_node a, comparisonsEach_nodes as, comparisonsEach]

end

mutual

theorem comparisons_condition {α : Type} (name : String → α) :
    ∀ a : Artifact, (a.condition name).comparisons = a.comparisons.map fun p => (name p.1, p.2)
  | .term _ _ => rfl
  | .range _ _ _ => rfl
  | .missing _ => rfl
  | .anyOf branches => by
    rw [condition, Condition.comparisons, comparisonsEach_conditions name branches, comparisons]

theorem comparisonsEach_conditions {α : Type} (name : String → α) :
    ∀ as : List Artifact, Condition.comparisonsEach (conditions name as) =
      (comparisonsEach as).map fun p => (name p.1, p.2)
  | [] => rfl
  | a :: as => by
    rw [conditions, Condition.comparisonsEach, comparisons_condition name a,
      comparisonsEach_conditions name as, comparisonsEach, List.map_append]

end

mutual

/-- The query of an artifact compares what the artifact does. -/
theorem comparisons_query : ∀ a : Artifact,
    Elastic.comparisons (Elastic.ofCondition (a.condition Value.str)).toValue = a.comparisons
  | .term _ _ => rfl
  | .range _ _ _ => rfl
  | .missing _ => rfl
  | .anyOf branches => by
    have hshould : Elastic.comparisons
        (Elastic.ofCondition ((anyOf branches).condition Value.str)).toValue =
        Elastic.comparisonsEach (Elastic.Query.toValues
          (Elastic.ofConditions (conditions Value.str branches))) ++ ([] ++ []) := rfl
    rw [hshould, comparisonsEach_queries branches, List.append_nil, List.append_nil, comparisons]

theorem comparisonsEach_queries : ∀ as : List Artifact,
    Elastic.comparisonsEach (Elastic.Query.toValues
      (Elastic.ofConditions (conditions Value.str as))) = comparisonsEach as
  | [] => rfl
  | a :: as => by
    rw [conditions, Elastic.ofConditions, Elastic.Query.toValues, Elastic.comparisonsEach,
      comparisons_query a, comparisonsEach_queries as, comparisonsEach]

end

end Artifact

/-- Compiled one by one, artifacts compare what they compare. -/
theorem Backend.queries_comparisons {as : List Artifact} (h : ∀ a ∈ as, a.Proper) :
    ∃ qs, queries (as.map .artifact) = .ok qs ∧
      (Elastic.Query.toValues qs).flatMap Elastic.comparisons =
        as.flatMap Artifact.comparisons := by
  induction as with
  | nil => exact ⟨[], rfl, rfl⟩
  | cons a as ih =>
    obtain ⟨qs, hqs, hcompared⟩ := ih fun b hb => h b (List.mem_cons_of_mem _ hb)
    have ha : Elastic.compile a.node = .ok (Elastic.ofCondition (a.condition Value.str)) :=
      congrArg (Except.map Elastic.ofCondition)
        (Condition.read_node Elastic.dialect_takes (h a List.mem_cons_self))
    refine ⟨Elastic.ofCondition (a.condition Value.str) :: qs, ?_, ?_⟩
    · rw [List.map_cons, queries, Item.node, hqs]
      simp only [ha]
      rfl
    · rw [Elastic.Query.toValues, List.flatMap_cons, List.flatMap_cons, hcompared,
        Artifact.comparisons_query]

/-! ## Constraints -/

/-- Whatever a constraint renders to compares its field with its value, if the value is there, and
else nothing. -/
theorem Constraint.comparisons_artifact? (c : Constraint) (mode : Mode) :
    ∀ a ∈ c.artifact? mode, a.comparisons = if c.hasValue then [(c.field, c.value)] else [] := by
  obtain ⟨field, value, asFilter, k⟩ := c
  cases mode <;> cases k with
  | equal ignoreAbsent =>
    cases hv : value.isAbsent <;> cases asFilter <;> cases ignoreAbsent <;>
      simp [artifact?, query?, filter?, hasValue, hv, Artifact.comparisons]
  | range bound matchIfAbsent =>
    cases hv : value.isAbsent <;> cases asFilter <;> cases matchIfAbsent <;>
      simp [artifact?, query?, filter?, hasValue, hv, Artifact.comparisons,
        Artifact.comparisonsEach]

/-! ## Composites -/

namespace Composite

/-- The fields and values of the constraints that render for a use and whose value is there. -/
def comparedFor (mode : Constraint.Mode) (cs : List Constraint) : List (String × Value) :=
  (cs.filter fun c => c.hasValue && (c.artifact? mode).isSome).map fun c => (c.field, c.value)

/-- What a composite compares, in order: the values that score and then those that filter. -/
def compared (cs : List Constraint) : List (String × Value) :=
  comparedFor .query cs ++ comparedFor .filter cs

theorem flatMap_comparisons_filterMap (mode : Constraint.Mode) (cs : List Constraint) :
    (cs.filterMap (Constraint.artifact? · mode)).flatMap Artifact.comparisons =
      comparedFor mode cs := by
  induction cs with
  | nil => rfl
  | cons c cs ih =>
    have hc := c.comparisons_artifact? mode
    rw [comparedFor] at ih ⊢
    rw [List.filterMap_cons, List.filter_cons]
    cases ha : c.artifact? mode with
    | none => simpa [ha] using ih
    | some a =>
      rw [List.flatMap_cons, ih, hc a ha]
      cases hv : c.hasValue <;> simp

theorem comparisons_artifacts (cs : List Constraint) :
    (combine cs).artifacts.flatMap Artifact.comparisons = compared cs := by
  rw [artifacts, List.flatMap_append]
  exact congr (congrArg _ (flatMap_comparisons_filterMap .query cs))
    (flatMap_comparisons_filterMap .filter cs)

/-- Read as nodes, the artifacts compare the same. -/
theorem comparisons_nodes (as : List Artifact) :
    (as.map Artifact.node).flatMap Node.comparisons = as.flatMap Artifact.comparisons := by
  rw [List.flatMap_map]
  exact List.flatMap_congr fun a _ => a.comparisons_node

theorem comparisons_node (cs : List Constraint) :
    Node.comparisons (combine cs).node = compared cs := by
  rw [node_eq_conjunctionOf, Node.comparisons_conjunctionOf, comparisons_nodes,
    comparisons_artifacts]

/-- Both forms of an Elasticsearch query compare the same. -/
theorem elastic_comparisons {cs : List Constraint} (h : Readable cs) :
    (∃ query, (combine cs).where? .elastic = .ok query ∧
      Elastic.comparisons query = compared cs) ∧
    ∃ search, (combine cs).search .elastic = .ok search ∧
      Elastic.comparisons search = compared cs := by
  obtain ⟨qs, hqs, hcompared⟩ := Backend.queries_comparisons h.proper
  rw [comparisons_artifacts] at hcompared
  constructor
  · refine ⟨Elastic.whereOf (Elastic.Query.toValues qs), ?_, ?_⟩
    · rw [where?_elastic, hqs]
      rfl
    · rw [Elastic.comparisons_whereOf, hcompared]
  · rcases (combine cs).search_elastic with ⟨e, hall, -⟩ | ⟨must, filter, -, -, hall, hsearch⟩
    · rw [hall] at hqs
      cases hqs
    · obtain rfl : qs = must ++ filter := Except.ok.inj (hqs.symm.trans hall)
      refine ⟨_, hsearch, ?_⟩
      rw [Elastic.comparisons_searchOf, ← Elastic.toValues_append, hcompared]

theorem comparisons_condition {α : Type} (name : String → α) (c : Composite) :
    (c.condition name).comparisons =
      (c.artifacts.flatMap Artifact.comparisons).map fun p => (name p.1, p.2) := by
  have heach : (c.artifacts.map (Artifact.condition name)).flatMap Condition.comparisons =
      (c.artifacts.flatMap Artifact.comparisons).map fun p => (name p.1, p.2) := by
    rw [List.flatMap_map, List.map_flatMap]
    exact List.flatMap_congr fun a _ => a.comparisons_condition name
  rw [condition, ← heach]
  generalize c.artifacts.map (Artifact.condition name) = ks
  rcases ks with _ | ⟨k, _ | ⟨k', ks⟩⟩
  · rfl
  · exact (List.append_nil _).symm
  · dsimp only
    rw [Condition.comparisons, Condition.comparisonsEach_eq_flatMap]

/-- What a composite of proper artifacts is read as has no empty parts. -/
theorem Proper.condition_whole {c : Composite} (h : c.Proper) : (c.condition id).Whole := by
  obtain ⟨k, hread, hwhole, -⟩ := Condition.read_formed Sql.dialect_names (node_formed h).1
  obtain rfl : k = c.condition id :=
    Except.ok.inj (hread.symm.trans (read_node Sql.dialect_takes h))
  exact hwhole rfl

/-- What a composite is made of, and what its compiled forms compare. -/
structure ComparesPresent (cs : List Constraint) : Prop where
  /-- Only comparisons of values that are there score. -/
  queries : ∀ a ∈ (combine cs).queries,
    a.scores = true ∧ ∃ c ∈ cs, c.query? = some a ∧ a.From c
  filters : ∀ a ∈ (combine cs).filters, ∃ c ∈ cs, c.filter? = some a ∧ a.From c
  /-- No constraint both scores and filters. -/
  once : ∀ c ∈ cs, c.query? = none ∨ c.filter? = none
  genericWhere : ∃ node, (combine cs).where? .generic = .ok node ∧
    Node.comparisons node = compared cs
  genericSearch : ∃ queries filters,
    (combine cs).search .generic =
      .ok (.object [("queries", .list queries), ("filters", .list filters)]) ∧
    (queries ++ filters).flatMap Node.comparisons = compared cs
  elasticWhere : ∀ query, (combine cs).where? .elastic = .ok query →
    Elastic.comparisons query = compared cs
  elasticSearch : ∀ search, (combine cs).search .elastic = .ok search →
    Elastic.comparisons search = compared cs
  /-- The only derivation tree of the clause compares no more and no less. -/
  sql : ∀ out, (combine cs).where? .sql = .ok out ∨ (combine cs).search .sql = .ok out →
    ∃ clause tree, out = .str clause ∧
      (∀ t : Sql.Disjunction, t.chars = clause.toList ↔ t = tree) ∧
      tree.comparisons = (compared cs).map Sql.writtenComparison

theorem sql_comparisons {cs : List Constraint} {out : Value}
    (h : (combine cs).where? .sql = .ok out) : ∃ clause tree, out = .str clause ∧
      (∀ t : Sql.Disjunction, t.chars = clause.toList ↔ t = tree) ∧
      tree.comparisons = (compared cs).map Sql.writtenComparison := by
  have hproper := (readable_of_where? (by decide) h).proper
  obtain ⟨t, hchars, -, hcompared⟩ := Sql.filled_written _ hproper.condition_whole.filled
  have htree : (Sql.Disjunction.one t).chars =
      (Sql.render ((combine cs).condition id)).toList := by
    rw [Sql.Disjunction.chars, hchars, Sql.render, String.toList_ofList]
  refine ⟨Sql.render ((combine cs).condition id), .one t, ?_, fun u => ⟨fun hu => ?_, ?_⟩, ?_⟩
  · exact Except.ok.inj (h.symm.trans (hproper.where?_eq .sql))
  · exact Sql.Disjunction.chars_injective (hu.trans htree.symm)
  · rintro rfl
    exact htree
  · rw [Sql.Disjunction.comparisons, hcompared, comparisons_condition, comparisons_artifacts]
    exact congrArg _ (List.map_id _)

/-- Whatever flags constraints have, an absent value is never compared and a filter never scored:
what scores is a comparison of a value that is there, no constraint is used twice, and each compiled
form compares exactly the values that are there and rendered, with their own fields. -/
theorem combine_compares (cs : List Constraint) : ComparesPresent cs := by
  constructor
  case queries =>
    intro a ha
    obtain ⟨c, hc, hquery⟩ := List.mem_filterMap.mp ha
    obtain ⟨hscores, hfrom⟩ := Constraint.query?_from a hquery
    exact ⟨hscores, c, hc, hquery, hfrom⟩
  case filters =>
    intro a ha
    obtain ⟨c, hc, hfilter⟩ := List.mem_filterMap.mp ha
    exact ⟨c, hc, hfilter, Constraint.filter?_from a hfilter⟩
  case once => exact fun c _ => c.query?_or_filter?_eq_none
  case genericWhere => exact ⟨(combine cs).node, rfl, comparisons_node cs⟩
  case genericSearch =>
    refine ⟨_, _, (combine cs).search_generic, ?_⟩
    rw [← List.map_append, comparisons_nodes]
    exact comparisons_artifacts cs
  case elasticWhere =>
    intro query hquery
    obtain ⟨⟨q, hq, hcompared⟩, -⟩ := elastic_comparisons (readable_of_where? (by decide) hquery)
    obtain rfl : q = query := Except.ok.inj (hq.symm.trans hquery)
    exact hcompared
  case elasticSearch =>
    intro search hsearch
    obtain ⟨-, q, hq, hcompared⟩ := elastic_comparisons (readable_of_search (by decide) hsearch)
    obtain rfl : q = search := Except.ok.inj (hq.symm.trans hsearch)
    exact hcompared
  case sql =>
    rintro out (h | h)
    · exact sql_comparisons h
    · rw [search_sql] at h
      exact sql_comparisons h

example : (combine [⟨"a", .null, true, .equal false⟩, ⟨"b", .absent, true, .range .lt true⟩,
    ⟨"c", .str "None", false, .equal true⟩]).where? .sql =
      .ok (.str "\"c\" = 'None' AND \"a\" IS NULL") := rfl

end Composite

end FieldQuery
