import FieldQuery.Proofs.Composite.Search
import FieldQuery.Proofs.Constraint.Rendering

/-!
# Which composites can be compiled

What is modelled. In a node the name of a field stands where a joining key may stand, and nothing
tells the two apart. So an artifact over a field that goes by the name of a joining key is read as a
conjunction or disjunction of the operators of its test, which are no nodes.

What is proved.
* `Condition.read_node`: a proper artifact is read as the condition that it means, by every dialect
  that takes texts for fields.
* `Condition.read_test_joining`: over a joining key, reading fails for want of entries.
* `Composite.compiles_iff`: the composites that can be compiled, either way, are exactly those in
  which no constraint that renders has such a field, and all others fail in that way. The generic
  backend leaves nodes unread and takes them all.
* `Composite.joining_field_accepted`: factories build such constraints all the same.

What the compiled forms mean is said elsewhere.
-/

namespace FieldQuery

/-! ## Reading the nodes of artifacts -/

/-- A dialect takes every text for what `name` makes of it. -/
def Dialect.Takes {α : Type} (d : Dialect α) (name : String → α) : Prop :=
  ∀ field, d.field (.str field) = .ok (name field)

theorem Elastic.dialect_takes : Elastic.dialect.Takes Value.str := fun _ => rfl

theorem Sql.dialect_takes : Sql.dialect.Takes id := fun _ => rfl

namespace Artifact

variable {α : Type}

mutual

/-- The condition that a proper artifact is read as. -/
def condition (name : String → α) : Artifact → Condition α
  | term field value => .fields [(name field, [⟨.eq, value⟩])]
  | range field bound value => .fields [(name field, [⟨.bound bound, value⟩])]
  | missing field => .fields [(name field, [⟨.exist, .bool false⟩])]
  | anyOf branches => .any (conditions name branches)
termination_by structural a => a

def conditions (name : String → α) : List Artifact → List (Condition α)
  | [] => []
  | a :: as => condition name a :: conditions name as
termination_by structural as => as

end

theorem conditions_eq_map (name : String → α) (as : List Artifact) :
    conditions name as = as.map (condition name) := by
  induction as with
  | nil => rfl
  | cons a as ih => rw [conditions, ih, List.map_cons]

end Artifact

namespace Condition

variable {α : Type} {d : Dialect α} {name : String → α}

theorem read_test (hd : d.Takes name) {field : String} (h : Artifact.PlainField field)
    (op : Operator) (operand : Value) :
    read d (Node.test field op operand) = .ok (.fields [(name field, [⟨op, operand⟩])]) := by
  obtain ⟨hand, hor⟩ := Bool.or_eq_false_iff.mp h.notJoining
  have htests : readTests d (.str field) [(.str op.text, operand)] = .ok [⟨op, operand⟩] := by
    have hop : Operator.ofKey? (.str op.text : Value) = some op := Operator.ofText?_text op
    rw [readTests_cons hop]
    rfl
  have hfields : readFields d [(.str field, .object [(op.text, operand)])] =
      .ok [(name field, [⟨op, operand⟩])] := by
    have hfield : readField d (.str field) (.object [(op.text, operand)]) =
        .ok (name field, [⟨op, operand⟩]) := by
      rw [readField, hd field]
      exact congrArg (Except.map _) htests
    rw [readFields_cons, hfield]
    rfl
  have hentries : Node.test field op operand =
      .dict [(.str field, .object [(op.text, operand)])] := rfl
  rw [hentries, read, readUnder_single, readUnder_single, hand, hor, hfields]
  rfl

/-- A test of a field that goes by the name of a joining key: its operators are read as nodes. -/
theorem read_test_joining {field : String} (h : ¬ Artifact.PlainField field) (op : Operator)
    (operand : Value) : read d (Node.test field op operand) = .error .lacking := by
  have hop : read d (.str op.text) = .error .lacking := by
    cases op with
    | bound b => cases b <;> rfl
    | eq | exist => rfl
  have hbranches : readBranches d (.object [(op.text, operand)]) = .error .lacking := by
    have hkeys : readBranches d (.object [(op.text, operand)]) =
        readKeys d [(.str op.text, operand)] := rfl
    rw [hkeys, readKeys, hop]
  have hentries : Node.test field op operand =
      .dict [(.str field, .object [(op.text, operand)])] := rfl
  rw [hentries, read, readUnder_single, readUnder_single, hbranches]
  by_cases hand : field = Operator.andKey
  · subst hand
    rfl
  · obtain rfl : field = Operator.orKey := by
      by_contra hor
      exact h ⟨hand, hor⟩
    rfl

theorem readAll_map {β : Type} {node : β → Value} {f : β → Condition α} {xs : List β}
    (h : ∀ x ∈ xs, read d (node x) = .ok (f x)) : readAll d (xs.map node) = .ok (xs.map f) := by
  induction xs with
  | nil => rfl
  | cons x xs ih =>
    rw [List.map_cons, readAll_cons, h x List.mem_cons_self,
      ih fun y hy => h y (List.mem_cons_of_mem _ hy)]
    rfl

/-- Where nodes can fail only in one way, they do so together when one of them does. -/
theorem readAll_error {e : Failure} {nodes : List Value}
    (h : ∀ node ∈ nodes, (∃ c, read d node = .ok c) ∨ read d node = .error e)
    (hbad : ∃ node ∈ nodes, read d node = .error e) : readAll d nodes = .error e := by
  induction nodes with
  | nil =>
    obtain ⟨_, hmem, _⟩ := hbad
    exact absurd hmem List.not_mem_nil
  | cons node nodes ih =>
    rw [readAll_cons]
    rcases h node List.mem_cons_self with ⟨c, hc⟩ | hc
    · have hrest : ∃ n ∈ nodes, read d n = .error e := by
        obtain ⟨n, hn, he⟩ := hbad
        rcases List.mem_cons.mp hn with rfl | hn
        · rw [hc] at he
          cases he
        · exact ⟨n, hn, he⟩
      rw [hc, ih (fun n hn => h n (List.mem_cons_of_mem _ hn)) hrest]
      rfl
    · rw [hc]
      rfl

/-- The node of a proper artifact is read as its condition. -/
theorem read_node (hd : d.Takes name) {a : Artifact} (h : a.Proper) :
    read d a.node = .ok (a.condition name) := by
  induction h with
  | term h value => exact read_test hd h .eq value
  | range h bound value => exact read_test hd h (.bound bound) value
  | missing h => exact read_test hd h .exist (.bool false)
  | @anyOf branches _ _ ih =>
    have hand : (.str Operator.orKey : Value).isText Operator.andKey = false := by decide
    have hor : (.str Operator.orKey : Value).isText Operator.orKey = true := by decide
    have hentries : (Artifact.anyOf branches).node =
        .dict [(.str Operator.orKey, .list (Artifact.nodes branches))] := rfl
    have hbranches : readBranches d (.list (Artifact.nodes branches)) =
        .ok (Artifact.conditions name branches) := by
      rw [readBranches, Artifact.nodes_eq_map, Artifact.conditions_eq_map, readAll_map ih]
    rw [hentries, read, readUnder_single, readUnder_single, hand, hor, hbranches]
    rfl

/-- Nothing that comes from a constraint over a joining key can be read. -/
theorem read_node_joining {c : Constraint} {a : Artifact} (h : a.From c)
    (hfield : ¬ Artifact.PlainField c.field) : read d a.node = .error .lacking := by
  induction h with
  | term _ => exact read_test_joining hfield .eq c.value
  | range _ bound => exact read_test_joining hfield (.bound bound) c.value
  | missing => exact read_test_joining hfield .exist (.bool false)
  | @anyOf branches hne _ ih =>
    have hand : (.str Operator.orKey : Value).isText Operator.andKey = false := by decide
    have hor : (.str Operator.orKey : Value).isText Operator.orKey = true := by decide
    have hentries : (Artifact.anyOf branches).node =
        .dict [(.str Operator.orKey, .list (Artifact.nodes branches))] := rfl
    have hbranches : readBranches d (.list (Artifact.nodes branches)) = .error .lacking := by
      rw [readBranches, Artifact.nodes_eq_map]
      obtain ⟨a, ha⟩ := List.exists_mem_of_ne_nil branches hne
      refine readAll_error (fun node hn => ?_) ⟨a.node, List.mem_map_of_mem ha, ih a ha⟩
      obtain ⟨b, hb, rfl⟩ := List.mem_map.mp hn
      exact .inr (ih b hb)
    rw [hentries, read, readUnder_single, readUnder_single, hand, hor, hbranches]
    rfl

theorem read_merge_error {e : Failure} {nodes : List Value}
    (htruthy : ∀ node ∈ nodes, node.truthy = true)
    (h : ∀ node ∈ nodes, (∃ c, read d node = .ok c) ∨ read d node = .error e)
    (hbad : ∃ node ∈ nodes, read d node = .error e) : read d (Node.merge nodes) = .error e := by
  rw [read_merge htruthy, readAll_error h hbad]
  rfl

end Condition

/-! ## Composites -/

namespace Composite

variable {α : Type} {d : Dialect α} {name : String → α}

/-- The condition that a composite of proper artifacts is read as. -/
def condition (name : String → α) (c : Composite) : Condition α :=
  match c.artifacts.map (Artifact.condition name) with
  | [] => .always
  | [k] => k
  | ks => .all ks

theorem read_node (hd : d.Takes name) {c : Composite} (h : c.Proper) :
    Condition.read d c.node = .ok (c.condition name) := by
  have hnode : ∀ a ∈ c.artifacts, Condition.read d a.node = .ok (a.condition name) :=
    fun a ha => Condition.read_node hd (h a ha)
  have hcondition : c.condition name =
      Condition.conjunction (c.artifacts.map (Artifact.condition name)) := by
    rw [condition]
    generalize c.artifacts.map (Artifact.condition name) = ks
    rcases ks with _ | ⟨k, _ | ⟨k', ks⟩⟩ <;> rfl
  rw [node, Artifact.nodes_eq_map, Condition.read_merge (Artifact.truthy_nodes _),
    Condition.readAll_map hnode, hcondition]
  rfl

/-- Whether a composite can be read: no constraint that renders has a field that goes by the name of
a joining key. -/
def Readable (cs : List Constraint) : Prop :=
  ∀ c ∈ cs, c.renders = true → Artifact.PlainField c.field

theorem Readable.proper {cs : List Constraint} (h : Readable cs) : (combine cs).Proper := by
  intro a ha
  obtain ⟨c, hc, hrenders, hfrom⟩ := from_of_mem_artifacts ha
  exact hfrom.proper (h c hc hrenders)

/-- One artifact over a joining key makes the whole composite unreadable. -/
theorem read_node_joining (hd : d.Takes name) {cs : List Constraint} (h : ¬ Readable cs) :
    Condition.read d (combine cs).node = .error .lacking := by
  have hbad : ∃ c ∈ cs, c.renders = true ∧ ¬ Artifact.PlainField c.field := by
    simpa [Readable] using h
  rw [node, Artifact.nodes_eq_map]
  refine Condition.read_merge_error (Artifact.truthy_nodes _) (fun node hn => ?_) ?_
  · obtain ⟨a, ha, rfl⟩ := List.mem_map.mp hn
    obtain ⟨c, -, -, hfrom⟩ := from_of_mem_artifacts ha
    by_cases hfield : Artifact.PlainField c.field
    · exact .inl ⟨_, Condition.read_node hd (hfrom.proper hfield)⟩
    · exact .inr (Condition.read_node_joining hfrom hfield)
  · obtain ⟨c, hc, hrenders, hfield⟩ := hbad
    obtain ⟨a, ha, hfrom⟩ := exists_mem_artifacts hc hrenders
    exact ⟨a.node, List.mem_map_of_mem ha, Condition.read_node_joining hfrom hfield⟩

/-- Both backends that read nodes fail as the reading fails. -/
theorem where?_unreadable {cs : List Constraint} (h : ¬ Readable cs) {b : Backend}
    (hb : b ≠ .generic) : (combine cs).where? b = .error .lacking := by
  cases b with
  | generic => exact absurd rfl hb
  | elastic =>
    exact congrArg (fun r => (r.map Elastic.ofCondition).map Elastic.Query.toValue)
      (read_node_joining Elastic.dialect_takes h)
  | sql =>
    exact congrArg (fun r => (r.map Sql.render).map (Value.str : String → Value))
      (read_node_joining Sql.dialect_takes h)

/-- What a backend makes of a composite of proper artifacts. -/
def output (c : Composite) : Backend → Value
  | .generic => c.node
  | .elastic => (Elastic.ofCondition (c.condition Value.str)).toValue
  | .sql => .str (Sql.render (c.condition id))

theorem Proper.where?_eq {c : Composite} (h : c.Proper) (b : Backend) :
    c.where? b = .ok (c.output b) := by
  cases b with
  | generic => rfl
  | elastic =>
    exact congrArg (fun r => (r.map Elastic.ofCondition).map Elastic.Query.toValue)
      (read_node Elastic.dialect_takes h)
  | sql =>
    exact congrArg (fun r => (r.map Sql.render).map (Value.str : String → Value))
      (read_node Sql.dialect_takes h)

theorem search_generic (c : Composite) : c.search .generic =
    .ok (.object [("queries", .list (c.queries.map Artifact.node)),
      ("filters", .list (c.filters.map Artifact.node))]) := by
  rw [search, Backend.search, Backend.nodes_artifacts, Backend.nodes_artifacts]
  rfl

theorem search_sql (c : Composite) : c.search .sql = c.where? .sql := by
  rw [search, Backend.search, ← List.map_append, Backend.nodes_artifacts, where?, Backend.where?,
    Item.node, node, Artifact.nodes_eq_map, artifacts]

/-- A search fails exactly as the one query for everything does. -/
theorem search_error_iff (c : Composite) (b : Backend) (e : Failure) :
    c.search b = .error e ↔ c.where? b = .error e := by
  cases b with
  | generic =>
    have hwhere : c.where? .generic = .ok c.node := rfl
    simp [c.search_generic, hwhere]
  | elastic =>
    rcases c.search_elastic with ⟨e', hall, hsearch⟩ | ⟨must, filter, -, -, hall, hsearch⟩ <;>
      simp [hsearch, c.where?_elastic, hall, Except.map]
  | sql => rw [search_sql]

/-- What a backend that reads nodes has compiled can be read. -/
theorem readable_of_where? {cs : List Constraint} {b : Backend} (hb : b ≠ .generic) {out : Value}
    (h : (combine cs).where? b = .ok out) : Readable cs := by
  by_contra hread
  rw [where?_unreadable hread hb] at h
  cases h

theorem readable_of_search {cs : List Constraint} {b : Backend} (hb : b ≠ .generic) {out : Value}
    (h : (combine cs).search b = .ok out) : Readable cs := by
  by_contra hread
  rw [(search_error_iff _ b _).mpr (where?_unreadable hread hb)] at h
  cases h

/-- A composite can be compiled, whichever way, exactly if the backend reads no nodes or can read
all of these. Else both ways fail for want of an entry. -/
theorem compiles_iff (cs : List Constraint) (b : Backend) :
    ((∃ out, (combine cs).where? b = .ok out) ↔ b = .generic ∨ Readable cs) ∧
    ((∃ out, (combine cs).search b = .ok out) ↔ b = .generic ∨ Readable cs) ∧
    ((combine cs).where? b = .error .lacking ↔ ¬ (b = .generic ∨ Readable cs)) ∧
    ((combine cs).search b = .error .lacking ↔ ¬ (b = .generic ∨ Readable cs)) := by
  by_cases h : b = .generic ∨ Readable cs
  case pos =>
    obtain ⟨out, hwhere⟩ : ∃ out, (combine cs).where? b = .ok out := by
      rcases h with rfl | h
      · exact ⟨_, rfl⟩
      · exact ⟨_, h.proper.where?_eq b⟩
    obtain ⟨out', hsearch⟩ : ∃ out, (combine cs).search b = .ok out := by
      cases hs : (combine cs).search b with
      | ok out => exact ⟨out, rfl⟩
      | error e =>
        rw [(search_error_iff _ b e).mp hs] at hwhere
        cases hwhere
    simp [hwhere, hsearch, h]
  case neg =>
    obtain ⟨hb, hread⟩ := not_or.mp h
    have hwhere := where?_unreadable hread hb
    have hsearch := (search_error_iff _ b _).mpr hwhere
    simp [hwhere, hsearch, h]

/-- A factory takes a field that goes by the name of a joining key, and neither backend that reads
nodes can compile what it makes. -/
theorem joining_field_accepted :
    let c : Constraint := ⟨"$and", .int 5, false, .equal false⟩
    Factory.equal.make {} (.str "$and") (.int 5) = .ok c ∧
      (combine [c]).where? .elastic = .error .lacking ∧
      (combine [c]).search .elastic = .error .lacking ∧
      (combine [c]).where? .sql = .error .lacking ∧
      (combine [c]).search .sql = .error .lacking ∧
      (combine [c]).where? .generic =
        .ok (.object [("$and", .object [("$eq", .int 5)])]) :=
  ⟨rfl, rfl, rfl, rfl, rfl, rfl⟩

end Composite

end FieldQuery
