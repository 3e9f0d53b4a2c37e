import FieldQuery.Proofs.Artifact.Meaning

/-!
# Nodes tell artifacts apart

What is modelled. A node has one key. For an artifact on one field it is the field, with a dict of
one operator below it; for a choice it is the key of a disjunction, with a list below it. So a field
of that name, or a value that looks like a node, does not lead from one kind of artifact to another:
a dict never equals a list, and the operator tells equality, the bounds and the test for a missing
field apart.

What is proved. Nothing is assumed of the artifacts: fields may be joining keys, choices may be
empty, and values may be anything, nodes among them.
* `test_inj`, `test_same`: the same for nodes of one test.
* `Artifact.node_same`, `Artifact.node_inj`: for all artifacts, by induction on both at once;
  `test?` gathers the three kinds of artifact that have a test for their node.
* `Artifact.node_faithful`: artifacts are the same exactly if their nodes are, and identical exactly
  if their nodes are.

Left out. What a backend makes of a node may well be the same for two artifacts: nothing here says
that compiling tells them apart.
-/

namespace FieldQuery

theorem Operator.text_inj {op op' : Operator} : op.text = op'.text ↔ op = op' := by
  constructor
  · intro h
    have hread := ofText?_text op
    rw [h, ofText?_text op'] at hread
    exact (Option.some.inj hread).symm
  · intro h
    rw [h]

namespace Node

/-! ## Tests of one field -/

theorem test_inj {field field' : String} {op op' : Operator} {v w : Value}
    (h : test field op v = test field' op' w) : field = field' ∧ op = op' ∧ v = w := by
  unfold test at h
  simp only [Value.object, List.map_cons, List.map_nil, Value.dict.injEq, List.cons.injEq,
    Prod.mk.injEq, Value.str.injEq, and_true] at h
  exact ⟨h.1, Operator.text_inj.mp h.2.1, h.2.2⟩

theorem object_single_same (key key' : String) (v w : Value) :
    (Value.object [(key, v)]).same (.object [(key', w)]) = (key == key' && v.same w) := by
  show (([((.str key : Value), v)].length == [((.str key' : Value), w)].length) &&
    (((key == key' && v.same w) || false) && true)) = _
  simp

theorem test_same (field field' : String) (op op' : Operator) (v w : Value) :
    (test field op v).same (test field' op' w) = (field == field' && op == op' && v.same w) := by
  have htext : (op.text == op'.text) = (op == op') := by
    rw [Bool.eq_iff_iff, beq_iff_eq, beq_iff_eq, Operator.text_inj]
  unfold test
  rw [object_single_same, object_single_same, htext, Bool.and_assoc]

/-- Below the key of a disjunction stands a list, below a field a dict. -/
theorem test_ne_disjunction (field : String) (op : Operator) (v : Value) (nodes : List Value) :
    test field op v ≠ .object [(Operator.orKey, .list nodes)] := by
  intro h
  simp [test, Value.object] at h

theorem test_same_disjunction (field : String) (op : Operator) (v : Value) (nodes : List Value) :
    (test field op v).same (.object [(Operator.orKey, .list nodes)]) = false := by
  unfold test
  rw [object_single_same]
  exact Bool.and_false _

theorem disjunction_same_test (field : String) (op : Operator) (v : Value) (nodes : List Value) :
    (Value.object [(Operator.orKey, .list nodes)]).same (test field op v) = false := by
  unfold test
  rw [object_single_same]
  exact Bool.and_false _

end Node

namespace Artifact

/-! ## Artifacts on one field -/

/-- The field, the operator and the operand of an artifact that is no choice. -/
def test? : Artifact → Option (String × Operator × Value)
  | term field value => some (field, .eq, value)
  | range field bound value => some (field, .bound bound, value)
  | missing field => some (field, .exist, .bool false)
  | anyOf _ => none

variable {a b : Artifact} {field field' : String} {op op' : Operator} {v w : Value}

theorem node_of_test (h : a.test? = some (field, op, v)) : a.node = Node.test field op v := by
  cases a <;> cases h <;> rfl

theorem eq_of_test (ha : a.test? = some (field, op, v)) (hb : b.test? = some (field, op, v)) :
    a = b := by
  cases a <;> cases b <;> cases ha <;> cases hb <;> rfl

/-- Artifacts of one kind have one operator, but for the bound of a range. -/
theorem same_of_tests (ha : a.test? = some (field, op, v)) (hb : b.test? = some (field', op', w)) :
    a.same b = (field == field' && op == op' && v.same w) := by
  cases a <;> cases b <;> cases ha <;> cases hb
  case range.range bound bound' =>
    have hbound : (Operator.bound bound == Operator.bound bound') = (bound == bound') := by
      rw [Bool.eq_iff_iff, beq_iff_eq, beq_iff_eq, Operator.bound.injEq]
    rw [same, hbound]
  case missing.missing =>
    show (field == field') = (field == field' && true && true)
    rw [Bool.and_true, Bool.and_true]
  all_goals simp [same]

theorem eq_anyOf_of_test (h : a.test? = none) : ∃ branches, a = anyOf branches := by
  cases a with
  | anyOf branches => exact ⟨branches, rfl⟩
  | _ => cases h

theorem disjunction_same (branches branches' : List Artifact) :
    (anyOf branches).node.same (anyOf branches').node =
      Value.sameAll (nodes branches) (nodes branches') := by
  show (Value.object [(Operator.orKey, .list (nodes branches))]).same
    (.object [(Operator.orKey, .list (nodes branches'))]) = _
  rw [Node.object_single_same, beq_self_eq_true, Bool.true_and]
  rfl

theorem disjunction_inj {branches branches' : List Artifact}
    (h : (anyOf branches).node = (anyOf branches').node) : nodes branches = nodes branches' := by
  simpa [node, Value.object] using h

theorem node_same_of_test (h : a.test? = some (field, op, v)) :
    a.node.same b.node = a.same b ∧ b.node.same a.node = b.same a := by
  rw [node_of_test h]
  cases hb : b.test? with
  | some t =>
    obtain ⟨field', op', w⟩ := t
    rw [node_of_test hb, Node.test_same, Node.test_same, same_of_tests h hb, same_of_tests hb h]
    exact ⟨rfl, rfl⟩
  | none =>
    obtain ⟨branches, rfl⟩ := eq_anyOf_of_test hb
    have hkinds : a.same (anyOf branches) = false ∧ (anyOf branches).same a = false := by
      cases a <;> cases h <;> exact ⟨rfl, rfl⟩
    rw [hkinds.1, hkinds.2]
    exact ⟨Node.test_same_disjunction field op v _, Node.disjunction_same_test field op v _⟩

theorem eq_of_node_eq_test (h : a.test? = some (field, op, v)) (hnode : a.node = b.node) :
    a = b := by
  rw [node_of_test h] at hnode
  cases hb : b.test? with
  | some t =>
    obtain ⟨field', op', w⟩ := t
    rw [node_of_test hb] at hnode
    obtain ⟨rfl, rfl, rfl⟩ := Node.test_inj hnode
    exact eq_of_test h hb
  | none =>
    obtain ⟨branches, rfl⟩ := eq_anyOf_of_test hb
    exact absurd hnode (Node.test_ne_disjunction field op v _)

/-! ## Trees of artifacts

By induction on the first tree. Two choices are compared branch by branch; where one of the two is
no choice, its test of one field settles the matter. -/

mutual

theorem node_same (a b : Artifact) : a.node.same b.node = a.same b := by
  match a with
  | term field value => exact (node_same_of_test rfl).1
  | range field bound value => exact (node_same_of_test rfl).1
  | missing field => exact (node_same_of_test rfl).1
  | anyOf branches =>
    cases hb : b.test? with
    | some t => exact (node_same_of_test hb).2
    | none =>
      obtain ⟨branches', rfl⟩ := eq_anyOf_of_test hb
      rw [disjunction_same, nodes_same branches branches', same]
termination_by structural a

theorem nodes_same (as bs : List Artifact) :
    Value.sameAll (nodes as) (nodes bs) = sameAll as bs := by
  match as, bs with
  | [], [] => rfl
  | [], b :: bs => rfl
  | a :: as, [] => rfl
  | a :: as, b :: bs =>
    show ((a.node.same b.node && Value.sameAll (nodes as) (nodes bs))) = _
    rw [node_same a b, nodes_same as bs, sameAll]
termination_by structural as

end

mutual

theorem node_inj (a b : Artifact) (h : a.node = b.node) : a = b := by
  match a with
  | term field value => exact eq_of_node_eq_test rfl h
  | range field bound value => exact eq_of_node_eq_test rfl h
  | missing field => exact eq_of_node_eq_test rfl h
  | anyOf branches =>
    cases hb : b.test? with
    | some t => exact (eq_of_node_eq_test hb h.symm).symm
    | none =>
      obtain ⟨branches', rfl⟩ := eq_anyOf_of_test hb
      rw [nodes_inj branches branches' (disjunction_inj h)]
termination_by structural a

theorem nodes_inj (as bs : List Artifact) (h : nodes as = nodes bs) : as = bs := by
  match as, bs with
  | [], [] => rfl
  | [], b :: bs => cases h
  | a :: as, [] => cases h
  | a :: as, b :: bs =>
    obtain ⟨hnode, hrest⟩ := List.cons.inj h
    rw [node_inj a b hnode, nodes_inj as bs hrest]
termination_by structural as

end

/-- The node is a faithful encoding: artifacts are the same exactly if their nodes are, and no two
artifacts have one node. -/
theorem node_faithful (a b : Artifact) :
    (a.same b = true ↔ a.node.same b.node = true) ∧ (a = b ↔ a.node = b.node) := by
  constructor
  · rw [node_same]
  · constructor
    · intro h
      rw [h]
    · exact node_inj a b

end Artifact

end FieldQuery
