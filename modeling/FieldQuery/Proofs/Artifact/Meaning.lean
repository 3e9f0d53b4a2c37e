import FieldQuery.Proofs.Node.Meaning

/-!
# What artifacts mean

What is modelled. An artifact means one atom, the absence of a field, or a choice between such,
under an assignment of truth to atoms (`Artifact.holds`). It is proper when no field in it is a
joining key and every choice has a branch.

What is proved.
* `Artifact.node_formed`: the node of a proper artifact is formed in the strict sense and has the
  same meaning.
* `Node.merge_formed`: merging formed nodes gives a formed node that means their conjunction. Empty
  nodes are dropped since everything matches them, and one node alone needs no joining key.

Improper artifacts have nodes as well, but not all of these can be compiled; they are left to the
account of which composites can be.
-/

namespace FieldQuery

namespace Artifact

mutual

/-- Whether an artifact holds. -/
def holds (σ : Assignment String Value) : Artifact → Bool
  | term field value => σ.test field .eq value
  | range field bound value => σ.test field (.bound bound) value
  | missing field => !σ.present field
  | anyOf branches => (holdsEach σ branches).any id
termination_by structural a => a

def holdsEach (σ : Assignment String Value) : List Artifact → List Bool
  | [] => []
  | a :: as => holds σ a :: holdsEach σ as
termination_by structural as => as

end

theorem holdsEach_eq_map (σ : Assignment String Value) (as : List Artifact) :
    holdsEach σ as = as.map (holds σ) := by
  induction as with
  | nil => rfl
  | cons a as ih => rw [holdsEach, ih, List.map_cons]

theorem nodes_eq_map (as : List Artifact) : nodes as = as.map node := by
  induction as with
  | nil => rfl
  | cons a as ih => rw [nodes, ih, List.map_cons]

mutual

/-- The fields that an artifact names. -/
def fields : Artifact → List String
  | term field _ => [field]
  | range field _ _ => [field]
  | missing field => [field]
  | anyOf branches => fieldsEach branches
termination_by structural a => a

def fieldsEach : List Artifact → List String
  | [] => []
  | a :: as => fields a ++ fieldsEach as
termination_by structural as => as

end

theorem fieldsEach_eq_flatMap (as : List Artifact) : fieldsEach as = as.flatMap fields := by
  induction as with
  | nil => rfl
  | cons a as ih => rw [fieldsEach, ih, List.flatMap_cons]

/-- A field that is no joining key. -/
def PlainField (field : String) : Prop := field ≠ Operator.andKey ∧ field ≠ Operator.orKey

instance (field : String) : Decidable (PlainField field) := inferInstanceAs (Decidable (_ ∧ _))

theorem PlainField.notJoining {field : String} (h : PlainField field) :
    (.str field : Value).isJoiningKey = false := by
  rw [Value.isJoiningKey, Bool.or_eq_false_iff]
  exact ⟨beq_eq_false_iff_ne.mpr fun heq => h.1 (Option.some.inj heq),
    beq_eq_false_iff_ne.mpr fun heq => h.2 (Option.some.inj heq)⟩

/-- No field is a joining key, and every choice has a branch. -/
inductive Proper : Artifact → Prop
  | term {field : String} (h : PlainField field) (value : Value) : Proper (.term field value)
  | range {field : String} (h : PlainField field) (bound : Bound) (value : Value) :
      Proper (.range field bound value)
  | missing {field : String} (h : PlainField field) : Proper (.missing field)
  | anyOf {branches : List Artifact} (hne : branches ≠ []) (h : ∀ a ∈ branches, Proper a) :
      Proper (.anyOf branches)

end Artifact

namespace Operator

theorem ofText?_text (op : Operator) : ofText? op.text = some op := by
  cases op with
  | eq => decide
  | bound b => cases b <;> decide
  | exist => decide

end Operator

namespace Node

theorem test_formed (strict : Bool) {field : String} (h : Artifact.PlainField field)
    (op : Operator) (operand : Value) : Formed strict (test field op operand) := by
  have hfield : FormedField strict (.str field, .object [(op.text, operand)]) := by
    refine .operators h.notJoining ?_ fun _ => List.cons_ne_nil _ _
    intro t ht
    obtain rfl : t = (op.text, operand) := List.mem_singleton.mp ht
    rw [Operator.ofText?_text]
    rfl
  refine .fields fun e he => ?_
  obtain rfl : e = (Value.str field, Value.object [(op.text, operand)]) := List.mem_singleton.mp he
  exact hfield

theorem test_holds (σ : Assignment String Value) {field : String} (h : Artifact.PlainField field)
    (op : Operator) (operand : Value) :
    holds σ (test field op operand) = Test.holds σ field ⟨op, operand⟩ := by
  have hop : Operator.ofKey? (.str op.text : Value) = some op := Operator.ofText?_text op
  have hnode : holds σ (test field op operand) =
      holdsEntries σ [(.str field, .dict [(.str op.text, operand)])] := rfl
  have htest : testHolds σ field (.str op.text, operand) = Test.holds σ field ⟨op, operand⟩ := by
    rw [testHolds, hop]
  rw [hnode, holdsEntries_of_fields σ _ (List.forall_mem_singleton.mpr h.notJoining),
    List.all_cons, List.all_nil, Bool.and_true]
  change fieldHolds σ field (.dict [(.str op.text, operand)]) = _
  rw [fieldHolds, List.all_cons, List.all_nil, Bool.and_true, htest]

end Node

namespace Artifact

/-- The node of a proper artifact is formed and means what the artifact means. -/
theorem node_formed {a : Artifact} (h : a.Proper) :
    Node.Formed true a.node ∧ ∀ σ, Node.holds σ a.node = a.holds σ := by
  induction h with
  | term h value =>
    exact ⟨Node.test_formed true h .eq value, fun σ => Node.test_holds σ h .eq value⟩
  | range h bound value =>
    exact ⟨Node.test_formed true h (.bound bound) value,
      fun σ => Node.test_holds σ h (.bound bound) value⟩
  | missing h =>
    refine ⟨Node.test_formed true h .exist (.bool false), fun σ => ?_⟩
    rw [node, Node.test_holds σ h, holds]
    exact beq_false _
  | @anyOf branches hne _ ih =>
    refine ⟨?_, fun σ => ?_⟩
    · refine .any rfl (fun _ hnil => hne ?_) ?_
      · rwa [nodes_eq_map, List.map_eq_nil_iff] at hnil
      · intro n hn
        rw [nodes_eq_map] at hn
        obtain ⟨a, ha, rfl⟩ := List.mem_map.mp hn
        exact (ih a ha).1
    · have hbranches : (nodes branches).map (Node.holds σ) = branches.map (holds σ) := by
        rw [nodes_eq_map, List.map_map]
        exact List.map_congr_left fun a ha => (ih a ha).2 σ
      have hnode : Node.holds σ (anyOf branches).node =
          ((Node.holdsEach σ (nodes branches)).any id && true) := rfl
      rw [hnode, Node.holdsEach_eq_map, hbranches, Bool.and_true, holds, holdsEach_eq_map]

end Artifact

/-! ## Merging -/

namespace Node

theorem formed_truthy {strict : Bool} {node : Value} (h : Formed strict node) :
    node.truthy = false → node = .dict [] := by
  obtain ⟨entries, rfl⟩ := h.exists_dict
  cases entries with
  | nil => exact fun _ => rfl
  | cons e entries => exact fun hfalse => absurd hfalse (by simp [Value.truthy])

/-- Dropping empty nodes does not change a conjunction. -/
theorem all_holds_truthy {strict : Bool} (σ : Assignment String Value) (nodes : List Value)
    (h : ∀ node ∈ nodes, Formed strict node) :
    (nodes.filter Value.truthy).all (holds σ) = nodes.all (holds σ) := by
  induction nodes with
  | nil => rfl
  | cons node nodes ih =>
    have ih := ih fun n hn => h n (List.mem_cons_of_mem _ hn)
    by_cases ht : node.truthy = true
    · rw [List.filter_cons_of_pos ht, List.all_cons, List.all_cons, ih]
    · have hempty : node = .dict [] :=
        formed_truthy (h node List.mem_cons_self) (Bool.not_eq_true _ ▸ ht)
      rw [List.filter_cons_of_neg ht, ih, List.all_cons, hempty]
      rfl

/-- Merged nodes are formed and mean their conjunction. -/
theorem merge_formed {strict : Bool} (nodes : List Value)
    (h : ∀ node ∈ nodes, Formed strict node) :
    Formed strict (merge nodes) ∧ ∀ σ, holds σ (merge nodes) = nodes.all (holds σ) := by
  have hkept : ∀ node ∈ nodes.filter Value.truthy, Formed strict node := fun node hn =>
    h node (List.mem_filter.mp hn).1
  have hall := fun σ => all_holds_truthy σ nodes h
  unfold merge
  split
  · rename_i hnil
    refine ⟨formed_empty strict, fun σ => ?_⟩
    rw [← hall, hnil]
    rfl
  · rename_i node hone
    rw [hone] at hkept
    refine ⟨hkept node List.mem_cons_self, fun σ => ?_⟩
    rw [← hall, hone, List.all_cons, List.all_nil, Bool.and_true]
  · rename_i hnil _
    refine ⟨.all rfl (fun _ => hnil) hkept, fun σ => ?_⟩
    have hnode : holds σ (.object [(Operator.andKey, .list (nodes.filter Value.truthy))]) =
        ((holdsEach σ (nodes.filter Value.truthy)).all id && true) := rfl
    rw [hnode, holdsEach_eq_map, Bool.and_true, List.all_map, ← hall]
    rfl

end Node

end FieldQuery
