import FieldQuery.Proofs.Node.Meaning

/-!
# Which nodes are refused

What is modelled. The operators that a reader of a node comes across, in order and each with its
field (`Node.uses`), and the first of them that is none of the six known ones
(`Node.firstUnsupported`). The walk is written apart from both compilers and from their tables of
operators.

What is proved. `Failure.Decides` says of a result that it is decided by the first unsupported
operator of a list of uses; it goes along with joining results, and so with reading
(`Condition.read_decides`). On nodes with texts for keys both backends therefore fail on exactly
this operator and on nothing else, and report it as an invalid field with the same words
(`backends_reject_alike`); only the operators that their messages list may differ.

Nothing is assumed about what stands beside a joining key, or about operands. Keys that are no texts
are left out, since only one of the backends takes them.
-/

namespace FieldQuery

namespace Node

/-- The operators under one field. -/
def fieldUses (entry : Value × Value) : List (Value × Value) :=
  match entry.2 with
  | .dict tests => tests.map fun t => (entry.1, t.1)
  | _ => []

mutual

/-- The fields and operators that a node is made of, from left to right and branch by branch. A
conjunction hides a disjunction and fields beside it, a disjunction hides fields. -/
def uses : Value → List (Value × Value)
  | .dict entries =>
    match usesUnder Operator.andKey entries with
    | some us => us
    | none =>
      match usesUnder Operator.orKey entries with
      | some us => us
      | none => entries.flatMap fieldUses
  | _ => []
termination_by structural v => v

def usesUnder (key : String) : List (Value × Value) → Option (List (Value × Value))
  | [] => none
  | (k, v) :: entries => if k.isText key then some (usesOfBranches v) else usesUnder key entries
termination_by structural entries => entries

def usesOfBranches : Value → List (Value × Value)
  | .list nodes => usesOfAll nodes
  | _ => []
termination_by structural v => v

def usesOfAll : List Value → List (Value × Value)
  | [] => []
  | node :: nodes => uses node ++ usesOfAll nodes
termination_by structural nodes => nodes

end

/-- Whether a key is none of the six operators. -/
def unsupported (key : Value) : Bool :=
  !(["$eq", "$lt", "$lte", "$gt", "$gte", "$exists"].any key.isText)

/-- The first operator of a node that is not supported, with its field. -/
def firstUnsupported (node : Value) : Option (Value × Value) :=
  (uses node).find? fun u => unsupported u.2

/-- All keys are texts, and joining keys hold lists of such nodes. -/
inductive Keyed : Value → Prop
  | dict {entries : List (Value × Value)} (keys : ∀ e ∈ entries, ∃ s, e.1.text? = some s)
      (lists : ∀ e ∈ entries, e.1.isJoiningKey = true → ∃ nodes, e.2 = .list nodes)
      (branches : ∀ e ∈ entries, e.1.isJoiningKey = true → ∀ nodes, e.2 = .list nodes →
        ∀ node ∈ nodes, Keyed node) :
      Keyed (.dict entries)

theorem Keyed.exists_dict {node : Value} (h : Keyed node) : ∃ entries, node = .dict entries := by
  cases h with
  | @dict entries => exact ⟨entries, rfl⟩

/-- A dict of fields is keyed whatever stands under them. -/
theorem Keyed.fields {entries : List (Value × Value)}
    (keys : ∀ e ∈ entries, ∃ s, e.1.text? = some s)
    (h : ∀ e ∈ entries, e.1.isJoiningKey = false) : Keyed (.dict entries) := by
  refine .dict keys (fun e he hj => ?_) (fun e he hj => ?_)
  · rw [h e he] at hj
    exact absurd hj Bool.false_ne_true
  · rw [h e he] at hj
    exact absurd hj Bool.false_ne_true

theorem isJoiningKey_of_isText {key : Value} {s : String}
    (hs : s = Operator.andKey ∨ s = Operator.orKey) (h : key.isText s = true) :
    key.isJoiningKey = true := by
  rw [Value.isJoiningKey, Bool.or_eq_true]
  rcases hs with rfl | rfl
  · exact Or.inl h
  · exact Or.inr h

theorem ofKey?_eq_none_iff (key : Value) :
    Operator.ofKey? key = none ↔ unsupported key = true := by
  unfold Operator.ofKey? unsupported
  cases h : key.text? with
  | none => simp [Value.isText, h]
  | some s =>
    have htext (t : String) : key.isText t = (s == t) := by rw [Value.isText, h]; rfl
    rw [Option.bind_some, Operator.ofText?, List.find?_eq_none]
    -- both sides list the same six texts, in different orders
    simp only [Operator.all, Operator.text, Bound.text, htext, List.any_cons, List.any_nil,
      List.forall_mem_cons, List.not_mem_nil, false_implies, implies_true, and_true, beq_iff_eq,
      String.reduceAppend, Bool.or_false, Bool.not_or, Bool.and_eq_true, Bool.not_eq_eq_eq_not,
      Bool.not_true, beq_eq_false_iff_ne, ne_eq]
    grind

end Node

/-! ## Reading ends at the first unsupported operator -/

/-- The result of going through `uses`: a failure at the first that is unsupported, if there is one,
and success if there is none. -/
def Failure.Decides {γ : Type} (supported : List String) (uses : List (Value × Value))
    (r : Except Failure γ) : Prop :=
  match uses.find? fun u => Node.unsupported u.2 with
  | none => ∃ c, r = .ok c
  | some (field, op) => r = .error (.unsupportedOperator field op supported)

namespace Failure.Decides

variable {β γ δ : Type} {supported : List String} {us us' : List (Value × Value)}

theorem ok (c : γ) : Decides supported [] (.ok c : Except Failure γ) := ⟨c, rfl⟩

theorem map {r : Except Failure γ} (f : γ → δ) (h : Decides supported us r) :
    Decides supported us (r.map f) := by
  unfold Decides at h ⊢
  split at h
  · obtain ⟨c, rfl⟩ := h
    exact ⟨f c, rfl⟩
  · rw [h]
    rfl

/-- One part after the other: the second is not looked at when the first fails. -/
theorem append {r : Except Failure β} {r' : Except Failure γ} (f : β → γ → δ)
    (h : Decides supported us r) (h' : Decides supported us' r') :
    Decides supported (us ++ us') (r.bind fun c => r'.map (f c)) := by
  unfold Decides at h h' ⊢
  rw [List.find?_append]
  cases hu : us.find? fun u => Node.unsupported u.2 with
  | some u =>
    rw [hu] at h
    rw [h]
    rfl
  | none =>
    rw [hu] at h
    obtain ⟨c, rfl⟩ := h
    rw [Option.none_or]
    split at h'
    · obtain ⟨cs, rfl⟩ := h'
      exact ⟨f c cs, rfl⟩
    · rw [h']
      rfl

end Failure.Decides

open Failure (Decides)

namespace Condition

variable {α : Type} {d : Dialect α} {name : α → String}

theorem readTests_cons {key k operand : Value} {op : Operator} {entries : List (Value × Value)}
    (hop : Operator.ofKey? k = some op) :
    readTests d key ((k, operand) :: entries) =
      (readTests d key entries).map (⟨op, operand⟩ :: ·) := by
  rw [readTests, d.agrees, hop]
  cases readTests d key entries <;> rfl

theorem readFields_cons (e : Value × Value) (entries : List (Value × Value)) :
    readFields d (e :: entries) =
      (readField d e.1 e.2).bind fun f => (readFields d entries).map (f :: ·) := by
  rw [readFields]
  cases readField d e.1 e.2 with
  | error e => rfl
  | ok f => cases readFields d entries <;> rfl

theorem readAll_cons (node : Value) (nodes : List Value) :
    readAll d (node :: nodes) = (read d node).bind fun c => (readAll d nodes).map (c :: ·) := by
  rw [readAll]
  cases read d node with
  | error e => rfl
  | ok c => cases readAll d nodes <;> rfl

theorem readTests_decides (key : Value) (entries : List (Value × Value)) :
    Decides d.supported (entries.map fun t => (key, t.1)) (readTests d key entries) := by
  induction entries with
  | nil => exact .ok []
  | cons e entries ih =>
    obtain ⟨k, operand⟩ := e
    rw [List.map_cons]
    cases hop : Operator.ofKey? k with
    | none =>
      have hk : Node.unsupported k = true := (Node.ofKey?_eq_none_iff k).mp hop
      rw [readTests, d.agrees, hop]
      simp only [Decides, List.find?_cons, hk]
    | some op =>
      have hk : Node.unsupported k = false := by
        rw [← Bool.not_eq_true, ← Node.ofKey?_eq_none_iff, hop]
        exact Option.some_ne_none op
      rw [readTests_cons hop]
      simp only [Decides, List.find?_cons, hk]
      exact ih.map _

theorem readField_decides (hd : d.Names name) {key : Value} (hkey : ∃ s, key.text? = some s)
    (value : Value) :
    Decides d.supported (Node.fieldUses (key, value)) (readField d key value) := by
  obtain ⟨s, hs⟩ := hkey
  obtain ⟨a, ha, -⟩ := hd key s hs
  unfold readField
  rw [ha]
  cases value with
  | dict entries => exact (readTests_decides key entries).map _
  | _ => exact .ok _

theorem readFields_decides (hd : d.Names name) (entries : List (Value × Value))
    (h : ∀ e ∈ entries, ∃ s, e.1.text? = some s) :
    Decides d.supported (entries.flatMap Node.fieldUses) (readFields d entries) := by
  induction entries with
  | nil => exact .ok []
  | cons e entries ih =>
    have hhead := readField_decides hd (h e List.mem_cons_self) e.2
    have htail := ih fun e he => h e (List.mem_cons_of_mem _ he)
    rw [List.flatMap_cons, readFields_cons]
    exact hhead.append List.cons htail

theorem readAll_decides (nodes : List Value)
    (h : ∀ node ∈ nodes, Decides d.supported (Node.uses node) (read d node)) :
    Decides d.supported (Node.usesOfAll nodes) (readAll d nodes) := by
  induction nodes with
  | nil => exact .ok []
  | cons node nodes ih =>
    have htail := ih fun n hn => h n (List.mem_cons_of_mem _ hn)
    rw [Node.usesOfAll, readAll_cons]
    exact (h node List.mem_cons_self).append List.cons htail

/-- What stands under a joining key is read exactly when the key is there. -/
theorem readUnder_decides (key : String) (entries : List (Value × Value))
    (h : ∀ e ∈ entries, e.1.isText key = true → ∃ nodes, e.2 = .list nodes ∧
      ∀ node ∈ nodes, Decides d.supported (Node.uses node) (read d node)) :
    (Node.usesUnder key entries = none ∧ readUnder d key entries = none) ∨
      ∃ us r, Node.usesUnder key entries = some us ∧ readUnder d key entries = some r ∧
        Decides d.supported us r := by
  induction entries with
  | nil => exact Or.inl ⟨rfl, rfl⟩
  | cons e entries ih =>
    obtain ⟨k, v⟩ := e
    rw [Node.usesUnder, readUnder]
    by_cases hk : k.isText key = true
    · obtain ⟨nodes, hv, hnodes⟩ := h (k, v) List.mem_cons_self hk
      obtain rfl : v = .list nodes := hv
      rw [if_pos hk, if_pos hk]
      exact Or.inr ⟨_, _, rfl, rfl, readAll_decides nodes hnodes⟩
    · rw [if_neg hk, if_neg hk]
      exact ih fun e he => h e (List.mem_cons_of_mem _ he)

/-- A node with texts for keys is read, unless it has an unsupported operator: then the first one is
what reading fails on. -/
theorem read_decides (hd : d.Names name) {node : Value} (h : Node.Keyed node) :
    Decides d.supported (Node.uses node) (read d node) := by
  induction h with
  | @dict entries keys lists _ ih =>
    have hunder (key : String) (hkey : key = Operator.andKey ∨ key = Operator.orKey) :=
      readUnder_decides (d := d) key entries fun e he htext => by
        have hjoin := Node.isJoiningKey_of_isText hkey htext
        obtain ⟨nodes, hnodes⟩ := lists e he hjoin
        exact ⟨nodes, hnodes, ih e he hjoin nodes hnodes⟩
    by_cases hnil : entries = []
    · subst hnil
      exact .ok Condition.always
    rw [Node.uses, read, List.isEmpty_eq_false_iff.mpr hnil, if_neg Bool.false_ne_true]
    rcases hunder _ (Or.inl rfl) with ⟨hu, hr⟩ | ⟨us, r, hu, hr, hdec⟩
    · rw [hu, hr]
      dsimp only
      rcases hunder _ (Or.inr rfl) with ⟨hu, hr⟩ | ⟨us, r, hu, hr, hdec⟩
      · rw [hu, hr]
        exact (readFields_decides hd entries keys).map _
      · rw [hu, hr]
        exact hdec.map _
    · rw [hu, hr]
      exact hdec.map _

end Condition

/-! ## Both backends -/

theorem Elastic.compile_decides {node : Value} (h : Node.Keyed node) :
    Decides Elastic.operators (Node.uses node) (Backend.elastic.where? (.value node)) := by
  obtain ⟨entries, rfl⟩ := h.exists_dict
  exact ((Condition.read_decides Elastic.dialect_names h).map _).map _

theorem Sql.compile_decides {node : Value} (h : Node.Keyed node) :
    Decides Sql.dialect.supported (Node.uses node) (Backend.sql.where? (.value node)) := by
  obtain ⟨entries, rfl⟩ := h.exists_dict
  exact ((Condition.read_decides Sql.dialect_names h).map _).map _

theorem Failure.Decides.ok_iff {γ : Type} {supported : List String} {node : Value}
    {r : Except Failure γ} (h : Decides supported (Node.uses node) r) :
    (∃ c, r = .ok c) ↔ Node.firstUnsupported node = none := by
  unfold Decides at h
  unfold Node.firstUnsupported
  split at h
  · next hu => exact ⟨fun _ => hu, fun _ => h⟩
  · next hu =>
    rw [h, hu]
    simp

theorem Failure.Decides.error_of_some {γ : Type} {supported : List String}
    {node field op : Value} {r : Except Failure γ} (h : Decides supported (Node.uses node) r)
    (hu : Node.firstUnsupported node = some (field, op)) :
    r = .error (.unsupportedOperator field op supported) := by
  unfold Node.firstUnsupported at hu
  unfold Decides at h
  rw [hu] at h
  exact h

/-- On a node with texts for keys the two backends succeed together, namely when no operator is
unsupported. Otherwise both fail on the first unsupported operator, and report it as an invalid
field with the name of the field among the details. -/
theorem backends_reject_alike {node : Value} (h : Node.Keyed node) :
    ((∃ query, Backend.elastic.where? (.value node) = .ok query) ↔
      ∃ clause, Backend.sql.where? (.value node) = .ok clause) ∧
    ((∃ query, Backend.elastic.where? (.value node) = .ok query) ↔
      Node.firstUnsupported node = none) ∧
    ∀ field op, Node.firstUnsupported node = some (field, op) →
      Backend.elastic.where? (.value node) =
        .error (.unsupportedOperator field op Elastic.operators) ∧
      Backend.sql.where? (.value node) =
        .error (.unsupportedOperator field op Sql.dialect.supported) ∧
      ∀ supported, (Failure.unsupportedOperator field op supported).complaint? =
        some ⟨.invalidField,
          "Operator " ++ op.display ++ " is not supported. Supported: " ++
            ", ".intercalate supported,
          [("field", field), ("operation", .str "compile")]⟩ := by
  have he := Elastic.compile_decides h
  have hs := Sql.compile_decides h
  refine ⟨he.ok_iff.trans hs.ok_iff.symm, he.ok_iff, fun field op hu => ⟨?_, ?_, fun _ => rfl⟩⟩
  · exact he.error_of_some hu
  · exact hs.error_of_some hu

/-- The statement at a node with an unsupported operator beside the branches, before the one that
decides, and another after it. -/
theorem backends_reject_alike_nested :
    Backend.elastic.where? (.value (.object [("e", .object [("$foo", .int 1)]), ("$or", .list [
        .object [("a", .int 1)],
        .object [("b", .object [("$lt", .int 2), ("$regex", .str "x"), ("$in", .list [])])]])])) =
      .error (.unsupportedOperator (.str "b") (.str "$regex") Elastic.operators) ∧
    Backend.sql.where? (.value (.object [("e", .object [("$foo", .int 1)]), ("$or", .list [
        .object [("a", .int 1)],
        .object [("b", .object [("$lt", .int 2), ("$regex", .str "x"), ("$in", .list [])])]])])) =
      .error (.unsupportedOperator (.str "b") (.str "$regex") Sql.dialect.supported) := by
  have hfield (field : String) (operand : Value)
      (h : (.str field : Value).isJoiningKey = false) : Node.Keyed (.object [(field, operand)]) :=
    .fields (by simp [Value.text?]) (by simp [h])
  have hnode : Node.Keyed (.object [("e", .object [("$foo", .int 1)]), ("$or", .list [
      .object [("a", .int 1)],
      .object [("b", .object [("$lt", .int 2), ("$regex", .str "x"), ("$in", .list [])])]])]) := by
    have he : (.str "e" : Value).isJoiningKey = false := by decide
    refine .dict (by simp [Value.text?]) (by simp [he]) ?_
    simp [he, hfield "a" _ (by decide), hfield "b" _ (by decide)]
  obtain ⟨-, -, h⟩ := backends_reject_alike hnode
  exact ⟨(h _ _ rfl).1, (h _ _ rfl).2.1⟩

end FieldQuery
