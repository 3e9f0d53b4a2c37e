import FieldQuery.Backend

/-!
# What nodes mean

What is modelled. The meaning of a node under a truth assignment to atoms: an atom is a test of one
field with one operator and one operand, or says that a field has a value. A node means the
conjunction of all its entries, whatever keys they stand under (`Node.holds`); nothing here looks at
how a node is read or compiled. `Node.Formed` marks the nodes whose meaning the backends keep: a
joining key stands alone in its dict, and all other keys are texts with supported operators under
them.

What is proved. A formed node is read, by every dialect that names fields, to a condition of the
same meaning (`Condition.read_formed`), and to one without empty joins if it is formed in the strict
sense, which is what texts of SQL need.

An assignment may judge tests as it likes: nothing ties equality to the bounds, or either to the
presence of a field. Joining keys beside other entries are left to the account of precedence.
-/

namespace FieldQuery

/-- A truth assignment to tests of fields `φ` against operands `β` and to the presence of fields. -/
structure Assignment (φ β : Type) where
  test : φ → Operator → β → Bool
  present : φ → Bool

/-- The assignment that sees fields and operands through two functions. -/
def Assignment.comap {φ φ' β β' : Type} (f : φ' → φ) (g : β' → β) (σ : Assignment φ β) :
    Assignment φ' β' :=
  ⟨fun field op operand => σ.test (f field) op (g operand), fun field => σ.present (f field)⟩

/-- An existence test with an operand that counts as false asks for a field without a value. -/
def Test.holds {φ : Type} (σ : Assignment φ Value) (field : φ) (t : Test) : Bool :=
  match t.operator with
  | .exist => σ.present field == t.operand.truthy
  | op => σ.test field op t.operand

theorem Test.holds_comap {φ φ' : Type} (f : φ' → φ) (σ : Assignment φ Value) (field : φ') :
    Test.holds (σ.comap f id) field = Test.holds σ (f field) := by
  funext ⟨op, operand⟩
  cases op <;> rfl

/-- What a test compares a field with; an existence test compares it with nothing. -/
def Test.compared? (t : Test) : Option Value :=
  match t.operator with
  | .exist => none
  | _ => some t.operand

/-! ## Conditions -/

namespace Condition

variable {α : Type}

mutual

/-- Whether a condition holds. -/
def holds (σ : Assignment α Value) : Condition α → Bool
  | .always => true
  | .all branches => (holdsEach σ branches).all id
  | .any branches => (holdsEach σ branches).any id
  | .fields entries => entries.all fun e => e.2.all (Test.holds σ e.1)
termination_by structural c => c

def holdsEach (σ : Assignment α Value) : List (Condition α) → List Bool
  | [] => []
  | c :: cs => holds σ c :: holdsEach σ cs
termination_by structural cs => cs

end

theorem holdsEach_eq_map (σ : Assignment α Value) (cs : List (Condition α)) :
    holdsEach σ cs = cs.map (holds σ) := by
  induction cs with
  | nil => rfl
  | cons c cs ih => rw [holdsEach, ih, List.map_cons]

mutual

/-- The comparisons in a condition, in order: fields with what they are compared with. -/
def comparisons : Condition α → List (α × Value)
  | .always => []
  | .all branches => comparisonsEach branches
  | .any branches => comparisonsEach branches
  | .fields entries => entries.flatMap fun e => (e.2.filterMap Test.compared?).map (e.1, ·)
termination_by structural c => c

def comparisonsEach : List (Condition α) → List (α × Value)
  | [] => []
  | c :: cs => comparisons c ++ comparisonsEach cs
termination_by structural cs => cs

end

theorem comparisonsEach_eq_flatMap (cs : List (Condition α)) :
    comparisonsEach cs = cs.flatMap comparisons := by
  induction cs with
  | nil => rfl
  | cons c cs ih => rw [comparisonsEach, ih, List.flatMap_cons]

/-- No conjunction, disjunction or list of tests in the condition is empty. -/
inductive Whole : Condition α → Prop
  | always : Whole .always
  | all {branches : List (Condition α)} (hne : branches ≠ []) (h : ∀ c ∈ branches, Whole c) :
      Whole (.all branches)
  | any {branches : List (Condition α)} (hne : branches ≠ []) (h : ∀ c ∈ branches, Whole c) :
      Whole (.any branches)
  | fields {entries : List (α × List Test)} (hne : entries ≠ []) (h : ∀ e ∈ entries, e.2 ≠ []) :
      Whole (.fields entries)

end Condition

/-! ## Nodes -/

/-- The field that a key names; only texts name one. -/
def Value.fieldName (key : Value) : String := key.text?.getD ""

namespace Node

/-- Whether an operator with its operand holds of a field. -/
def testHolds (σ : Assignment String Value) (field : String) (entry : Value × Value) : Bool :=
  match Operator.ofKey? entry.1 with
  | some op => Test.holds σ field ⟨op, entry.2⟩
  | none => true

/-- Whether what stands under a field holds: a dict of operators when each does, and any other value
when the field equals it. -/
def fieldHolds (σ : Assignment String Value) (field : String) : Value → Bool
  | .dict tests => tests.all (testHolds σ field)
  | operand => σ.test field .eq operand

mutual

/-- Whether a node holds: all its entries do. -/
def holds (σ : Assignment String Value) : Value → Bool
  | .dict entries => holdsEntries σ entries
  | _ => true
termination_by structural v => v

/-- Whether every entry holds: all branches of a conjunction, some branch of a disjunction, the
tests of a field. -/
def holdsEntries (σ : Assignment String Value) : List (Value × Value) → Bool
  | [] => true
  | (key, value) :: entries =>
    (if key.isText Operator.andKey then (holdsBranches σ value).all id
     else if key.isText Operator.orKey then (holdsBranches σ value).any id
     else fieldHolds σ key.fieldName value) && holdsEntries σ entries
termination_by structural entries => entries

def holdsBranches (σ : Assignment String Value) : Value → List Bool
  | .list nodes => holdsEach σ nodes
  | .tuple nodes => holdsEach σ nodes
  | _ => []
termination_by structural v => v

def holdsEach (σ : Assignment String Value) : List Value → List Bool
  | [] => []
  | node :: nodes => holds σ node :: holdsEach σ nodes
termination_by structural nodes => nodes

end

theorem holdsEach_eq_map (σ : Assignment String Value) (nodes : List Value) :
    holdsEach σ nodes = nodes.map (holds σ) := by
  induction nodes with
  | nil => rfl
  | cons node nodes ih => rw [holdsEach, ih, List.map_cons]

theorem holdsEntries_of_fields (σ : Assignment String Value) (entries : List (Value × Value))
    (h : ∀ e ∈ entries, e.1.isJoiningKey = false) :
    holdsEntries σ entries = entries.all fun e => fieldHolds σ e.1.fieldName e.2 := by
  induction entries with
  | nil => rfl
  | cons e entries ih =>
    obtain ⟨key, value⟩ := e
    have hk : key.isJoiningKey = false := h _ List.mem_cons_self
    rw [Value.isJoiningKey, Bool.or_eq_false_iff] at hk
    rw [holdsEntries, if_neg (by simp [hk.1]), if_neg (by simp [hk.2]),
      ih fun e he => h e (List.mem_cons_of_mem _ he), List.all_cons]

/-- What may stand under a field of a formed node. -/
structure FormedField (strict : Bool) (entry : Value × Value) : Prop where
  key : ∃ field, entry.1.text? = some field
  notJoining : entry.1.isJoiningKey = false
  known : ∀ tests, entry.2 = .dict tests → ∀ t ∈ tests, (Operator.ofKey? t.1).isSome
  tested : strict = true → entry.2 ≠ .dict []

/-- A joining key stands alone and holds a list of formed nodes; any other dict has texts for keys,
and plain operands or dicts of supported operators under them. A strict node has no empty list of
branches and no empty dict of operators. -/
inductive Formed (strict : Bool) : Value → Prop
  | all {key : Value} {nodes : List Value} (hkey : key.isText Operator.andKey = true)
      (hne : strict = true → nodes ≠ []) (h : ∀ node ∈ nodes, Formed strict node) :
      Formed strict (.dict [(key, .list nodes)])
  | any {key : Value} {nodes : List Value} (hkey : key.isText Operator.orKey = true)
      (hne : strict = true → nodes ≠ []) (h : ∀ node ∈ nodes, Formed strict node) :
      Formed strict (.dict [(key, .list nodes)])
  | fields {entries : List (Value × Value)} (h : ∀ e ∈ entries, FormedField strict e) :
      Formed strict (.dict entries)

/-- The node that everything matches. -/
theorem formed_empty (strict : Bool) : Formed strict (.dict []) :=
  .fields fun _ h => absurd h List.not_mem_nil

/-- A dict of operators under a field that is no joining key. -/
theorem FormedField.operators {strict : Bool} {field : String} {tests : List (String × Value)}
    (hfield : (.str field : Value).isJoiningKey = false)
    (hknown : ∀ t ∈ tests, (Operator.ofText? t.1).isSome)
    (hne : strict = true → tests ≠ []) :
    FormedField strict (.str field, .object tests) where
  key := ⟨field, rfl⟩
  notJoining := hfield
  known := by
    intro entries hentries t ht
    obtain rfl : tests.map (fun t => (Value.str t.1, t.2)) = entries := Value.dict.inj hentries
    obtain ⟨u, hu, rfl⟩ := List.mem_map.mp ht
    exact hknown u hu
  tested := fun hs hnil => hne hs (List.map_eq_nil_iff.mp (Value.dict.inj hnil))

/-- A plain operand under a field that is no joining key. -/
theorem FormedField.plain {strict : Bool} {field : String} {operand : Value}
    (hfield : (.str field : Value).isJoiningKey = false) (hplain : ∀ tests, operand ≠ .dict tests) :
    FormedField strict (.str field, operand) where
  key := ⟨field, rfl⟩
  notJoining := hfield
  known := fun tests htests => absurd htests (hplain tests)
  tested := fun _ => hplain []

theorem Formed.exists_dict {strict : Bool} {node : Value} (h : Formed strict node) :
    ∃ entries, node = .dict entries := by
  cases h <;> exact ⟨_, rfl⟩

/-- A formed node is an item as it stands. -/
theorem Formed.where?_eq {strict : Bool} {node : Value} (h : Formed strict node) (b : Backend) :
    b.where? (.value node) = b.compile node := by
  obtain ⟨entries, rfl⟩ := h.exists_dict
  rfl

theorem isText_andKey_of_orKey {key : Value} (h : key.isText Operator.orKey = true) :
    key.isText Operator.andKey = false := by
  rw [Value.isText, beq_iff_eq] at h
  rw [Value.isText, h]
  decide

end Node

/-! ## Reading keeps the meaning -/

/-- A dialect takes every text for a field, and `name` gives the text back. -/
def Dialect.Names {α : Type} (d : Dialect α) (name : α → String) : Prop :=
  ∀ key field, key.text? = some field → ∃ a, d.field key = .ok a ∧ name a = field

theorem Elastic.dialect_names : Elastic.dialect.Names Value.fieldName := fun key field h =>
  ⟨key, rfl, by rw [Value.fieldName, h, Option.getD_some]⟩

theorem Sql.dialect_names : Sql.dialect.Names id := fun key field h =>
  ⟨field, by simp only [Sql.dialect, Sql.fieldPath, h], rfl⟩

theorem ne_nil_of_length_eq {β γ : Type} {xs : List β} {ys : List γ}
    (hlen : xs.length = ys.length) (h : ys ≠ []) : xs ≠ [] := by
  intro hx
  rw [hx, List.length_nil] at hlen
  exact h (List.length_eq_zero_iff.mp hlen.symm)

namespace Condition

variable {α : Type} {d : Dialect α} {name : α → String}

theorem readTests_known (key : Value) (entries : List (Value × Value))
    (h : ∀ e ∈ entries, (Operator.ofKey? e.1).isSome) :
    ∃ tests, readTests d key entries = .ok tests ∧ tests.length = entries.length ∧
      ∀ σ field, tests.all (Test.holds σ field) = entries.all (Node.testHolds σ field) := by
  induction entries with
  | nil => exact ⟨[], rfl, rfl, fun _ _ => rfl⟩
  | cons e entries ih =>
    obtain ⟨k, operand⟩ := e
    obtain ⟨op, hop⟩ := Option.isSome_iff_exists.mp (h (k, operand) List.mem_cons_self)
    obtain ⟨tests, hread, hlen, hmean⟩ := ih fun e he => h e (List.mem_cons_of_mem _ he)
    refine ⟨⟨op, operand⟩ :: tests, ?_, by rw [List.length_cons, hlen, List.length_cons], ?_⟩
    · rw [readTests, d.agrees, hop, hread]
    · intro σ field
      have hhead : Node.testHolds σ field (k, operand) = Test.holds σ field ⟨op, operand⟩ := by
        rw [Node.testHolds, hop]
      rw [List.all_cons, List.all_cons, hhead, hmean]

theorem readField_formed (hd : d.Names name) {strict : Bool} {entry : Value × Value}
    (h : Node.FormedField strict entry) :
    ∃ e, readField d entry.1 entry.2 = .ok e ∧ (strict = true → e.2 ≠ []) ∧
      ∀ σ, e.2.all (Test.holds σ (name e.1)) = Node.fieldHolds σ entry.1.fieldName entry.2 := by
  obtain ⟨key, value⟩ := entry
  obtain ⟨field, hfield⟩ := h.key
  obtain ⟨a, ha, hname⟩ := hd key field hfield
  have hkey : name a = key.fieldName := by rw [hname, Value.fieldName, hfield, Option.getD_some]
  by_cases hdict : ∃ tests, value = .dict tests
  · obtain ⟨entries, rfl⟩ := hdict
    obtain ⟨tests, hread, hlen, hmean⟩ := readTests_known (d := d) key entries (h.known _ rfl)
    refine ⟨(a, tests), ?_, ?_, fun σ => ?_⟩
    · simp only [readField, ha, hread, Except.map]
    · intro hs hnil
      have hempty : entries.length = 0 := by rw [← hlen]; exact congrArg List.length hnil
      exact h.tested hs (by rw [List.length_eq_zero_iff.mp hempty])
    · rw [hmean, hkey]
      rfl
  · have hplain : readField d key value = .ok (a, [⟨.eq, value⟩]) := by
      unfold readField
      rw [ha]
      cases value <;> first | rfl | exact absurd ⟨_, rfl⟩ hdict
    refine ⟨(a, [⟨.eq, value⟩]), hplain, fun _ => List.cons_ne_nil _ _, fun σ => ?_⟩
    have hmean : Node.fieldHolds σ key.fieldName value = σ.test key.fieldName .eq value := by
      cases value <;> first | rfl | exact absurd ⟨_, rfl⟩ hdict
    rw [hmean, hkey, List.all_cons, List.all_nil, Bool.and_true]
    rfl

theorem readFields_formed (hd : d.Names name) {strict : Bool} (entries : List (Value × Value))
    (h : ∀ e ∈ entries, Node.FormedField strict e) :
    ∃ fs, readFields d entries = .ok fs ∧ fs.length = entries.length ∧
      (strict = true → ∀ e ∈ fs, e.2 ≠ []) ∧
      ∀ σ, (fs.all fun e => e.2.all (Test.holds σ (name e.1))) =
        entries.all fun e => Node.fieldHolds σ e.1.fieldName e.2 := by
  induction entries with
  | nil => exact ⟨[], rfl, rfl, fun _ _ he => absurd he List.not_mem_nil, fun _ => rfl⟩
  | cons entry entries ih =>
    obtain ⟨e, hread, hne, hmean⟩ := readField_formed hd (h entry List.mem_cons_self)
    obtain ⟨fs, hreads, hlen, hnes, hmeans⟩ := ih fun e he => h e (List.mem_cons_of_mem _ he)
    refine ⟨e :: fs, ?_, by rw [List.length_cons, hlen, List.length_cons], fun hs => ?_,
      fun σ => ?_⟩
    · rw [readFields, hread, hreads]
    · exact List.forall_mem_cons.mpr ⟨hne hs, hnes hs⟩
    · rw [List.all_cons, List.all_cons, hmean, hmeans]

theorem readUnder_single (key : Value) (s : String) (value : Value) :
    readUnder d s [(key, value)] = if key.isText s then some (readBranches d value) else none := by
  rw [readUnder, readUnder]

theorem readUnder_eq_none (s : String) (entries : List (Value × Value))
    (h : ∀ e ∈ entries, e.1.isText s = false) : readUnder d s entries = none := by
  induction entries with
  | nil => rw [readUnder]
  | cons e entries ih =>
    have hk : e.1.isText s = false := h e List.mem_cons_self
    rw [readUnder, if_neg (by rw [hk]; exact Bool.false_ne_true),
      ih fun e he => h e (List.mem_cons_of_mem _ he)]

/-- What `read` makes of a node: a condition of the same meaning, without empty parts if the node
has none. -/
def Renders (d : Dialect α) (name : α → String) (strict : Bool) (node : Value) : Prop :=
  ∃ c, read d node = .ok c ∧ (strict = true → c.Whole) ∧
    ∀ σ : Assignment String Value, c.holds (σ.comap name id) = Node.holds σ node

theorem readAll_renders {strict : Bool} (nodes : List Value)
    (h : ∀ node ∈ nodes, Renders d name strict node) :
    ∃ cs, readAll d nodes = .ok cs ∧ cs.length = nodes.length ∧
      (strict = true → ∀ c ∈ cs, c.Whole) ∧
      ∀ σ : Assignment String Value,
        holdsEach (σ.comap name id) cs = Node.holdsEach σ nodes := by
  induction nodes with
  | nil => exact ⟨[], rfl, rfl, fun _ _ hc => absurd hc List.not_mem_nil, fun _ => rfl⟩
  | cons node nodes ih =>
    obtain ⟨c, hread, hwhole, hmean⟩ := h node List.mem_cons_self
    obtain ⟨cs, hreads, hlen, hwholes, hmeans⟩ := ih fun n hn => h n (List.mem_cons_of_mem _ hn)
    refine ⟨c :: cs, ?_, by rw [List.length_cons, hlen, List.length_cons], fun hs => ?_,
      fun σ => ?_⟩
    · rw [readAll, hread, hreads]
    · exact List.forall_mem_cons.mpr ⟨hwhole hs, hwholes hs⟩
    · rw [holdsEach, Node.holdsEach, hmean, hmeans]

/-- A formed node is read to a condition of the same meaning. -/
theorem read_formed (hd : d.Names name) {strict : Bool} {node : Value}
    (h : Node.Formed strict node) : Renders d name strict node := by
  induction h with
  | @all key nodes hkey hne _ ih =>
    obtain ⟨cs, hread, hlen, hwhole, hmean⟩ := readAll_renders nodes ih
    refine ⟨.all cs, ?_, fun hs => .all (ne_nil_of_length_eq hlen (hne hs)) (hwhole hs),
      fun σ => ?_⟩
    · rw [read, readUnder_single, if_pos hkey, readBranches, hread]
      rfl
    · rw [holds, hmean, Node.holds, Node.holdsEntries, if_pos hkey, Node.holdsBranches,
        Node.holdsEntries, Bool.and_true]
  | @any key nodes hkey hne _ ih =>
    obtain ⟨cs, hread, hlen, hwhole, hmean⟩ := readAll_renders nodes ih
    have hand : ¬ key.isText Operator.andKey = true := by
      rw [Node.isText_andKey_of_orKey hkey]
      exact Bool.false_ne_true
    refine ⟨.any cs, ?_, fun hs => .any (ne_nil_of_length_eq hlen (hne hs)) (hwhole hs),
      fun σ => ?_⟩
    · rw [read, readUnder_single, if_neg hand, readUnder_single, if_pos hkey, readBranches, hread]
      rfl
    · rw [holds, hmean, Node.holds, Node.holdsEntries, if_neg hand, if_pos hkey,
        Node.holdsBranches, Node.holdsEntries, Bool.and_true]
  | @fields entries hfields =>
    by_cases hnil : entries = []
    · subst hnil
      exact ⟨.always, rfl, fun _ => .always, fun _ => rfl⟩
    obtain ⟨fs, hread, hlen, hwhole, hmean⟩ := readFields_formed hd entries hfields
    have hjoin : ∀ e ∈ entries, e.1.isText Operator.andKey = false ∧
        e.1.isText Operator.orKey = false := fun e he =>
      Bool.or_eq_false_iff.mp (hfields e he).notJoining
    refine ⟨.fields fs, ?_, fun hs => .fields (ne_nil_of_length_eq hlen hnil) (hwhole hs),
      fun σ => ?_⟩
    · rw [read, readUnder_eq_none _ _ fun e he => (hjoin e he).1,
        readUnder_eq_none _ _ fun e he => (hjoin e he).2, hread]
      simp [hnil, Except.map]
    · rw [holds, Node.holds,
        Node.holdsEntries_of_fields σ entries fun e he => (hfields e he).notJoining, ← hmean σ]
      simp only [Test.holds_comap]

end Condition

end FieldQuery
