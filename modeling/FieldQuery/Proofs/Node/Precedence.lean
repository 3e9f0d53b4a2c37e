import FieldQuery.Proofs.Elastic.Meaning
import FieldQuery.Proofs.Node.Rejection
import FieldQuery.Proofs.Sql.Meaning

/-!
# Joining keys beside other entries

What is modelled. A node means the conjunction of all its entries. Reading keeps that only where a
joining key stands alone in its dict: a conjunction hides whatever stands beside it, and a
disjunction hides the fields beside it, at every depth. `Node.heard` is the part of a node that is
not hidden.

What is proved.
* `Node.read_heard`, `Node.where?_heard`: both backends compile just the part that is heard.
* `Node.heard_formed`, `Node.heard_of_formed`: that part is formed, and it is the whole node where
  joining keys stand alone.
* `Node.holds_heard`: a compiled node never matches less than the node says.
* `Node.compiled_as_heard`: the three together, for every mixed node.
* `Node.sibling_unheard`: it matches more as soon as a hidden entry says something.

Lists under joining keys are not empty here; what empty ones come to is left to the account of gaps.
-/

namespace FieldQuery

namespace Node

mutual

/-- The part of a node that is read. -/
def heard : Value → Value
  | .dict entries =>
    match heardUnder Operator.andKey entries with
    | some entry => .dict [entry]
    | none =>
      match heardUnder Operator.orKey entries with
      | some entry => .dict [entry]
      | none => .dict entries
  | v => v
termination_by structural v => v

/-- The first entry under a joining key, with the parts of its branches that are read. -/
def heardUnder (key : String) : List (Value × Value) → Option (Value × Value)
  | [] => none
  | (k, v) :: entries =>
    if k.isText key then some (k, heardBranches v) else heardUnder key entries
termination_by structural entries => entries

def heardBranches : Value → Value
  | .list nodes => .list (heardEach nodes)
  | v => v
termination_by structural v => v

def heardEach : List Value → List Value
  | [] => []
  | node :: nodes => heard node :: heardEach nodes
termination_by structural nodes => nodes

end

theorem heardEach_eq_map (nodes : List Value) : heardEach nodes = nodes.map heard := by
  induction nodes with
  | nil => rfl
  | cons node nodes ih => rw [heardEach, ih, List.map_cons]

/-- Joining keys hold lists of such nodes that are not empty, and may stand beside each other and
beside fields; all other keys are texts with supported operators under them. -/
inductive Mixed : Value → Prop
  | dict {entries : List (Value × Value)}
      (fields : ∀ e ∈ entries, e.1.isJoiningKey = false → FormedField true e)
      (lists : ∀ e ∈ entries, e.1.isJoiningKey = true → ∃ nodes, e.2 = .list nodes ∧ nodes ≠ [])
      (branches : ∀ e ∈ entries, e.1.isJoiningKey = true → ∀ nodes, e.2 = .list nodes →
        ∀ node ∈ nodes, Mixed node) :
      Mixed (.dict entries)

/-- A dict of fields is mixed. -/
theorem Mixed.fields {entries : List (Value × Value)} (h : ∀ e ∈ entries, FormedField true e) :
    Mixed (.dict entries) := by
  refine .dict (fun e he _ => h e he) (fun e he hj => ?_) (fun e he hj => ?_)
  · rw [(h e he).notJoining] at hj
    exact absurd hj Bool.false_ne_true
  · rw [(h e he).notJoining] at hj
    exact absurd hj Bool.false_ne_true

/-! ## What stands under a joining key -/

theorem heardUnder_eq_none (key : String) (entries : List (Value × Value))
    (h : ∀ e ∈ entries, e.1.isText key = false) : heardUnder key entries = none := by
  induction entries with
  | nil => rfl
  | cons e entries ih =>
    have hk : e.1.isText key = false := h e List.mem_cons_self
    rw [heardUnder, if_neg (by rw [hk]; exact Bool.false_ne_true),
      ih fun e he => h e (List.mem_cons_of_mem _ he)]

/-- The first entry under a key is the one that is read. -/
theorem under_cases (key : String) (entries : List (Value × Value)) :
    (∀ e ∈ entries, e.1.isText key = false) ∨
    ∃ e ∈ entries, e.1.isText key = true ∧
      heardUnder key entries = some (e.1, heardBranches e.2) ∧
      ∀ {α : Type} (d : Dialect α),
        Condition.readUnder d key entries = some (Condition.readBranches d e.2) := by
  induction entries with
  | nil => exact .inl fun _ h => absurd h List.not_mem_nil
  | cons e entries ih =>
    by_cases hk : e.1.isText key = true
    · refine .inr ⟨e, List.mem_cons_self, hk, ?_, fun d => ?_⟩
      · rw [heardUnder, if_pos hk]
      · rw [Condition.readUnder, if_pos hk]
    · rcases ih with hnone | ⟨f, hf, hkey, hheard, hread⟩
      · exact .inl (List.forall_mem_cons.mpr ⟨Bool.not_eq_true _ ▸ hk, hnone⟩)
      · refine .inr ⟨f, List.mem_cons_of_mem _ hf, hkey, ?_, fun d => ?_⟩
        · rw [heardUnder, if_neg hk, hheard]
        · rw [Condition.readUnder, if_neg hk, hread d]

/-- What decides about a node: its conjunction if it has one, else its disjunction if it has one,
and else its fields. -/
inductive Decided (entries : List (Value × Value)) : Prop
  | all (key : Value) (nodes : List Value) (hmem : (key, .list nodes) ∈ entries)
      (hkey : key.isText Operator.andKey = true)
      (heard : heard (.dict entries) = .dict [(key, .list (nodes.map heard))])
      (read : ∀ {α : Type} (d : Dialect α), Condition.read d (.dict entries) =
        (Condition.readAll d nodes).map .all)
  | any (key : Value) (nodes : List Value) (hmem : (key, .list nodes) ∈ entries)
      (hkey : key.isText Operator.orKey = true)
      (heard : heard (.dict entries) = .dict [(key, .list (nodes.map heard))])
      (read : ∀ {α : Type} (d : Dialect α), Condition.read d (.dict entries) =
        (Condition.readAll d nodes).map .any)
  | fields (h : ∀ e ∈ entries, e.1.isJoiningKey = false)
      (heard : heard (.dict entries) = .dict entries)

theorem decided {entries : List (Value × Value)}
    (lists : ∀ e ∈ entries, e.1.isJoiningKey = true → ∃ nodes, e.2 = .list nodes ∧ nodes ≠ []) :
    Decided entries := by
  have hentries {e : Value × Value} (he : e ∈ entries) : ¬entries.isEmpty = true := by
    rw [List.isEmpty_iff]
    exact List.ne_nil_of_mem he
  rcases under_cases Operator.andKey entries with hand | ⟨⟨key, v⟩, hmem, hkey, hheard, hunder⟩
  · have hnone := heardUnder_eq_none _ _ hand
    rcases under_cases Operator.orKey entries with hor | ⟨⟨key, v⟩, hmem, hkey, hheard, hunder⟩
    · refine .fields (fun e he => ?_) ?_
      · rw [Value.isJoiningKey, hand e he, hor e he]
        rfl
      · rw [heard, hnone, heardUnder_eq_none _ _ hor]
    · obtain ⟨nodes, hv, -⟩ := lists _ hmem (isJoiningKey_of_isText (.inr rfl) hkey)
      obtain rfl : v = .list nodes := hv
      refine .any key nodes hmem hkey ?_ fun d => ?_
      · rw [heard, hnone, hheard, heardBranches, heardEach_eq_map]
      · rw [Condition.read, if_neg (hentries hmem), Condition.readUnder_eq_none _ _ hand, hunder d]
        rfl
  · obtain ⟨nodes, hv, -⟩ := lists _ hmem (isJoiningKey_of_isText (.inl rfl) hkey)
    obtain rfl : v = .list nodes := hv
    refine .all key nodes hmem hkey ?_ fun d => ?_
    · rw [heard, hheard, heardBranches, heardEach_eq_map]
    · rw [Condition.read, if_neg (hentries hmem), hunder d]
      rfl

/-! ## The part that is heard -/

theorem heard_formed {node : Value} (h : Mixed node) : Formed true (heard node) := by
  induction h with
  | @dict entries fields lists branches ih =>
    -- a joining key holds a list that is not empty, and its branches are formed by induction
    have hlist (key : Value) (nodes : List Value) (hmem : (key, .list nodes) ∈ entries)
        (hjoin : key.isJoiningKey = true) :
        nodes.map heard ≠ [] ∧ ∀ node ∈ nodes.map heard, Formed true node := by
      obtain ⟨nodes', hv, hne⟩ := lists _ hmem hjoin
      obtain rfl : nodes = nodes' := Value.list.inj hv
      refine ⟨fun hnil => hne (List.map_eq_nil_iff.mp hnil), fun n hn => ?_⟩
      obtain ⟨node, hnode, rfl⟩ := List.mem_map.mp hn
      exact ih _ hmem hjoin nodes rfl node hnode
    cases decided lists with
    | all key nodes hmem hkey hheard _ =>
      obtain ⟨hne, hnodes⟩ := hlist key nodes hmem (isJoiningKey_of_isText (.inl rfl) hkey)
      rw [hheard]
      exact .all hkey (fun _ => hne) hnodes
    | any key nodes hmem hkey hheard _ =>
      obtain ⟨hne, hnodes⟩ := hlist key nodes hmem (isJoiningKey_of_isText (.inr rfl) hkey)
      rw [hheard]
      exact .any hkey (fun _ => hne) hnodes
    | fields h hheard =>
      rw [hheard]
      exact .fields fun e he => fields e he (h e he)

theorem readAll_heard {α : Type} (d : Dialect α) (nodes : List Value)
    (h : ∀ node ∈ nodes, Condition.read d (heard node) = Condition.read d node) :
    Condition.readAll d (nodes.map heard) = Condition.readAll d nodes := by
  induction nodes with
  | nil => rfl
  | cons node nodes ih =>
    rw [List.map_cons, Condition.readAll_cons, Condition.readAll_cons, h node List.mem_cons_self,
      ih fun n hn => h n (List.mem_cons_of_mem _ hn)]

/-- Nothing but the heard part is read. -/
theorem read_heard {α : Type} (d : Dialect α) {node : Value} (h : Mixed node) :
    Condition.read d (heard node) = Condition.read d node := by
  induction h with
  | @dict entries fields lists branches ih =>
    cases decided lists with
    | all key nodes hmem hkey hheard hread =>
      have hbranches := readAll_heard d nodes
        (ih _ hmem (isJoiningKey_of_isText (.inl rfl) hkey) nodes rfl)
      rw [hread, hheard, Condition.read, Condition.readUnder_single, if_pos hkey,
        Condition.readBranches, hbranches]
      rfl
    | any key nodes hmem hkey hheard hread =>
      have hbranches := readAll_heard d nodes
        (ih _ hmem (isJoiningKey_of_isText (.inr rfl) hkey) nodes rfl)
      have hand : ¬ key.isText Operator.andKey = true := by
        rw [isText_andKey_of_orKey hkey]
        exact Bool.false_ne_true
      rw [hread, hheard, Condition.read, Condition.readUnder_single, if_neg hand,
        Condition.readUnder_single, if_pos hkey, Condition.readBranches, hbranches]
      rfl
    | fields h hheard => rw [hheard]

theorem holdsEntries_mem (σ : Assignment String Value) {entries : List (Value × Value)}
    {e : Value × Value} (he : e ∈ entries) (h : holdsEntries σ entries = true) :
    holdsEntries σ [e] = true := by
  induction entries with
  | nil => exact absurd he List.not_mem_nil
  | cons e' entries ih =>
    rw [holdsEntries, Bool.and_eq_true] at h
    rcases List.mem_cons.mp he with rfl | he
    · rw [holdsEntries, holdsEntries, Bool.and_true]
      exact h.1
    · exact ih he h.2

/-- What is hidden can only restrict. -/
theorem holds_heard (σ : Assignment String Value) {node : Value} (h : Mixed node) :
    holds σ node = true → holds σ (heard node) = true := by
  induction h with
  | @dict entries fields lists branches ih =>
    intro hnode
    rw [holds] at hnode
    cases decided lists with
    | all key nodes hmem hkey hheard _ =>
      have hbranch := ih _ hmem (isJoiningKey_of_isText (.inl rfl) hkey) nodes rfl
      have hentry := holdsEntries_mem σ hmem hnode
      rw [hheard, holds]
      simp only [holdsEntries, hkey, if_true, holdsBranches, holdsEach_eq_map, List.all_map,
        List.all_eq_true, Bool.and_true, Function.comp_apply, id_eq] at hentry ⊢
      exact fun node hn => hbranch node hn (hentry node hn)
    | any key nodes hmem hkey hheard _ =>
      have hbranch := ih _ hmem (isJoiningKey_of_isText (.inr rfl) hkey) nodes rfl
      have hentry := holdsEntries_mem σ hmem hnode
      rw [hheard, holds]
      simp only [holdsEntries, hkey, isText_andKey_of_orKey hkey, Bool.false_eq_true, if_false,
        if_true, holdsBranches, holdsEach_eq_map, List.any_map, List.any_eq_true, Bool.and_true,
        Function.comp_apply, id_eq] at hentry ⊢
      obtain ⟨node, hn, htrue⟩ := hentry
      exact ⟨node, hn, hbranch node hn htrue⟩
    | fields h hheard => rwa [hheard, holds]

/-- Where every joining key stands alone, everything is heard. -/
theorem heard_of_formed {strict : Bool} {node : Value} (h : Formed strict node) :
    heard node = node := by
  induction h with
  | @all key nodes hkey hne _ ih =>
    have hbranches : nodes.map heard = nodes := by rw [List.map_congr_left ih, List.map_id']
    rw [heard, heardUnder, if_pos hkey, heardBranches, heardEach_eq_map, hbranches]
  | @any key nodes hkey hne _ ih =>
    have hbranches : nodes.map heard = nodes := by rw [List.map_congr_left ih, List.map_id']
    have hand : ¬ key.isText Operator.andKey = true := by
      rw [isText_andKey_of_orKey hkey]
      exact Bool.false_ne_true
    rw [heard, heardUnder, if_neg hand, heardUnder, heardUnder, if_pos hkey, heardBranches,
      heardEach_eq_map, hbranches]
  | @fields entries h =>
    have hjoin : ∀ e ∈ entries, e.1.isText Operator.andKey = false ∧
        e.1.isText Operator.orKey = false := fun e he =>
      Bool.or_eq_false_iff.mp (h e he).notJoining
    rw [heard, heardUnder_eq_none _ _ fun e he => (hjoin e he).1,
      heardUnder_eq_none _ _ fun e he => (hjoin e he).2]

/-! ## Both backends -/

/-- A mixed node is an item as it stands, and compiled as the part of it that is heard. -/
theorem where?_heard {node : Value} (h : Mixed node) :
    Backend.elastic.where? (.value node) = Backend.elastic.compile (heard node) ∧
    Backend.sql.where? (.value node) = Backend.sql.compile (heard node) := by
  have helastic := read_heard Elastic.dialect h
  have hsql := read_heard Sql.dialect h
  obtain ⟨entries, rfl⟩ : ∃ entries, node = .dict entries := by
    cases h with
    | @dict entries => exact ⟨entries, rfl⟩
  refine ⟨?_, ?_⟩
  · rw [Backend.compile, Elastic.compile, helastic]
    rfl
  · rw [Backend.compile, Sql.compile, hsql]
    rfl

/-- Both backends compile a node to what its heard part means. That is at least what the node
matches, and it is the node itself where every joining key stands alone in its dict. -/
theorem compiled_as_heard {node : Value} (h : Mixed node) :
    (∃ query, Backend.elastic.where? (.value node) = .ok query ∧
      ∀ σ, Elastic.evaluate σ query = some (holds σ (heard node))) ∧
    (∃ clause tree, Backend.sql.where? (.value node) = .ok (.str clause) ∧
      (∀ t : Sql.Disjunction, t.chars = clause.toList ↔ t = tree) ∧
      ∀ ρ : Sql.WrittenAssignment, tree.holds ρ = holds ρ.onValues (heard node)) ∧
    (∀ σ, holds σ node = true → holds σ (heard node) = true) ∧
    (Formed true node → heard node = node) := by
  have hformed := heard_formed h
  obtain ⟨helastic, hsql⟩ := where?_heard h
  rw [helastic, hsql]
  exact ⟨Elastic.compile_evaluates hformed, Sql.compile_formed hformed, fun σ => holds_heard σ h,
    heard_of_formed⟩

/-- The statement at a dict with both joining keys and a field, of which the conjunction is heard,
and below it at a disjunction beside a field. -/
theorem compiled_as_heard_nested :
    let inner : Value := .object [("c", .int 3), ("$or", .list [.object [("a", .int 1)]])]
    let node : Value := .object [("b", .int 2), ("$or", .list [.object [("d", .int 4)]]),
      ("$and", .list [inner])]
    Mixed node ∧
    heard node = .object [("$and", .list [.object [("$or", .list [.object [("a", .int 1)]])]])] ∧
    (∃ query, Backend.elastic.where? (.value node) = .ok query ∧
      ∀ σ, Elastic.evaluate σ query = some (holds σ (heard node))) ∧
    (∃ clause tree, Backend.sql.where? (.value node) = .ok (.str clause) ∧
      (∀ t : Sql.Disjunction, t.chars = clause.toList ↔ t = tree) ∧
      ∀ ρ : Sql.WrittenAssignment, tree.holds ρ = holds ρ.onValues (heard node)) ∧
    (∀ σ, holds σ node = true → holds σ (heard node) = true) := by
  intro inner node
  have hplain (name : String) (n : Int) (h : (.str name : Value).isJoiningKey = false) :
      FormedField true (.str name, .int n) :=
    .plain h (by simp)
  have hleaf (name : String) (n : Int) (h : (.str name : Value).isJoiningKey = false) :
      Mixed (.object [(name, .int n)]) :=
    .fields (by simp [hplain name n h])
  have hand : (.str "$and" : Value).isJoiningKey = true := by decide
  have hor : (.str "$or" : Value).isJoiningKey = true := by decide
  have hb : (.str "b" : Value).isJoiningKey = false := by decide
  have hc : (.str "c" : Value).isJoiningKey = false := by decide
  have hinner : Mixed inner := by
    refine .dict ?_ ?_ ?_
    · simp [hor, hplain "c" 3 hc]
    · simp [hc, hor]
    · simp [hc, hor, hleaf "a" 1 (by decide)]
  have hnode : Mixed node := by
    refine .dict ?_ ?_ ?_
    · simp [hand, hor, hplain "b" 2 hb]
    · simp [hand, hor, hb]
    · simp [hand, hor, hb, hinner, hleaf "d" 4 (by decide)]
  obtain ⟨helastic, hsql, hweaker, -⟩ := compiled_as_heard hnode
  exact ⟨hnode, rfl, helastic, hsql, hweaker⟩

/-- A field beside a disjunction is lost: the node asks for `b` to be 2, and both backends match
where only `a` is 1. -/
theorem sibling_unheard :
    let node : Value := .object [("$or", .list [.object [("a", .int 1)]]), ("b", .int 2)]
    let ρ : Sql.WrittenAssignment := ⟨fun column _ _ => column == ["a".toList], fun _ => true⟩
    Mixed node ∧ holds ρ.onValues node = false ∧
    (∃ query, Backend.elastic.where? (.value node) = .ok query ∧
      Elastic.evaluate ρ.onValues query = some true) ∧
    ∃ clause tree, Backend.sql.where? (.value node) = .ok (.str clause) ∧
      (∀ t : Sql.Disjunction, t.chars = clause.toList ↔ t = tree) ∧ tree.holds ρ = true := by
  intro node ρ
  have hor : (.str "$or" : Value).isJoiningKey = true := by decide
  have hb : (.str "b" : Value).isJoiningKey = false := by decide
  have hfield : FormedField true (.str "b", .int 2) := .plain hb (by simp)
  have hbranch : Mixed (.object [("a", .int 1)]) :=
    .fields (List.forall_mem_singleton.mpr (.plain (by decide) (by simp)))
  have hnode : Mixed node := by
    refine .dict ?_ ?_ ?_
    · simp [hor, hfield]
    · simp [hor, hb]
    · simp [hor, hb, hbranch]
  have hformed := heard_formed hnode
  have hheard : holds ρ.onValues (heard node) = true := rfl
  obtain ⟨helastic, hsql⟩ := where?_heard hnode
  obtain ⟨query, hquery, hmeans⟩ := Elastic.compile_evaluates hformed
  obtain ⟨clause, tree, hclause, hunique, htree⟩ := Sql.compile_formed hformed
  refine ⟨hnode, rfl, ⟨query, ?_, ?_⟩, clause, tree, ?_, hunique, ?_⟩
  · rw [helastic, hquery]
  · rw [hmeans, hheard]
  · rw [hsql, hclause]
  · rw [htree, hheard]

end Node

end FieldQuery
