import FieldQuery.Proofs.Elastic.Expression
import FieldQuery.Proofs.Node.Rejection

/-!
# Nodes in groups

What is modelled. A list of nodes may be merged at once, or cut into groups of which each is merged
on its own, to any depth (`Grouping`). Merging drops empty nodes, leaves a single one as it is and
puts several under a joining key, so different groupings end in different nodes.

What is proved. On conditions merging is `Condition.meet`, and reading carries the one over into the
other.
* `Condition.read_merge_dicts`: merged nodes are read as the meet of what they are read as.
* `Condition.read_merged`: a grouping is read as a nested conjunction of what its nodes are read as,
  in their order, or fails as they do one by one.
* `Condition.Conjoins.eq_all`: what a meet says when all its conditions say it, a nested conjunction
  says when all of its conditions do.

What comes of compiling such conditions is left to the two backends.
-/

namespace FieldQuery

/-! ## Groupings -/

/-- A list of nodes cut into groups, and these into groups again. A group may be empty, and so may a
node. -/
inductive Grouping where
  | node (entries : List (Value × Value))
  | group (parts : List Grouping)

namespace Grouping

mutual

/-- All nodes in their order. -/
def nodes : Grouping → List Value
  | node entries => [.dict entries]
  | group parts => nodesEach parts
termination_by structural g => g

def nodesEach : List Grouping → List Value
  | [] => []
  | part :: parts => nodes part ++ nodesEach parts
termination_by structural parts => parts

end

mutual

/-- The node that comes of merging the groups from the inside out. -/
def merged : Grouping → Value
  | node entries => .dict entries
  | group parts => Node.merge (mergedEach parts)
termination_by structural g => g

def mergedEach : List Grouping → List Value
  | [] => []
  | part :: parts => merged part :: mergedEach parts
termination_by structural parts => parts

end

end Grouping

namespace Node

/-- Merged dicts are a dict. -/
theorem merge_dict {nodes : List Value} (h : ∀ node ∈ nodes, ∃ entries, node = .dict entries) :
    ∃ entries, merge nodes = .dict entries := by
  unfold merge
  split
  · exact ⟨[], rfl⟩
  · next node hone =>
    have hmem : node ∈ nodes.filter Value.truthy := by
      rw [hone]
      exact List.mem_cons_self
    exact h node (List.mem_filter.mp hmem).1
  · exact ⟨_, rfl⟩

end Node

namespace Grouping

mutual

theorem nodes_dicts (g : Grouping) : ∀ node ∈ g.nodes, ∃ entries, node = .dict entries := by
  match g with
  | node entries => exact List.forall_mem_singleton.mpr ⟨entries, rfl⟩
  | group parts => exact nodesEach_dicts parts
termination_by structural g

theorem nodesEach_dicts (parts : List Grouping) :
    ∀ node ∈ nodesEach parts, ∃ entries, node = .dict entries := by
  match parts with
  | [] => exact nofun
  | part :: parts => exact List.forall_mem_append.mpr ⟨nodes_dicts part, nodesEach_dicts parts⟩
termination_by structural parts

end

mutual

theorem merged_dict (g : Grouping) : ∃ entries, g.merged = .dict entries := by
  match g with
  | node entries => exact ⟨entries, rfl⟩
  | group parts => exact Node.merge_dict (mergedEach_dicts parts)
termination_by structural g

theorem mergedEach_dicts (parts : List Grouping) :
    ∀ node ∈ mergedEach parts, ∃ entries, node = .dict entries := by
  match parts with
  | [] => exact nofun
  | part :: parts => exact List.forall_mem_cons.mpr ⟨merged_dict part, mergedEach_dicts parts⟩
termination_by structural parts

end

end Grouping

/-! ## Conjunctions of conditions -/

namespace Condition

variable {α : Type} {d : Dialect α}

/-- Whether a condition is what the empty node is read as. -/
def isAlways : Condition α → Bool
  | .always => true
  | _ => false

/-- One condition stands for itself, several are joined. -/
def conjunction : List (Condition α) → Condition α
  | [] => .always
  | [c] => c
  | cs => .all cs

/-- The conjunction of those conditions that come of nodes that are not empty. -/
def meet (cs : List (Condition α)) : Condition α := conjunction (cs.filter (!·.isAlways))

/-- A condition that arises from some conditions, in their order, by meets of meets. -/
inductive Conjoins : List (Condition α) → Condition α → Prop
  | one (c : Condition α) : Conjoins [c] c
  | meet {parts : List (List (Condition α) × Condition α)} (h : ∀ p ∈ parts, Conjoins p.1 p.2) :
      Conjoins (parts.flatMap Prod.fst) (meet (parts.map Prod.snd))

theorem isAlways_meet (cs : List (Condition α)) : (meet cs).isAlways = cs.all isAlways := by
  have hkept : ∀ c ∈ cs.filter (!·.isAlways), c.isAlways = false := fun c hc => by
    simpa using (List.mem_filter.mp hc).2
  have hall : cs.all isAlways = (cs.filter (!·.isAlways)).isEmpty := by
    rw [Bool.eq_iff_iff]
    simp
  rw [meet, hall]
  generalize cs.filter (!·.isAlways) = ks at hkept
  rcases ks with _ | ⟨c, _ | ⟨c', ks⟩⟩
  · rfl
  · exact hkept c List.mem_cons_self
  · rfl

theorem holds_of_isAlways (σ : Assignment α Value) {c : Condition α} (h : c.isAlways = true) :
    c.holds σ = true := by
  cases c with
  | always => rfl
  | _ => cases h

theorem holds_conjunction (σ : Assignment α Value) (cs : List (Condition α)) :
    (conjunction cs).holds σ = cs.all (holds σ) := by
  rcases cs with _ | ⟨c, _ | ⟨c', cs⟩⟩
  · rfl
  · rw [conjunction, List.all_cons, List.all_nil, Bool.and_true]
  · change (Condition.all (c :: c' :: cs)).holds σ = _
    rw [holds, holdsEach_eq_map, List.all_map]
    rfl

/-- What is dropped says nothing. -/
theorem holds_meet (σ : Assignment α Value) (cs : List (Condition α)) :
    (meet cs).holds σ = cs.all (holds σ) := by
  rw [meet, holds_conjunction]
  induction cs with
  | nil => rfl
  | cons c cs ih =>
    by_cases hc : c.isAlways = true
    · rw [List.filter_cons_of_neg (by simp [hc]), ih, List.all_cons, holds_of_isAlways σ hc,
        Bool.true_and]
    · rw [List.filter_cons_of_pos (by simp [hc]), List.all_cons, ih, List.all_cons]

/-- What a meet has when all its conditions have it, a nested conjunction has when all its
conditions have it. -/
theorem Conjoins.eq_all {f : Condition α → Bool} (hf : ∀ cs, f (Condition.meet cs) = cs.all f)
    {cs : List (Condition α)} {c : Condition α} (h : Conjoins cs c) : f c = cs.all f := by
  induction h with
  | one c => rw [List.all_cons, List.all_nil, Bool.and_true]
  | @meet parts _ ih =>
    rw [hf, List.all_map, List.all_flatMap, Bool.eq_iff_iff, List.all_eq_true, List.all_eq_true]
    exact forall₂_congr fun p hp => by rw [Function.comp_apply, ih p hp]

/-! ## Reading -/

theorem readAll_append (xs ys : List Value) :
    readAll d (xs ++ ys) =
      (readAll d xs).bind fun cs => (readAll d ys).map (cs ++ ·) := by
  induction xs with
  | nil =>
    rw [List.nil_append, readAll]
    cases readAll d ys <;> rfl
  | cons x xs ih =>
    rw [List.cons_append, readAll_cons, readAll_cons, ih]
    cases read d x with
    | error e => rfl
    | ok c =>
      cases readAll d xs with
      | error e => rfl
      | ok cs => cases readAll d ys <;> rfl

/-- Nodes are read one after the other up to the first that cannot be read. -/
theorem readAll_cases (d : Dialect α) (nodes : List Value) :
    (∃ cs, readAll d nodes = .ok cs ∧ ∀ node ∈ nodes, ∃ c, read d node = .ok c) ∨
      ∃ before node after e, nodes = before ++ node :: after ∧ readAll d nodes = .error e ∧
        (∀ n ∈ before, ∃ c, read d n = .ok c) ∧ read d node = .error e := by
  induction nodes with
  | nil => exact .inl ⟨[], rfl, nofun⟩
  | cons node nodes ih =>
    rw [readAll_cons]
    cases hread : read d node with
    | error e => exact .inr ⟨[], node, nodes, e, rfl, rfl, nofun, hread⟩
    | ok c =>
      rcases ih with ⟨cs, hcs, hall⟩ | ⟨before, first, after, e, rfl, hcs, hbefore, hfirst⟩
      · exact .inl ⟨c :: cs, by rw [hcs]; rfl, List.forall_mem_cons.mpr ⟨⟨c, hread⟩, hall⟩⟩
      · exact .inr ⟨node :: before, first, after, e, rfl, by rw [hcs]; rfl,
          List.forall_mem_cons.mpr ⟨⟨c, hread⟩, hbefore⟩, hfirst⟩

theorem readAll_of_forall {nodes : List Value} (h : ∀ node ∈ nodes, ∃ c, read d node = .ok c) :
    ∃ cs, readAll d nodes = .ok cs := by
  rcases readAll_cases d nodes with ⟨cs, hcs, -⟩ | ⟨before, node, after, e, rfl, -, -, hnode⟩
  · exact ⟨cs, hcs⟩
  · obtain ⟨c, hc⟩ := h node (List.mem_append_right _ List.mem_cons_self)
    rw [hnode] at hc
    cases hc

/-- Only the empty dict is read as what holds always. -/
theorem isAlways_of_read {entries : List (Value × Value)} {c : Condition α}
    (h : read d (.dict entries) = .ok c) : c.isAlways = entries.isEmpty := by
  rw [read] at h
  split at h
  · next hempty =>
    obtain rfl := Except.ok.inj h
    exact hempty.symm
  · next hempty =>
    rw [Bool.eq_false_iff.mpr hempty]
    -- whichever rule decides, the condition has another form
    split at h
    · obtain ⟨_, _, rfl⟩ := exists_of_map_eq_ok h
      rfl
    · split at h
      · obtain ⟨_, _, rfl⟩ := exists_of_map_eq_ok h
        rfl
      · obtain ⟨_, _, rfl⟩ := exists_of_map_eq_ok h
        rfl

/-- Dropping empty nodes before they are read is dropping what they are read as. -/
theorem readAll_truthy {nodes : List Value} (h : ∀ node ∈ nodes, ∃ entries, node = .dict entries) :
    readAll d (nodes.filter Value.truthy) =
      (readAll d nodes).map (List.filter (!·.isAlways)) := by
  induction nodes with
  | nil => rfl
  | cons node nodes ih =>
    obtain ⟨⟨entries, rfl⟩, hrest⟩ := List.forall_mem_cons.mp h
    cases entries with
    | nil =>
      have hread : read d (.dict []) = .ok .always := rfl
      rw [List.filter_cons_of_neg (by simp [Value.truthy]), ih hrest, readAll_cons, hread]
      cases readAll d nodes <;> rfl
    | cons e entries =>
      rw [List.filter_cons_of_pos (by simp [Value.truthy]), readAll_cons, readAll_cons, ih hrest]
      cases hread : read d (.dict (e :: entries)) with
      | error f => rfl
      | ok c =>
        have hc : c.isAlways = false := isAlways_of_read hread
        cases readAll d nodes with
        | error f => rfl
        | ok cs =>
          have hkept : (c :: cs).filter (!·.isAlways) = c :: cs.filter (!·.isAlways) :=
            List.filter_cons_of_pos (by simp [hc])
          exact congrArg Except.ok hkept.symm

/-- Nodes that are not empty are read one after the other when they are merged. -/
theorem read_merge {nodes : List Value} (h : ∀ node ∈ nodes, node.truthy = true) :
    read d (Node.merge nodes) = (readAll d nodes).map conjunction := by
  rw [Node.merge, List.filter_eq_self.mpr h]
  rcases nodes with _ | ⟨node, _ | ⟨node', nodes⟩⟩
  · rfl
  · rw [readAll_cons]
    cases read d node <;> rfl
  · have hread : read d (.object [(Operator.andKey, .list (node :: node' :: nodes))]) =
        (readAll d (node :: node' :: nodes)).map .all := rfl
    rw [hread, readAll_cons, readAll_cons]
    -- two conditions at least, so they are joined
    cases read d node with
    | error e => rfl
    | ok c =>
      cases read d node' with
      | error e => rfl
      | ok c' => cases readAll d nodes <;> rfl

/-- Merging carries over into the meet of what is read. -/
theorem read_merge_dicts {nodes : List Value}
    (h : ∀ node ∈ nodes, ∃ entries, node = .dict entries) :
    read d (Node.merge nodes) = (readAll d nodes).map meet := by
  have hmerge : Node.merge nodes = Node.merge (nodes.filter Value.truthy) := by
    simp [Node.merge]
  rw [hmerge, read_merge fun node hn => (List.mem_filter.mp hn).2, readAll_truthy h]
  cases readAll d nodes <;> rfl

mutual

/-- A grouping is read as a nested conjunction of what its nodes are read as, or fails as they
do. -/
theorem read_merged (d : Dialect α) (g : Grouping) :
    (∃ e, readAll d g.nodes = .error e ∧ read d g.merged = .error e) ∨
      ∃ cs c, readAll d g.nodes = .ok cs ∧ read d g.merged = .ok c ∧ Conjoins cs c := by
  match g with
  | .node entries =>
    rw [Grouping.nodes, readAll_cons, Grouping.merged]
    cases read d (.dict entries) with
    | error e => exact .inl ⟨e, rfl, rfl⟩
    | ok c => exact .inr ⟨[c], c, rfl, rfl, .one c⟩
  | .group parts =>
    rw [Grouping.nodes, Grouping.merged, read_merge_dicts (Grouping.mergedEach_dicts parts)]
    rcases readAll_mergedEach d parts with ⟨e, hnodes, hmerged⟩ | ⟨ps, hnodes, hmerged, hps⟩
    · exact .inl ⟨e, hnodes, by rw [hmerged]; rfl⟩
    · exact .inr ⟨_, _, hnodes, by rw [hmerged]; rfl, .meet hps⟩
termination_by structural g

theorem readAll_mergedEach (d : Dialect α) (parts : List Grouping) :
    (∃ e, readAll d (Grouping.nodesEach parts) = .error e ∧
      readAll d (Grouping.mergedEach parts) = .error e) ∨
      ∃ ps : List (List (Condition α) × Condition α),
        readAll d (Grouping.nodesEach parts) = .ok (ps.flatMap Prod.fst) ∧
        readAll d (Grouping.mergedEach parts) = .ok (ps.map Prod.snd) ∧
        ∀ p ∈ ps, Conjoins p.1 p.2 := by
  match parts with
  | [] => exact .inr ⟨[], rfl, rfl, nofun⟩
  | part :: parts =>
    rw [Grouping.nodesEach, Grouping.mergedEach, readAll_append, readAll_cons]
    rcases read_merged d part with ⟨e, hnodes, hmerged⟩ | ⟨cs, c, hnodes, hmerged, hc⟩
    · exact .inl ⟨e, by rw [hnodes]; rfl, by rw [hmerged]; rfl⟩
    · rw [hnodes, hmerged]
      rcases readAll_mergedEach d parts with ⟨e, hrest, hrest'⟩ | ⟨ps, hrest, hrest', hps⟩
      · exact .inl ⟨e, by rw [hrest]; rfl, by rw [hrest']; rfl⟩
      · refine .inr ⟨(cs, c) :: ps, ?_, ?_, List.forall_mem_cons.mpr ⟨hc, hps⟩⟩
        · rw [hrest]
          rfl
        · rw [hrest']
          rfl
termination_by structural parts

end

theorem read_merged_ok {g : Grouping} {cs : List (Condition α)} (h : readAll d g.nodes = .ok cs) :
    ∃ c, read d g.merged = .ok c ∧ Conjoins cs c := by
  rcases read_merged d g with ⟨e, hnodes, -⟩ | ⟨ds, c, hnodes, hmerged, hc⟩
  · rw [hnodes] at h
    cases h
  · rw [hnodes] at h
    obtain rfl := Except.ok.inj h
    exact ⟨c, hmerged, hc⟩

theorem read_merged_error {g : Grouping} {e : Failure} (h : readAll d g.nodes = .error e) :
    read d g.merged = .error e := by
  rcases read_merged d g with ⟨f, hnodes, hmerged⟩ | ⟨cs, c, hnodes, -, -⟩
  · rw [hnodes] at h
    obtain rfl := Except.error.inj h
    exact hmerged
  · rw [hnodes] at h
    cases h

end Condition

end FieldQuery
