import FieldQuery.Proofs.Sql.Words

/-!
# What SQL clauses mean

What is modelled. A clause is given its meaning through the grammar: by a derivation tree that has
it for its text, and an assignment of truth to written comparisons. In a tree a field is its path
cut at the dots and an operand is its written form.

What is proved.
* `Sql.filled_written`: the text of a condition without empty joins is that of a derivation tree of
  the same meaning and the same comparisons, by induction on the condition. Conjunctions stand
  without parentheses because no conjunct ever shows an OR of its own.
* `Sql.where_reads_once`: for a formed node that tree is the only reading of its clause, as the
  grammar is unambiguous. So quotes in fields and values never end an identifier or a literal.
* `Sql.written_onValues`: assignments to values that see them only through their written forms are
  assignments to written comparisons.

Two values that are written alike are one to SQL. Conditions with empty joins are left to the
account of gaps.
-/

namespace FieldQuery

namespace Sql

/-! ## Values are written as operands -/

theorem exists_word {cs : List Char} (hne : cs ≠ []) (h : Bare cs) : ∃ o : Operand, o.chars = cs :=
  ⟨.word ⟨cs, hne, h⟩, rfl⟩

theorem exists_text (s : List Char) : ∃ o : Operand, o.chars = (Literal.text s).chars :=
  ⟨.text s, rfl⟩

mutual

theorem exists_operand (v : Value) : ∃ o : Operand, o.chars = formatChars v := by
  have hgroup : ∀ vs os, Operand.charsEach os = Literal.charsAll (Literal.ofValues vs) →
      ∃ o : Operand, o.chars = (Literal.group (Literal.ofValues vs)).chars := by
    intro vs os hos
    exact ⟨.group os, by rw [Operand.chars, Literal.chars, hos]⟩
  cases v with
  | null => exact exists_word (by decide) (by decide)
  | bool b => cases b <;> exact exists_word (by decide) (by decide)
  | int n => exact exists_word (signed_ne_nil n) (bare_signed n)
  | float x => exact exists_word (float_ne_nil x) (bare_float x)
  | decimal d => exact exists_word (decimal_ne_nil d) (bare_decimal d)
  | fraction q => exact exists_word (fraction_ne_nil q) (bare_fraction q)
  | list xs =>
    obtain ⟨os, hos⟩ := exists_operands xs
    exact hgroup xs os hos
  | tuple xs =>
    obtain ⟨os, hos⟩ := exists_operands xs
    exact hgroup xs os hos
  | member m =>
    cases m with
    | number family name n => exact exists_word (signed_ne_nil n) (bare_signed n)
    | _ => exact exists_text _
  | _ => exact exists_text _
termination_by structural v

theorem exists_operands (vs : List Value) :
    ∃ os : List Operand, Operand.charsEach os = Literal.charsAll (Literal.ofValues vs) := by
  match vs with
  | [] => exact ⟨[], rfl⟩
  | v :: vs =>
    obtain ⟨o, ho⟩ := exists_operand v
    obtain ⟨os, hos⟩ := exists_operands vs
    refine ⟨o :: os, ?_⟩
    rw [Operand.charsEach, ho, hos]
    rfl
termination_by structural vs

end

/-! ## Fields are written as columns -/

theorem pathParts_ne_nil (path : List Char) : pathParts path ≠ [] := by
  cases path with
  | nil => exact List.cons_ne_nil _ _
  | cons c cs =>
    rw [pathParts]
    split
    · exact List.cons_ne_nil _ _
    · split <;> exact List.cons_ne_nil _ _

/-- The parts of a path with the dots put back. -/
theorem joined_pathParts (path : List Char) : Text.joined ['.'] (pathParts path) = path := by
  induction path with
  | nil => rfl
  | cons c cs ih =>
    rw [pathParts]
    obtain ⟨p, ps, hps⟩ := List.exists_cons_of_ne_nil (pathParts_ne_nil cs)
    rw [hps, Text.joined_cons] at ih
    rw [hps]
    split
    · rename_i hdot
      rw [Text.joined_cons, List.flatMap_cons, List.append_assoc, ih, hdot]
      rfl
    · rw [Text.joined_cons, List.cons_append, ih]

/-- The column of a field. -/
def column (field : String) : Column := ⟨pathParts field.toList, pathParts_ne_nil _⟩

theorem column_chars (field : String) : (column field).chars = identifierChars field.toList := rfl

/-- A comparison of a field with a value as it is written. -/
def writtenComparison (p : String × Value) : WrittenComparison :=
  (pathParts p.1.toList, formatChars p.2)

/-- What an assignment to written tests says of fields and values. -/
def WrittenAssignment.onValues (ρ : WrittenAssignment) : Assignment String Value :=
  ρ.comap (fun field => pathParts field.toList) formatChars

/-- Values with the same written form pass the same tests. -/
def ByText (σ : Assignment String Value) : Prop :=
  ∀ field op v w, formatChars v = formatChars w → σ.test field op v = σ.test field op w

open Classical in
/-- The assignment to written tests: a written form passes when a value of that form does. -/
noncomputable def written (σ : Assignment String Value) : WrittenAssignment where
  test parts op text := decide (∃ v, formatChars v = text ∧
    σ.test (String.ofList (Text.joined ['.'] parts)) op v = true)
  present parts := σ.present (String.ofList (Text.joined ['.'] parts))

open Classical in
/-- An assignment that sees only written forms is what its written one says. -/
theorem written_onValues {σ : Assignment String Value} (h : ByText σ) :
    (written σ).onValues = σ := by
  have hfield : ∀ field : String,
      String.ofList (Text.joined ['.'] (pathParts field.toList)) = field := fun field => by
    rw [joined_pathParts, String.ofList_toList]
  have htest : (written σ).onValues.test = σ.test := by
    funext field op v
    refine Bool.eq_iff_iff.mpr ?_
    constructor
    · intro hpass
      obtain ⟨w, hw, hpass⟩ := of_decide_eq_true hpass
      rwa [hfield, h field op w v hw] at hpass
    · intro hpass
      refine decide_eq_true ⟨v, rfl, ?_⟩
      rwa [hfield]
  have hpresent : (written σ).onValues.present = σ.present := by
    funext field
    exact congrArg σ.present (hfield field)
  cases σ
  exact congr (congrArg Assignment.mk htest) hpresent

/-! ## Joined clauses -/

namespace Conjunction

def append : Conjunction → Conjunction → Conjunction
  | one f, c => and f c
  | and f rest, c => and f (rest.append c)

theorem append_chars (c c' : Conjunction) :
    (c.append c').chars = c.chars ++ (" AND ".toList ++ c'.chars) := by
  match c with
  | one f => rw [append, chars, chars]
  | and f rest =>
    rw [append, chars, chars, append_chars rest c', List.append_assoc, List.append_assoc]

theorem append_holds (σ : WrittenAssignment) (c c' : Conjunction) :
    (c.append c').holds σ = (c.holds σ && c'.holds σ) := by
  match c with
  | one f => rw [append, holds, holds]
  | and f rest => rw [append, holds, holds, append_holds σ rest c', Bool.and_assoc]

theorem append_comparisons (c c' : Conjunction) :
    (c.append c').comparisons = c.comparisons ++ c'.comparisons := by
  match c with
  | one f => rw [append, comparisons, comparisons]
  | and f rest =>
    rw [append, comparisons, comparisons, append_comparisons rest c', List.append_assoc]

/-- One conjunction of all conjuncts. -/
theorem exists_joined (cs : List Conjunction) (hne : cs ≠ []) :
    ∃ c : Conjunction, c.chars = Text.joined " AND ".toList (cs.map chars) ∧
      (∀ σ, c.holds σ = cs.all (holds σ)) ∧ c.comparisons = cs.flatMap comparisons := by
  induction cs with
  | nil => exact absurd rfl hne
  | cons c cs ih =>
    cases cs with
    | nil =>
      refine ⟨c, rfl, fun σ => ?_, ?_⟩
      · rw [List.all_cons, List.all_nil, Bool.and_true]
      · rw [List.flatMap_singleton]
    | cons c' cs =>
      obtain ⟨rest, hchars, hholds, hcomparisons⟩ := ih (List.cons_ne_nil _ _)
      refine ⟨c.append rest, ?_, fun σ => ?_, ?_⟩
      · rw [append_chars, hchars]
        simp only [List.map_cons, Text.joined, List.append_assoc]
      · simp only [append_holds, hholds, List.all_cons]
      · rw [append_comparisons, hcomparisons]
        exact List.flatMap_cons.symm

end Conjunction

/-- One disjunction of all alternatives. -/
theorem Disjunction.exists_joined (cs : List Conjunction) (hne : cs ≠ []) :
    ∃ d : Disjunction, d.chars = Text.joined " OR ".toList (cs.map Conjunction.chars) ∧
      (∀ σ, d.holds σ = cs.any (Conjunction.holds σ)) ∧
      d.comparisons = cs.flatMap Conjunction.comparisons := by
  induction cs with
  | nil => exact absurd rfl hne
  | cons c cs ih =>
    cases cs with
    | nil =>
      refine ⟨.one c, rfl, fun σ => ?_, ?_⟩
      · rw [holds, List.any_cons, List.any_nil, Bool.or_false]
      · rw [comparisons, List.flatMap_singleton]
    | cons c' cs =>
      obtain ⟨rest, hchars, hholds, hcomparisons⟩ := ih (List.cons_ne_nil _ _)
      refine ⟨.or c rest, ?_, fun σ => ?_, ?_⟩
      · rw [chars, hchars]
        simp only [List.map_cons, Text.joined, List.append_assoc]
      · simp only [holds, hholds, List.any_cons]
      · rw [comparisons, hcomparisons]
        exact List.flatMap_cons.symm

/-! ## Conditions -/

theorem exists_test (field : String) (t : Test) :
    ∃ c : Conjunction, c.chars = testChars field t ∧
      (∀ ρ : WrittenAssignment, c.holds ρ = Test.holds ρ.onValues field t) ∧
      c.comparisons = t.compared?.toList.map fun v => writtenComparison (field, v) := by
  obtain ⟨op, operand⟩ := t
  obtain ⟨o, ho⟩ := exists_operand operand
  have hcompare : ∀ k : Comparator,
      (Conjunction.one (.test (column field) (.compare k o))).chars =
        identifierChars field.toList ++ ' ' :: (k.chars ++ ' ' :: formatChars operand) := by
    intro k
    rw [Conjunction.chars, Factor.chars, column_chars, Predicate.chars, ho]
  have hholds : ∀ (k : Comparator) (ρ : WrittenAssignment),
      (Conjunction.one (.test (column field) (.compare k o))).holds ρ =
        ρ.onValues.test field k.operator operand := by
    intro k ρ
    rw [Conjunction.holds, Factor.holds, Predicate.holds, ho]
    rfl
  have hcompared : ∀ k : Comparator,
      (Conjunction.one (.test (column field) (.compare k o))).comparisons =
        [writtenComparison (field, operand)] := by
    intro k
    rw [Conjunction.comparisons, Factor.comparisons, Predicate.compared?, ho]
    rfl
  cases op with
  | eq => exact ⟨_, hcompare .equal, hholds .equal, hcompared .equal⟩
  | bound b => exact ⟨_, hcompare (.bound b), hholds (.bound b), hcompared (.bound b)⟩
  | exist =>
    exact ⟨.one (.test (column field) (.presence operand.truthy)), rfl, fun _ => rfl, rfl⟩

theorem exists_tests (entries : List (String × List Test)) :
    ∃ cs : List Conjunction, cs.map Conjunction.chars = testsChars entries ∧
      (∀ ρ : WrittenAssignment, cs.all (Conjunction.holds ρ) =
        entries.all fun e => e.2.all (Test.holds ρ.onValues e.1)) ∧
      cs.flatMap Conjunction.comparisons =
        (Condition.fields entries).comparisons.map writtenComparison := by
  have hfield : ∀ (field : String) (tests : List Test), ∃ cs : List Conjunction,
      cs.map Conjunction.chars = tests.map (testChars field) ∧
      (∀ ρ : WrittenAssignment,
        cs.all (Conjunction.holds ρ) = tests.all (Test.holds ρ.onValues field)) ∧
      cs.flatMap Conjunction.comparisons =
        ((tests.filterMap Test.compared?).map (field, ·)).map writtenComparison := by
    intro field tests
    induction tests with
    | nil => exact ⟨[], rfl, fun _ => rfl, rfl⟩
    | cons t tests ih =>
      obtain ⟨c, hchars, hholds, hcompared⟩ := exists_test field t
      obtain ⟨cs, htexts, hvalues, hall⟩ := ih
      refine ⟨c :: cs, by rw [List.map_cons, List.map_cons, hchars, htexts], fun ρ => ?_, ?_⟩
      · rw [List.all_cons, List.all_cons, hholds, hvalues]
      · rw [List.flatMap_cons, hcompared, hall, List.filterMap_cons]
        cases t.compared? <;> rfl
  induction entries with
  | nil => exact ⟨[], rfl, fun _ => rfl, rfl⟩
  | cons e entries ih =>
    obtain ⟨cs, hchars, hholds, hcompared⟩ := hfield e.1 e.2
    obtain ⟨ds, htexts, hvalues, hall⟩ := ih
    refine ⟨cs ++ ds, ?_, fun ρ => ?_, ?_⟩
    · rw [List.map_append, hchars, htexts]
      rfl
    · rw [List.all_append, List.all_cons, hholds, hvalues]
    · rw [List.flatMap_append, hcompared, hall, ← List.map_append]
      rfl

/-- The condition is written as a conjunction of the same meaning and the same comparisons. -/
def Written (c : Condition String) : Prop :=
  ∃ t : Conjunction, t.chars = chars c ∧
    (∀ ρ : WrittenAssignment, t.holds ρ = c.holds ρ.onValues) ∧
    t.comparisons = c.comparisons.map writtenComparison

theorem exists_branches (cs : List (Condition String)) (h : ∀ c ∈ cs, Written c) :
    ∃ ts : List Conjunction, ts.map Conjunction.chars = charsAll cs ∧ ts.length = cs.length ∧
      (∀ ρ : WrittenAssignment,
        ts.map (Conjunction.holds ρ) = Condition.holdsEach ρ.onValues cs) ∧
      ts.flatMap Conjunction.comparisons =
        (Condition.comparisonsEach cs).map writtenComparison := by
  induction cs with
  | nil => exact ⟨[], rfl, rfl, fun _ => rfl, rfl⟩
  | cons c cs ih =>
    obtain ⟨t, hchars, hholds, hcompared⟩ := h c List.mem_cons_self
    obtain ⟨ts, htexts, hlen, hvalues, hall⟩ := ih fun c hc => h c (List.mem_cons_of_mem _ hc)
    refine ⟨t :: ts, ?_, by rw [List.length_cons, hlen, List.length_cons], fun ρ => ?_, ?_⟩
    · rw [List.map_cons, hchars, htexts]
      rfl
    · rw [List.map_cons, hholds, hvalues]
      rfl
    · rw [List.flatMap_cons, hcompared, hall, Condition.comparisonsEach, List.map_append]

theorem testsChars_eq_nil_iff (entries : List (String × List Test)) :
    testsChars entries = [] ↔ (entries.any fun e => !e.2.isEmpty) = false := by
  simp [testsChars, List.flatMap_eq_nil_iff]

end Sql

namespace Condition

variable {α : Type}

mutual

/-- Whether every conjunction and disjunction in the condition has a branch and all its lists of
tests together hold one. -/
def filled : Condition α → Bool
  | .always => true
  | .all branches => !branches.isEmpty && filledEach branches
  | .any branches => !branches.isEmpty && filledEach branches
  | .fields entries => entries.any fun e => !e.2.isEmpty
termination_by structural c => c

def filledEach : List (Condition α) → Bool
  | [] => true
  | c :: cs => filled c && filledEach cs
termination_by structural cs => cs

end

theorem filledEach_eq_all (cs : List (Condition α)) : filledEach cs = cs.all filled := by
  induction cs with
  | nil => rfl
  | cons c cs ih => rw [filledEach, ih, List.all_cons]

theorem Whole.filled {c : Condition α} (h : c.Whole) : c.filled = true := by
  induction h with
  | always => rfl
  | all hne _ ih | any hne _ ih =>
    rw [Condition.filled, filledEach_eq_all, List.all_eq_true.mpr ih]
    simp [hne]
  | @fields entries hne h =>
    obtain ⟨e, rest, rfl⟩ := List.exists_cons_of_ne_nil hne
    rw [Condition.filled, List.any_cons]
    simp [h e List.mem_cons_self]

end Condition

namespace Sql

mutual

/-- A filled condition is written as a conjunction: a disjunction is in parentheses, and so is one
factor. -/
theorem filled_written (c : Condition String) (h : c.filled = true) : Written c := by
  match c with
  | .always => exact ⟨.one .always, rfl, fun _ => rfl, rfl⟩
  | .all branches =>
    rw [Condition.filled, Bool.and_eq_true, Bool.not_eq_true', List.isEmpty_eq_false_iff] at h
    obtain ⟨ts, hchars, hlen, hvalues, hall⟩ :=
      exists_branches branches (filledEach_written branches h.2)
    obtain ⟨t, htext, hholds, hcompared⟩ :=
      Conjunction.exists_joined ts (ne_nil_of_length_eq hlen h.1)
    refine ⟨t, by rw [htext, hchars, chars], fun ρ => ?_, by rw [hcompared, hall]; rfl⟩
    rw [hholds, Condition.holds, ← hvalues, List.all_map]
    rfl
  | .any branches =>
    rw [Condition.filled, Bool.and_eq_true, Bool.not_eq_true', List.isEmpty_eq_false_iff] at h
    obtain ⟨ts, hchars, hlen, hvalues, hall⟩ :=
      exists_branches branches (filledEach_written branches h.2)
    obtain ⟨d, htext, hholds, hcompared⟩ :=
      Disjunction.exists_joined ts (ne_nil_of_length_eq hlen h.1)
    -- in parentheses the disjunction is a factor, so no AND around it can take it apart
    refine ⟨.one (.group d), by rw [Conjunction.chars, Factor.chars, htext, hchars, chars],
      fun ρ => ?_, ?_⟩
    · rw [Conjunction.holds, Factor.holds, hholds, Condition.holds, ← hvalues, List.any_map]
      rfl
    · rw [Conjunction.comparisons, Factor.comparisons, hcompared, hall, Condition.comparisons]
  | .fields entries =>
    obtain ⟨ts, hchars, hvalues, hall⟩ := exists_tests entries
    have hts : ts ≠ [] := by
      intro hnil
      have htexts : testsChars entries = [] := by rw [← hchars, hnil, List.map_nil]
      rw [Condition.filled, (testsChars_eq_nil_iff entries).mp htexts] at h
      exact Bool.false_ne_true h
    obtain ⟨t, htext, hholds, hcompared⟩ := Conjunction.exists_joined ts hts
    refine ⟨t, by rw [htext, hchars, chars], fun ρ => ?_, by rw [hcompared, hall]⟩
    rw [hholds, hvalues, Condition.holds]
termination_by structural c

theorem filledEach_written (cs : List (Condition String))
    (h : Condition.filledEach cs = true) : ∀ c ∈ cs, Written c := by
  match cs with
  | [] => exact fun c hc => absurd hc List.not_mem_nil
  | c :: cs =>
    rw [Condition.filledEach, Bool.and_eq_true] at h
    exact List.forall_mem_cons.mpr ⟨filled_written c h.1, filledEach_written cs h.2⟩
termination_by structural cs

end

/-! ## Nodes -/

/-- A formed node without empty parts is compiled to a clause with exactly one derivation tree, and
the tree means what the node means. -/
theorem compile_formed {node : Value} (h : Node.Formed true node) :
    ∃ clause tree, Backend.sql.compile node = .ok (.str clause) ∧
      (∀ t : Disjunction, t.chars = clause.toList ↔ t = tree) ∧
      ∀ ρ : WrittenAssignment, tree.holds ρ = Node.holds ρ.onValues node := by
  obtain ⟨c, hread, hwhole, hmean⟩ := Condition.read_formed dialect_names h
  obtain ⟨t, hchars, hholds, -⟩ := filled_written c (hwhole rfl).filled
  refine ⟨render c, .one t, ?_, fun u => ⟨fun hu => ?_, ?_⟩, fun ρ => ?_⟩
  · rw [Backend.compile, compile, hread]
    rfl
  · refine Disjunction.chars_injective ?_
    rw [hu, render, String.toList_ofList, Disjunction.chars, hchars]
  · rintro rfl
    rw [Disjunction.chars, hchars, render, String.toList_ofList]
  · rw [Disjunction.holds, hholds, ← hmean]
    rfl

end Sql

end FieldQuery
