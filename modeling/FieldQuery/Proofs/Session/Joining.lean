import FieldQuery.Proofs.Composite.Search
import FieldQuery.Proofs.Session.Twins

/-!
# Joining composites

What is modelled. An expression joins composites with composites and with constraints, in any
grouping, and is evaluated step by step in a session that keeps every intermediate result under a
name. No two results share a name, and none takes that of an operand (`Expression.Fresh`).

What is proved.
* `join_from`: one step keeps a new composite and changes no thing that is there.
* `Expression.evaluate_runs`: the run follows the expression, and what the operands stood for is
  carried along by `Extends`.
* `Expression.evaluate_joins`: an expression comes to the composite that combines all its
  constraints from left to right, and so does every part of it.
* `Composite.gathers`: such a composite has a conjunct for each of its artifacts, in their order,
  and is empty only if no constraint renders.

The session is one in which every thing can be shown, since joining reports on its constraints.
Joining with what is neither a composite nor a constraint is refused, and left out.
-/

namespace FieldQuery

/-! ## What a composite gathers -/

namespace Composite

/-- What the composite of a list of constraints shows. -/
structure Gathers (cs : List Constraint) : Prop where
  constraints : (combine cs).constraints = cs
  queries : (combine cs).queries = cs.filterMap Constraint.query?
  filters : (combine cs).filters = cs.filterMap Constraint.filter?
  /-- Its node joins the nodes of all artifacts, those that score first, and none of them is empty.
  -/
  node : (combine cs).node = Node.conjunctionOf ((combine cs).artifacts.map Artifact.node)
  conjuncts : ((combine cs).artifacts.map Artifact.node).length = (combine cs).size
  truthy : ∀ node ∈ (combine cs).artifacts.map Artifact.node, node.truthy = true
  /-- It counts as false exactly when its node says nothing. -/
  empty : ∀ s stamp, ((combine cs).asValue s stamp).truthy = false ↔ (combine cs).node = .dict []

theorem size_eq_length (c : Composite) : c.size = c.artifacts.length := by
  rw [size, artifacts, List.length_append]

theorem node_eq_empty_iff (c : Composite) : c.node = .dict [] ↔ c.size = 0 := by
  rw [node_eq_conjunctionOf, size_eq_length]
  generalize c.artifacts = as
  match as with
  | [] => exact ⟨fun _ => rfl, fun _ => rfl⟩
  | [a] =>
    have htruthy : a.node.truthy = true := Artifact.truthy_nodes [a] _ List.mem_cons_self
    have hempty : a.node ≠ .dict [] := by
      intro h
      rw [h] at htruthy
      cases htruthy
    exact ⟨fun h => absurd h hempty, fun h => absurd h (Nat.succ_ne_zero 0)⟩
  | a :: b :: as => simp [Node.conjunctionOf, Value.object]

theorem gathers (cs : List Constraint) : Gathers cs where
  constraints := rfl
  queries := rfl
  filters := rfl
  node := node_eq_conjunctionOf _
  conjuncts := by rw [List.length_map, size_eq_length]
  truthy := Artifact.truthy_nodes _
  empty s stamp := by
    rw [node_eq_empty_iff, asValue, Value.truthy]
    simp

end Composite

namespace Session

/-! ## One step -/

/-- A name stands for a thing. -/
def Stands (s : Session) (name : String) (thing : Thing) : Prop :=
  ∃ number, s.names.lookup name = some number ∧ s.things[number]? = some thing

/-- The composite of some constraints as a thing. -/
def combined (cs : List Constraint) : Thing := .composite (.ofComposite (.combine cs))

/-- All things are still there, and only the given names may have come to stand for others. -/
structure Extends (made : List String) (s s' : Session) : Prop where
  things : s.things <+: s'.things
  names : ∀ name ∉ made, s'.names.lookup name = s.names.lookup name

namespace Extends

variable {made made' : List String} {s s' s'' : Session}

theorem refl (made : List String) (s : Session) : Extends made s s :=
  ⟨List.prefix_refl _, fun _ _ => rfl⟩

theorem trans (h : Extends made s s') (h' : Extends made' s' s'') :
    Extends (made ++ made') s s'' where
  things := h.things.trans h'.things
  names name hname := by
    rw [List.mem_append, not_or] at hname
    rw [h'.names name hname.2, h.names name hname.1]

/-- A name that was not made stands for what it stood for. -/
theorem stands (h : Extends made s s') {name : String} {thing : Thing} (hname : name ∉ made)
    (hs : Stands s name thing) : Stands s' name thing := by
  obtain ⟨number, hlookup, hthing⟩ := hs
  refine ⟨number, by rw [h.names name hname, hlookup], ?_⟩
  obtain ⟨rest, hrest⟩ := h.things
  have hlt := (List.getElem?_eq_some_iff.mp hthing).1
  rw [← hrest, List.getElem?_append_left hlt, hthing]

theorem length_le (h : Extends made s s') : s.things.length ≤ s'.things.length := h.things.length_le

end Extends

section

variable {α β : Type} {s : Session}

theorem from_get (f : Session → Run β) : (MonadState.get >>= f).from s = (f s).from s := rfl

theorem from_lift {r : Except Failure α} {a : α} (h : r = .ok a) (f : α → Run β) :
    (lift r >>= f).from s = (f a).from s := by
  rw [h]
  rfl

theorem from_bind_ok {x : Run α} {a : α} {t : Session} (h : x.from s = (.ok a, t))
    (f : α → Run β) : (x >>= f).from s = (f a).from t := by
  rw [Coupled.from_bind, h]

theorem find_from {name : String} {thing : Thing} (h : Stands s name thing) :
    ∃ number, (find name).from s = (.ok (number, thing), s) := by
  obtain ⟨number, hlookup, hthing⟩ := h
  refine ⟨number, ?_⟩
  rw [find, from_get, hlookup]
  dsimp only
  rw [hthing]
  rfl

theorem valueOf_from {name : String} {thing : Thing} (h : Stands s name thing)
    (hthing : thing ≠ .nothing) : ∃ number, s.things[number]? = some thing ∧
      (valueOf name).from s = (.ok (.shared number), s) := by
  obtain ⟨number, hlookup, hkept⟩ := h
  refine ⟨number, hkept, ?_⟩
  have hnamed : s.named name = some (.shared number) := by
    rw [named, hlookup, Option.map_some, shared, hkept]
    cases thing <;> first | rfl | exact absurd rfl hthing
  rw [valueOf, from_get, hnamed]
  rfl

/-- The session with a composite kept as a new thing, after some logging. -/
def keeping (s : Session) (name : String) (cs : List Constraint) (logged : List Logging.Entry) :
    Session :=
  { s with
    logged := logged
    things := s.things ++ [combined cs]
    names := (name, s.things.length) :: s.names.filter fun n => n.1 != name }

/-- Once the values of its constraints can be shown, a composite is kept. -/
theorem commit_from (hs : s.Grounded) {cs : List Constraint}
    (hcs : ∀ c ∈ cs, c.value.Below s.things.length) (name : String) :
    ∃ answer logged,
      (commit name (.combine cs)).from s = (.ok answer, s.keeping name cs logged) := by
  let entries := Composite.combineEntries s.settings (Composite.combine cs).constraints
  let logged := s.logged ++ entries.filter fun e => s.logging.isEnabled e.logger e.level
  let reported : Session := { s with logged := logged }
  have hgrounded : reported.Grounded := hs
  obtain ⟨d, hd, -⟩ := Composite.exists_expand_combine fun c hc => hgrounded.expand (hcs c hc)
  have hreport : (report entries).from s = (.ok (), reported) := rfl
  have hcomposite : (Assembly.ofComposite (.combine cs)).composite = .ok (.combine cs) := rfl
  have hpresent : (presentComposite (.ofComposite (.combine cs))).from reported =
      (.ok (.composite d []), reported) := by
    rw [presentComposite, from_lift hcomposite, from_get, from_lift hd]
    rfl
  refine ⟨.composite d [], logged, ?_⟩
  rw [commit, from_get, from_bind_ok hreport, from_bind_ok hpresent]
  rfl

/-- What may stand to the right of &, with the constraints that it brings. -/
inductive Brings : Thing → List Constraint → Prop
  | composite (cs : List Constraint) : Brings (combined cs) cs
  | constraint (c : Constraint) : Brings (.constraint c) [c]

theorem and_from {left : String} {cs ds : List Constraint} {thing : Thing} {number : Nat}
    (hl : Stands s left (combined cs)) (hright : s.things[number]? = some thing)
    (hbrings : Brings thing ds) (name : String) :
    (Session.and name left (.shared number)).from s =
      (commit name (.combine (cs ++ ds))).from s := by
  have hconstraints : ∀ es, (Assembly.ofComposite (.combine es)).constraints = .ok es :=
    fun _ => rfl
  obtain ⟨m, hleft⟩ := find_from hl
  rw [Session.and, from_bind_ok hleft]
  dsimp only [combined]
  rw [from_lift (hconstraints cs), from_get, hright]
  cases hbrings with
  | composite ds =>
    dsimp only [combined]
    rw [from_lift (hconstraints ds)]
  | constraint d => dsimp only

/-- One use of & on named operands; its result goes by a name. -/
def join (result left right : String) : Run Unit := do
  let v ← valueOf right
  let _ ← step (.and result left v)

/-- One use of & keeps the composite of all constraints of both operands. -/
theorem join_from (hs : s.Grounded) (result : String) {left right : String}
    {cs ds : List Constraint} {thing : Thing} (hl : Stands s left (combined cs))
    (hr : Stands s right thing) (hbrings : Brings thing ds)
    (hvalues : ∀ c ∈ cs ++ ds, c.value.Below s.things.length) :
    ∃ logged, (join result left right).from s = (.ok (), s.keeping result (cs ++ ds) logged) := by
  have hthing : thing ≠ .nothing := by
    rintro rfl
    cases hbrings
  obtain ⟨number, hnumber, hright⟩ := valueOf_from hr hthing
  obtain ⟨answer, logged, hcommit⟩ := commit_from hs hvalues result
  have hstep : (step (.and result left (.shared number))).from s =
      (.ok answer, s.keeping result (cs ++ ds) logged) := by
    rw [step, and_from hl hnumber hbrings, hcommit]
  refine ⟨logged, ?_⟩
  rw [join, from_bind_ok hright, from_bind_ok hstep]
  rfl

/-! ### The session after a step -/

theorem lookup_filter_ne {β : Type} {name other : String} (h : other ≠ name)
    (names : List (String × β)) :
    (names.filter fun n => n.1 != name).lookup other = names.lookup other := by
  induction names with
  | nil => rfl
  | cons n names ih =>
    obtain ⟨key, b⟩ := n
    by_cases hkey : key = name
    · have hother : (other == key) = false := by rw [beq_eq_false_iff_ne, hkey]; exact h
      rw [List.filter_cons_of_neg (by simp [hkey]), ih, List.lookup_cons, hother]
    · rw [List.filter_cons_of_pos (by simp [hkey]), List.lookup_cons, List.lookup_cons, ih]

theorem keeping_extends (name : String) (cs : List Constraint) (logged : List Logging.Entry) :
    Extends [name] s (s.keeping name cs logged) where
  things := List.prefix_append _ _
  names other hother := by
    have hne : other ≠ name := fun heq => hother (List.mem_singleton.mpr heq)
    have hhead : (other == name) = false := beq_eq_false_iff_ne.mpr hne
    rw [keeping, List.lookup_cons, hhead]
    exact lookup_filter_ne hne s.names

theorem keeping_stands (name : String) (cs : List Constraint) (logged : List Logging.Entry) :
    Stands (s.keeping name cs logged) name (combined cs) := by
  refine ⟨s.things.length, ?_, ?_⟩
  · rw [keeping, List.lookup_cons_self]
  · rw [keeping, List.getElem?_append_right (Nat.le_refl _), Nat.sub_self]
    rfl

/-- A composite of values that hold only earlier things can be shown. -/
theorem keeping_grounded (hs : s.Grounded) {cs : List Constraint}
    (hcs : ∀ c ∈ cs, c.value.Below s.things.length) (name : String) (logged : List Logging.Entry) :
    (s.keeping name cs logged).Grounded := by
  intro number thing hthing read hread
  by_cases hlt : number < s.things.length
  · refine hs number thing ?_ read hread
    rwa [keeping, List.getElem?_append_left hlt] at hthing
  · have hle : number < (s.things ++ [combined cs]).length :=
      (List.getElem?_eq_some_iff.mp hthing).1
    obtain rfl : number = s.things.length := by
      rw [List.length_append, List.length_singleton] at hle
      omega
    obtain rfl : combined cs = thing := by simpa [keeping] using hthing
    have hexpand : ∀ c ∈ cs, ∃ v, c.value.expand read = .ok v := by
      intro c hc
      obtain ⟨v, hv, -⟩ := c.value.exists_expand fun k hk => hread k (hcs c hc k hk)
      exact ⟨v, hv⟩
    obtain ⟨d, hd, -⟩ := Composite.exists_expand_combine hexpand
    refine ⟨d.asValue s.settings s.things.length, ?_⟩
    have hshown : Thing.value s.settings read s.things.length (combined cs) =
        ((Composite.combine cs).expand read).map (·.asValue s.settings s.things.length) := rfl
    rw [keeping, hshown, hd]
    rfl

end

/-! ## Expressions -/

/-- An expression over the names of a session. Every use of & keeps its result under a name, and a
constraint stands only to the right of it. -/
inductive Expression where
  | named (name : String)
  | and (result : String) (left right : Expression)
  | andConstraint (result : String) (left : Expression) (name : String)

namespace Expression

/-- The name of what the expression comes to. -/
def result : Expression → String
  | named name => name
  | and result _ _ => result
  | andConstraint result _ _ => result

/-- The names that results are kept under. -/
def results : Expression → List String
  | named _ => []
  | and result left right => results left ++ results right ++ [result]
  | andConstraint result left _ => results left ++ [result]

/-- The names that the expression starts from. -/
def leaves : Expression → List String
  | named name => [name]
  | and _ left right => leaves left ++ leaves right
  | andConstraint _ left name => leaves left ++ [name]

def names (e : Expression) : List String := e.leaves ++ e.results

/-- Evaluates the operands from left to right and joins them. -/
def evaluate : Expression → Run Unit
  | named _ => pure ()
  | and result left right => do
    evaluate left
    evaluate right
    join result left.result right.result
  | andConstraint result left name => do
    evaluate left
    join result left.result name

/-- No two results share a name, and none takes a name that the expression starts from. -/
structure Fresh (e : Expression) : Prop where
  nodup : e.results.Nodup
  apart : ∀ name ∈ e.results, name ∉ e.leaves

/-- The leaves of the expression stand for composites and constraints, and these are all their
constraints from left to right. Once it is evaluated, every result stands for the composite of the
constraints below it. -/
inductive Denotes (s : Session) (evaluated : Prop) : Expression → List Constraint → Prop
  | named {name : String} {cs : List Constraint} (h : Stands s name (combined cs)) :
      Denotes s evaluated (.named name) cs
  | and {result : String} {left right : Expression} {cs ds : List Constraint}
      (hl : Denotes s evaluated left cs) (hr : Denotes s evaluated right ds)
      (h : evaluated → Stands s result (combined (cs ++ ds))) :
      Denotes s evaluated (.and result left right) (cs ++ ds)
  | andConstraint {result name : String} {left : Expression} {cs : List Constraint}
      {d : Constraint} (hl : Denotes s evaluated left cs) (hr : Stands s name (.constraint d))
      (h : evaluated → Stands s result (combined (cs ++ [d]))) :
      Denotes s evaluated (.andConstraint result left name) (cs ++ [d])

namespace Denotes

variable {s s' : Session} {evaluated : Prop} {e : Expression} {cs : List Constraint}

/-- Making other names changes nothing about an expression. -/
theorem extend (h : Denotes s evaluated e cs) {made : List String} (hx : Extends made s s')
    (hnames : ∀ name ∈ e.names, name ∉ made) : Denotes s' evaluated e cs := by
  induction h with
  | named h => exact .named (hx.stands (hnames _ List.mem_cons_self) h)
  | @and result left right _ _ _ _ h ihl ihr =>
    have hleft : ∀ name ∈ left.names, name ∉ made := fun name hn =>
      hnames name (by simp only [names, leaves, results, List.mem_append] at hn ⊢; tauto)
    have hright : ∀ name ∈ right.names, name ∉ made := fun name hn =>
      hnames name (by simp only [names, leaves, results, List.mem_append] at hn ⊢; tauto)
    have hresult : result ∉ made := hnames result (by simp [names, results])
    exact .and (ihl hleft) (ihr hright) fun he => hx.stands hresult (h he)
  | @andConstraint result other left _ _ _ hr h ihl =>
    have hleft : ∀ name ∈ left.names, name ∉ made := fun name hn =>
      hnames name (by simp only [names, leaves, results, List.mem_append] at hn ⊢; tauto)
    have hother : other ∉ made := hnames other (by simp [names, leaves])
    have hresult : result ∉ made := hnames result (by simp [names, results])
    exact .andConstraint (ihl hleft) (hx.stands hother hr) fun he => hx.stands hresult (h he)

theorem stands (h : Denotes s True e cs) : Stands s e.result (combined cs) := by
  cases h with
  | named h => exact h
  | and _ _ h => exact h trivial
  | andConstraint _ _ h => exact h trivial

end Denotes

namespace Fresh

variable {result name : String} {left right : Expression}

/-- Both sides of & are fresh, and what one of them makes has no name in the other. -/
theorem of_and (h : (Expression.and result left right).Fresh) : left.Fresh ∧ right.Fresh ∧
    (∀ name ∈ right.names, name ∉ left.results) ∧ (∀ name ∈ left.names, name ∉ right.results) ∧
    (∀ name ∈ left.names, name ∉ [result]) ∧ ∀ name ∈ right.names, name ∉ [result] := by
  obtain ⟨hnodup, hapart⟩ := h
  simp only [results, leaves, List.nodup_append, List.mem_append] at hnodup hapart
  refine ⟨⟨?_, ?_⟩, ⟨?_, ?_⟩, ?_, ?_, ?_, ?_⟩ <;> grind [names]

theorem of_andConstraint (h : (Expression.andConstraint result left name).Fresh) : left.Fresh ∧
    name ∉ left.results ∧ (∀ other ∈ left.names, other ∉ [result]) ∧ name ∉ [result] := by
  obtain ⟨hnodup, hapart⟩ := h
  simp only [results, leaves, List.nodup_append, List.mem_append] at hnodup hapart
  refine ⟨⟨?_, ?_⟩, ?_, ?_, ?_⟩ <;> grind [names]

end Fresh

/-- What a whole evaluation preserves and makes. -/
theorem evaluate_runs {s : Session} (hs : s.Grounded) {e : Expression} {cs : List Constraint}
    (he : Denotes s False e cs) (hvalues : ∀ c ∈ cs, c.value.Below s.things.length)
    (hfresh : e.Fresh) : ∃ s', e.evaluate.from s = (.ok (), s') ∧ Extends e.results s s' ∧
      s'.Grounded ∧ Denotes s' True e cs := by
  induction e generalizing s cs with
  | named name =>
    cases he with
    | named h => exact ⟨s, rfl, .refl _ s, hs, .named h⟩
  | and result left right ihl ihr =>
    cases he with
    | @and _ _ _ cs ds hl hr _ =>
      obtain ⟨hfl, hfr, hright, hleft, hleft', hright'⟩ := hfresh.of_and
      obtain ⟨hcs, hds⟩ := List.forall_mem_append.mp hvalues
      obtain ⟨s₁, hrun₁, hx₁, hs₁, hl₁⟩ := ihl hs hl hcs hfl
      obtain ⟨s₂, hrun₂, hx₂, hs₂, hr₂⟩ := ihr hs₁ (hr.extend hx₁ hright)
        (fun d hd => (hds d hd).mono hx₁.length_le) hfr
      have hl₂ : Denotes s₂ True left cs := hl₁.extend hx₂ hleft
      have hvalues₂ : ∀ c ∈ cs ++ ds, c.value.Below s₂.things.length := fun c hc =>
        (hvalues c hc).mono (Nat.le_trans hx₁.length_le hx₂.length_le)
      obtain ⟨logged, hjoin⟩ :=
        join_from hs₂ result hl₂.stands hr₂.stands (.composite ds) hvalues₂
      have hx₃ : Extends [result] s₂ (s₂.keeping result (cs ++ ds) logged) :=
        keeping_extends result (cs ++ ds) logged
      refine ⟨s₂.keeping result (cs ++ ds) logged, ?_, (hx₁.trans hx₂).trans hx₃,
        keeping_grounded hs₂ hvalues₂ result logged, ?_⟩
      · rw [evaluate, from_bind_ok hrun₁, from_bind_ok hrun₂, hjoin]
      · exact .and (hl₂.extend hx₃ hleft') (hr₂.extend hx₃ hright') fun _ =>
          keeping_stands result (cs ++ ds) logged
  | andConstraint result left name ihl =>
    cases he with
    | @andConstraint _ _ _ cs d hl hr _ =>
      obtain ⟨hfl, hname, hleft', hname'⟩ := hfresh.of_andConstraint
      obtain ⟨s₁, hrun₁, hx₁, hs₁, hl₁⟩ := ihl hs hl (List.forall_mem_append.mp hvalues).1 hfl
      have hr₁ : Stands s₁ name (.constraint d) := hx₁.stands hname hr
      have hvalues₁ : ∀ c ∈ cs ++ [d], c.value.Below s₁.things.length := fun c hc =>
        (hvalues c hc).mono hx₁.length_le
      obtain ⟨logged, hjoin⟩ :=
        join_from hs₁ result hl₁.stands hr₁ (.constraint d) hvalues₁
      have hx₂ : Extends [result] s₁ (s₁.keeping result (cs ++ [d]) logged) :=
        keeping_extends result (cs ++ [d]) logged
      refine ⟨s₁.keeping result (cs ++ [d]) logged, ?_, hx₁.trans hx₂,
        keeping_grounded hs₁ hvalues₁ result logged, ?_⟩
      · rw [evaluate, from_bind_ok hrun₁, hjoin]
      · exact .andConstraint (hl₁.extend hx₂ hleft') (hx₂.stands hname' hr₁) fun _ =>
          keeping_stands result (cs ++ [d]) logged

/-- In a session where every thing can be shown, an expression of & evaluates, in any grouping, to
the composite that combines all its constraints from left to right; so does every part of it. No
thing of the session has changed, and only the results have new names. -/
theorem evaluate_joins {s : Session} {e : Expression} {cs : List Constraint} (hs : s.Grounded)
    (he : Denotes s False e cs) (hvalues : ∀ c ∈ cs, c.value.Below s.things.length)
    (hfresh : e.Fresh) :
    (∃ s', e.evaluate.from s = (.ok (), s') ∧ Stands s' e.result (combined cs) ∧
      Denotes s' True e cs ∧ Extends e.results s s') ∧ Composite.Gathers cs := by
  obtain ⟨s', hrun, hx, -, hd⟩ := evaluate_runs hs he hvalues hfresh
  exact ⟨⟨s', hrun, hd.stands, hd, hx⟩, Composite.gathers cs⟩

/-- The statement at a composite joined with the result of joining another one with a constraint,
where a value holds a thing of the session, and a constraint without a value renders to nothing. -/
theorem evaluate_joins_grouped :
    let a : Constraint := ⟨"a", .int 1, false, .equal false⟩
    let b : Constraint := ⟨"b", .list [.shared 0], true, .equal false⟩
    let c : Constraint := ⟨"c", .absent, false, .equal true⟩
    let d : Constraint := ⟨"d", .str "x", false, .range .lt true⟩
    let s : Session := (({ things := [.constraint d], names := [("d", 0)] } : Session).keeping
      "left" [a] []).keeping "right" [b, c] []
    let e : Expression := .and "all" (.named "left") (.andConstraint "rest" (.named "right") "d")
    s.Grounded ∧ Denotes s False e [a, b, c, d] ∧
      (∀ x ∈ [a, b, c, d], x.value.Below s.things.length) ∧ e.Fresh ∧
      (∃ s', e.evaluate.from s = (.ok (), s') ∧ Stands s' e.result (combined [a, b, c, d]) ∧
        Denotes s' True e [a, b, c, d] ∧ Extends e.results s s') ∧
      Composite.Gathers [a, b, c, d] := by
  intro a b c d s e
  have hvalues : ∀ n, 0 < n → ∀ x ∈ [a, b, c, d], x.value.Below n := by
    intro n hn
    have hb : b.value.Below n := by
      intro k hk
      obtain rfl : k = 0 := by simpa [b, Value.things, Value.thingsAll] using hk
      exact hn
    simp only [List.forall_mem_cons]
    exact ⟨Value.below_of_closed rfl n, hb, Value.below_of_closed rfl n,
      Value.below_of_closed rfl n, by simp⟩
  have hconstraint : ({ things := [.constraint d], names := [("d", 0)] } : Session).Grounded := by
    intro number thing hthing read _
    obtain rfl : .constraint d = thing := by
      cases number with
      | zero => exact Option.some.inj hthing
      | succ n => cases hthing
    exact ⟨d.asValue, rfl⟩
  have hgrounded : s.Grounded := by
    refine keeping_grounded (keeping_grounded hconstraint ?_ "left" []) ?_ "right" []
    · exact fun x hx => hvalues 1 (by decide) x (by simp at hx; simp [hx])
    · exact fun x hx => hvalues 2 (by decide) x (by simp at hx ⊢; tauto)
  have hleft : Stands s "left" (combined [a]) := ⟨1, by decide, rfl⟩
  have hright : Stands s "right" (combined [b, c]) := ⟨2, by decide, rfl⟩
  have hd : Stands s "d" (.constraint d) := ⟨0, by decide, rfl⟩
  have he : Denotes s False e [a, b, c, d] :=
    .and (.named hleft) (.andConstraint (.named hright) hd False.elim) False.elim
  have hfresh : e.Fresh := ⟨by decide, by decide⟩
  have hthings : ∀ x ∈ [a, b, c, d], x.value.Below s.things.length := hvalues 3 (by decide)
  exact ⟨hgrounded, he, hthings, hfresh, evaluate_joins hgrounded he hthings hfresh⟩

end Expression

end Session

end FieldQuery
