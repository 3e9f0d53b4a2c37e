import FieldQuery.Composite
import FieldQuery.Constraint.Validate
import FieldQuery.Proofs.Constraint.Meaning
import Mathlib.Data.List.Forall2

/-!
# What constraints render to

What is modelled. Constraints here come from data, a value or a JSON text, and are then refined
(`Submission`), so they may have flags that no factory gives. The rule for queries leaves a range
out that accepts missing fields, and the rule for filters leaves it out as long as it is none.

What is proved.
* `Constraint.query?_from`, `Constraint.filter?_from`: whatever a constraint renders to is made of
  its own field and its own value, which is then there (`Artifact.From`), and never for both uses.
* `Constraint.renders_of_hasValue`: a value that is there is rendered, with one exception: a range
  that accepts missing fields and does not only filter is mute.
* `Submission.build_rendered`: a constraint is mute exactly if the data says so and no refinement
  that makes a filter was called; no refinement leads there.
* `Composite.size_combine`, `Composite.present_rendered`: a composite has as many artifacts as it
  has constraints that render, and of the values that are there it loses only those of mute ranges.
* `Composite.mute_range_accepted`: data can give such a range.
-/

namespace FieldQuery

namespace Artifact

/-- Whether an artifact may score. -/
def scores : Artifact → Bool
  | term _ _ | range _ _ _ => true
  | missing _ | anyOf _ => false

/-- What can come from a constraint: its field compared with its value, which is there, its field
being missing, and choices between such. -/
inductive From (c : Constraint) : Artifact → Prop
  | term (h : c.hasValue = true) : From c (.term c.field c.value)
  | range (h : c.hasValue = true) (bound : Bound) : From c (.range c.field bound c.value)
  | missing : From c (.missing c.field)
  | anyOf {branches : List Artifact} (hne : branches ≠ []) (h : ∀ a ∈ branches, From c a) :
      From c (.anyOf branches)

theorem From.proper {c : Constraint} {a : Artifact} (h : a.From c) (hfield : PlainField c.field) :
    a.Proper := by
  induction h with
  | term _ => exact .term hfield _
  | range _ bound => exact .range hfield bound _
  | missing => exact .missing hfield
  | anyOf hne _ ih => exact .anyOf hne ih

end Artifact

namespace Constraint

/-! ## One constraint -/

/-- Whether a constraint renders to anything. -/
def renders (c : Constraint) : Bool := c.query?.isSome || c.filter?.isSome

/-- A range that accepts missing fields, but does not only filter. -/
def mute (c : Constraint) : Bool :=
  match c.comparison with
  | .range _ matchIfAbsent => matchIfAbsent && !c.asFilter
  | .equal _ => false

theorem query?_from {c : Constraint} : ∀ a ∈ c.query?, a.scores = true ∧ a.From c := by
  intro a ha
  unfold query? at ha
  split at ha
  · cases ha
  next hmode =>
    obtain ⟨hvalue, -⟩ : c.hasValue = true ∧ c.asFilter = false := by simpa using hmode
    split at ha <;> cases ha
    · exact ⟨rfl, .term hvalue⟩
    · exact ⟨rfl, .range hvalue _⟩

theorem filter?_from {c : Constraint} : ∀ a ∈ c.filter?, a.From c := by
  intro a ha
  unfold filter? at ha
  split at ha
  · split at ha
    · split at ha <;> cases ha
      exact .missing
    next hvalue =>
      split at ha <;> cases ha
      exact .term (by simpa using hvalue)
  · split at ha
    · cases ha
    next hmode =>
      obtain ⟨-, hvalue⟩ : c.asFilter = true ∧ c.hasValue = true := by simpa using hmode
      split at ha <;> cases ha
      · refine .anyOf (List.cons_ne_nil _ _) ?_
        simp only [List.forall_mem_cons]
        exact ⟨.range hvalue _, .missing, fun _ h => absurd h List.not_mem_nil⟩
      · exact .range hvalue _

/-- Nothing both scores and filters. -/
theorem query?_or_filter?_eq_none (c : Constraint) : c.query? = none ∨ c.filter? = none := by
  obtain ⟨field, value, asFilter, k⟩ := c
  cases k <;> cases hv : value.isAbsent <;> cases asFilter <;>
    simp [query?, filter?, hasValue, hv]

/-- A value that is there is rendered, but for mute ranges. -/
theorem renders_of_hasValue {c : Constraint} (h : c.hasValue = true) : c.renders = !c.mute := by
  obtain ⟨field, value, asFilter, k⟩ := c
  have hv : value.isAbsent = false := by simpa [hasValue] using h
  cases k with
  | equal ignoreAbsent => cases asFilter <;> simp [renders, query?, filter?, mute, hasValue, hv]
  | range bound matchIfAbsent =>
    cases asFilter <;> cases matchIfAbsent <;>
      simp [renders, query?, filter?, mute, hasValue, hv]

/-! ## Refinements -/

theorem offers_of_refine {c c' : Constraint} {call : Refinement} (h : c.refine call = .ok c') :
    c.variant.offers call = true := by
  obtain ⟨field, value, asFilter, k⟩ := c
  cases call <;> cases k <;> first | rfl | cases h

/-- Refinements that all succeed lead to what their set gives. -/
theorem eq_refined_of_refineAll {c c' : Constraint} {calls : List Refinement}
    (h : c.refineAll calls = .ok c') : c' = c.refined calls := by
  induction calls generalizing c with
  | nil => rw [refined_nil]; exact (Except.ok.inj h).symm
  | cons call calls ih =>
    rw [refineAll_cons] at h
    cases hcall : c.refine call with
    | error e =>
      rw [hcall] at h
      cases h
    | ok d =>
      rw [hcall] at h
      obtain rfl : c.refined [call] = d :=
        Except.ok.inj ((refine_eq (offers_of_refine hcall)).symm.trans hcall)
      rw [ih h, refined_append]
      rfl

/-- A mute range stays mute until it is made a filter, and no other constraint becomes mute. -/
theorem refined_mute (calls : List Refinement) (c : Constraint) :
    (c.refined calls).mute =
      (c.mute && !(calls.contains .asFilter || calls.contains .orEmpty)) := by
  have hflags : ∀ m a s o : Bool, ((m || o) && !(a || (s || o))) = ((m && !a) && !(s || o)) := by
    decide
  obtain ⟨field, value, asFilter, k⟩ := c
  cases k with
  | equal ignoreAbsent => rfl
  | range bound matchIfAbsent => exact hflags _ _ _ _

end Constraint

/-! ## Composites -/

namespace Composite

/-- An artifact of a composite comes from one of its constraints. -/
theorem from_of_mem_artifacts {cs : List Constraint} {a : Artifact}
    (h : a ∈ (combine cs).artifacts) : ∃ c ∈ cs, c.renders = true ∧ a.From c := by
  rcases List.mem_append.mp h with h | h
  · obtain ⟨c, hc, ha⟩ := List.mem_filterMap.mp h
    exact ⟨c, hc, by simp [Constraint.renders, ha], (Constraint.query?_from a ha).2⟩
  · obtain ⟨c, hc, ha⟩ := List.mem_filterMap.mp h
    exact ⟨c, hc, by simp [Constraint.renders, ha], Constraint.filter?_from a ha⟩

/-- A constraint that renders has an artifact in every composite that it is part of. -/
theorem exists_mem_artifacts {cs : List Constraint} {c : Constraint} (hc : c ∈ cs)
    (h : c.renders = true) : ∃ a ∈ (combine cs).artifacts, a.From c := by
  rcases Bool.or_eq_true_iff.mp h with h | h
  · obtain ⟨a, ha⟩ := Option.isSome_iff_exists.mp h
    exact ⟨a, List.mem_append_left _ (List.mem_filterMap.mpr ⟨c, hc, ha⟩),
      (Constraint.query?_from a ha).2⟩
  · obtain ⟨a, ha⟩ := Option.isSome_iff_exists.mp h
    exact ⟨a, List.mem_append_right _ (List.mem_filterMap.mpr ⟨c, hc, ha⟩),
      Constraint.filter?_from a ha⟩

/-- Every constraint that renders leaves one artifact. -/
theorem size_combine (cs : List Constraint) :
    (combine cs).size = cs.countP Constraint.renders := by
  rw [size, combine]
  induction cs with
  | nil => rfl
  | cons c cs ih =>
    dsimp only at ih ⊢
    rw [List.countP_cons, ← ih, List.filterMap_cons, List.filterMap_cons, Constraint.renders]
    rcases c.query?_or_filter?_eq_none with h | h
    · rw [h]
      cases c.filter? <;> simp [Nat.add_assoc]
    · rw [h]
      cases c.query? <;> simp [Nat.add_right_comm]

end Composite

/-- Data that is to be taken for a constraint, as a value or as a JSON text, and the refinements
that are then called on the constraint. -/
structure Submission where
  settings : Settings
  data : Item ⊕ String
  calls : List Refinement

namespace Submission

/-- The constraint that the data is taken for. -/
def accepted (r : Submission) : Except Failure Constraint :=
  match r.data with
  | .inl item => Constraint.validate r.settings none item
  | .inr text => Constraint.validateJson r.settings none text

/-- The constraint after the refinements. -/
def build (r : Submission) : Except Failure Constraint :=
  r.accepted >>= fun c => c.refineAll r.calls

/-- How the constraint of a submission renders. -/
structure Rendered (r : Submission) (c : Constraint) : Prop where
  atMostOnce : c.query? = none ∨ c.filter? = none
  /-- A value that is there is rendered exactly if the constraint is not mute. -/
  present : c.hasValue = true → c.renders = !c.mute
  /-- A mute constraint was accepted as a mute one, and no refinement has made it a filter. -/
  mute_iff : c.mute = true ↔
    ∃ c₀, r.accepted = .ok c₀ ∧ c₀.mute = true ∧ .asFilter ∉ r.calls ∧ .orEmpty ∉ r.calls

theorem build_rendered {r : Submission} {c : Constraint} (h : r.build = .ok c) : r.Rendered c := by
  obtain ⟨c₀, haccepted, hcalls⟩ : ∃ c₀, r.accepted = .ok c₀ ∧ c₀.refineAll r.calls = .ok c := by
    unfold build at h
    cases ha : r.accepted with
    | error e =>
      rw [ha] at h
      cases h
    | ok c₀ =>
      rw [ha] at h
      exact ⟨c₀, rfl, h⟩
  constructor
  case atMostOnce => exact c.query?_or_filter?_eq_none
  case present => exact Constraint.renders_of_hasValue
  case mute_iff =>
    have hmute : c.mute = true ↔
        c₀.mute = true ∧ .asFilter ∉ r.calls ∧ .orEmpty ∉ r.calls := by
      rw [Constraint.eq_refined_of_refineAll hcalls, Constraint.refined_mute]
      simp
    rw [hmute]
    constructor
    · exact fun hc => ⟨c₀, haccepted, hc⟩
    · rintro ⟨c₁, haccepted', hc⟩
      obtain rfl : c₀ = c₁ := Except.ok.inj (haccepted.symm.trans haccepted')
      exact hc

end Submission

namespace Composite

/-- However data that was accepted is refined, a value that is there is rendered for exactly one
use, unless the data gives a mute range that no refinement has made a filter. So a composite has at
least as many artifacts as values that are there outside of mute ranges. -/
theorem present_rendered {rs : List Submission} {cs : List Constraint}
    (h : List.Forall₂ (fun r c => r.build = .ok c) rs cs) :
    List.Forall₂ Submission.Rendered rs cs ∧
      cs.countP (fun c => c.hasValue && !c.mute) ≤ (combine cs).size := by
  constructor
  · exact h.imp fun _ _ hbuild => Submission.build_rendered hbuild
  · rw [size_combine]
    refine List.countP_mono_left fun c _ hc => ?_
    obtain ⟨hvalue, hmute⟩ : c.hasValue = true ∧ c.mute = false := by simpa using hc
    rw [Constraint.renders_of_hasValue hvalue, hmute]
    rfl

/-- The statement at a range that data makes mute and that is only widened, at one that is then made
a filter, and at an equality that data makes one. -/
theorem present_rendered_mixed :
    let mute : Value := .object [("kind", .str "range"), ("field", .str "f"), ("bound", .str "lt"),
      ("value", .int 5), ("match_if_absent", .bool true)]
    let equality : Value := .object [("kind", .str "equal"), ("field", .str "g"),
      ("value", .str "x"), ("as_filter_mode", .int 1)]
    let rs : List Submission := [⟨{}, .inl (.value mute), [.including]⟩,
      ⟨{}, .inl (.value mute), [.orEmpty]⟩, ⟨{}, .inl (.value equality), [.ignoreAbsentValues]⟩]
    let cs : List Constraint := [⟨"f", .int 5, false, .range .lte true⟩,
      ⟨"f", .int 5, true, .range .lt true⟩, ⟨"g", .str "x", true, .equal true⟩]
    List.Forall₂ (fun r c => r.build = .ok c) rs cs ∧ List.Forall₂ Submission.Rendered rs cs ∧
      cs.countP (fun c => c.hasValue && !c.mute) = 2 ∧ 2 ≤ (combine cs).size := by
  intro mute equality rs cs
  have hbuild : List.Forall₂ (fun r c => r.build = .ok c) rs cs :=
    .cons rfl (.cons rfl (.cons rfl .nil))
  obtain ⟨hrendered, hsize⟩ := present_rendered hbuild
  exact ⟨hbuild, hrendered, rfl, hsize⟩

/-- A value that is there and renders to nothing: data gives a range that accepts missing fields but
does not only filter. -/
theorem mute_range_accepted :
    let c : Constraint := ⟨"f", .int 5, false, .range .lt true⟩
    Constraint.validateJson {} none ("\x7b\"kind\":\"range\",\"field\":\"f\",\"bound\":\"lt\"," ++
        "\"value\":5,\"match_if_absent\":true\x7d") = .ok c ∧
      c.hasValue = true ∧ c.query? = none ∧ c.filter? = none ∧ (combine [c]).size = 0 := by
  intro c
  refine ⟨?_, rfl, rfl, rfl, rfl⟩
  rw [Constraint.validateJson]
  simp only [Json.parse, String.reduceToList, String.reduceAppend]
  rfl

end Composite

end FieldQuery
