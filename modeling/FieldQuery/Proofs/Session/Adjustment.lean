import FieldQuery.Proofs.Session.Redaction
import Mathlib.Data.Finset.Dedup

/-!
# Refining while settings change

What is modelled. A constraint is made once, and then refinements are called on it while settings
change in between (`Session.Adjustment`). The settings are read when a constraint is made, and never
again: no refinement maps the field anew or normalizes the value anew.

What is proved. However refinements and changes of settings alternate, the constraint that comes out
has a closed form (`Factory.configured`), in which the refinements count only as the set of those
that were called (`Factory.make_adjusted`). The step is `Comparison.refined_append`: what a
refinement sets it only ever sets the one way, so calls commute and a second one has nothing left to
do. One step of a session performs one call or one change (`Adjustment.perform_eq`), and a run
follows by induction (`Session.adjust_eq`).

Only refinements that the constraint has are called; one that it does not have fails, and nothing is
said of what would come after.
-/

namespace FieldQuery

/-! ## What a factory makes -/

/-- A constraint that is checked without a mode and with a valid comparison has both. -/
theorem Constraint.check_parts {s : Settings} {variant : Variant} {get : String → Option Value}
    {c : Constraint} {k : Comparison} (h : check s variant get = .ok c)
    (hmode : get "as_filter_mode" = none) (hk : checkComparison variant get = .ok k) :
    c = ⟨c.field, c.value, false, k⟩ := by
  have hflag : Checked.flag none = .ok false := rfl
  unfold check at h
  cases hfield : checkField s variant (get "field") with
  | error e => simp [hfield] at h
  | ok field =>
    cases hvalue : checkValue s (get "value") with
    | error e => simp [hfield, hvalue] at h
    | ok value =>
      simp only [hfield, hvalue, hmode, hflag, hk] at h
      split at h
      · next hasFilter _ hcomparison =>
        obtain rfl := Except.ok.inj h
        cases hasFilter
        cases hcomparison
        rfl
      · cases h

namespace Factory

/-- Before any refinement a constraint scores, and compares as its factory says. -/
theorem make_inv {f : Factory} {s : Settings} {field value : Value} {c : Constraint}
    (h : f.make s field value = .ok c) : c = ⟨c.field, c.value, false, f.comparison⟩ := by
  cases f <;> exact Constraint.check_parts h rfl rfl

/-- What has become of a constraint of a factory, in terms of its field, its value and the set of
refinements that were called. -/
def configured (f : Factory) (field : String) (value : Value) (called : Finset Refinement) :
    Constraint where
  field := field
  value := value
  asFilter := decide (.asFilter ∈ called ∨ .orEmpty ∈ called)
  comparison :=
    match f with
    | equal => .equal (decide (.ignoreAbsentValues ∈ called))
    | lessThan => .range (if .including ∈ called then .lte else .lt) (decide (.orEmpty ∈ called))
    | greaterThan => .range (if .including ∈ called then .gte else .gt) (decide (.orEmpty ∈ called))

theorem refined_eq_configured (f : Factory) (field : String) (value : Value)
    (calls : List Refinement) :
    (Constraint.mk field value false f.comparison).refined calls =
      f.configured field value calls.toFinset := by
  cases f <;>
    simp [configured, comparison, Constraint.refined, Comparison.refined, Bound.widened]

end Factory

/-! ## Runs -/

namespace Session

/-- What may happen to a constraint that is being refined. -/
inductive Adjustment where
  /-- A refinement is called on it, and its answer takes its place. -/
  | call (r : Refinement)
  /-- A setting changes. -/
  | set (setting : Settings.Name) (v : Value)

namespace Adjustment

/-- The refinement that is called. -/
def call? : Adjustment → Option Refinement
  | call r => some r
  | set _ _ => none

/-- The settings after a step. -/
def settings (s : Settings) : Adjustment → Settings
  | call _ => s
  | set setting v => s.put setting v

/-- One step: the constraint after it. -/
def perform (c : Constraint) : Adjustment → Run Constraint
  | call r => callConstraint c r.text
  | set setting v => do
    modify fun s => { s with settings := s.settings.put setting v }
    pure c

/-- The refinements that are called on the way. -/
def called (as : List Adjustment) : Finset Refinement := (as.filterMap call?).toFinset

/-- One step refines the constraint by what is called, and changes nothing but the settings. -/
theorem perform_eq {c : Constraint} {a : Adjustment}
    (h : ∀ r ∈ a.call?, c.variant.offers r = true) (s : Session) :
    (perform c a).from s =
      (.ok (c.refined a.call?.toList), { s with settings := a.settings s.settings }) := by
  cases a with
  | call r =>
    rw [perform, callConstraint_text, Constraint.refine_eq (h r rfl)]
    rfl
  | set setting v =>
    have hnone : (set setting v).call?.toList = [] := rfl
    rw [hnone, Constraint.refined_nil]
    rfl

end Adjustment

/-- The constraint after several steps, one after the other. -/
def adjust (c : Constraint) (as : List Adjustment) : Run Constraint :=
  as.foldlM Adjustment.perform c

/-- A run refines the constraint by all that is called on the way. -/
theorem adjust_eq {c : Constraint} {as : List Adjustment}
    (h : ∀ r ∈ as.filterMap Adjustment.call?, c.variant.offers r = true) (s : Session) :
    (adjust c as).from s = (.ok (c.refined (as.filterMap Adjustment.call?)),
      { s with settings := as.foldl Adjustment.settings s.settings }) := by
  induction as generalizing c s with
  | nil =>
    rw [List.filterMap_nil, Constraint.refined_nil]
    rfl
  | cons a as ih =>
    -- the first step leaves a constraint of the same kind, in a session with other settings
    have hcalls : (a :: as).filterMap Adjustment.call? =
        a.call?.toList ++ as.filterMap Adjustment.call? := by
      rw [List.filterMap_cons]
      cases a.call? <;> rfl
    rw [hcalls] at h ⊢
    have hstep := Adjustment.perform_eq
      (fun r hr => h r (List.mem_append_left _ (Option.mem_toList.mpr hr))) s
    have hrest : ∀ r ∈ as.filterMap Adjustment.call?,
        (c.refined a.call?.toList).variant.offers r = true := by
      intro r hr
      rw [Constraint.refined_variant]
      exact h r (List.mem_append_right _ hr)
    have hbind : (adjust c (a :: as)).from s =
        (adjust (c.refined a.call?.toList) as).from
          { s with settings := a.settings s.settings } := by
      rw [adjust, List.foldlM_cons, Coupled.from_bind, hstep]
      rfl
    rw [hbind, ih hrest, Constraint.refined_append]
    rfl

end Session

namespace Factory

open Session (Adjustment)

/-- A constraint that a factory has made, and on which only refinements that it has are called while
settings change, becomes what the set of these refinements makes of its field, its value and its
factory; nothing else of the session changes. So any other run that calls the same set, in whatever
order, session and settings, ends with the same constraint. -/
theorem make_adjusted {f : Factory} {made : Settings} {field value : Value} {c : Constraint}
    (hmake : f.make made field value = .ok c) (as : List Adjustment)
    (hoffered : ∀ r ∈ Adjustment.called as, f.variant.offers r = true) (s : Session) :
    (Session.adjust c as).from s = (.ok (f.configured c.field c.value (Adjustment.called as)),
      { s with settings := as.foldl Adjustment.settings s.settings }) ∧
    ∀ as' s', Adjustment.called as' = Adjustment.called as →
      ((Session.adjust c as').from s').1 = ((Session.adjust c as).from s).1 := by
  have hvariant : c.variant = f.variant := by
    rw [make_inv hmake]
    cases f <;> rfl
  have hrun : ∀ as' s', Adjustment.called as' = Adjustment.called as →
      (Session.adjust c as').from s' =
        (.ok (f.configured c.field c.value (Adjustment.called as)),
          { s' with settings := as'.foldl Adjustment.settings s'.settings }) := by
    intro as' s' hcalled
    have hcalls : ∀ r ∈ as'.filterMap Adjustment.call?, c.variant.offers r = true := by
      intro r hr
      rw [hvariant]
      refine hoffered r ?_
      rw [← hcalled]
      exact List.mem_toFinset.mpr hr
    have hrefined : c.refined (as'.filterMap Adjustment.call?) =
        f.configured c.field c.value (Adjustment.called as) := by
      rw [← hcalled, Adjustment.called, ← refined_eq_configured, ← make_inv hmake]
    rw [Session.adjust_eq hcalls, hrefined]
  refine ⟨hrun as s rfl, fun as' s' hcalled => ?_⟩
  rw [hrun as' s' hcalled, hrun as s rfl]

/-- The statement at an identity that was mapped when the constraint was made, while the settings
come to map its new name, and at a range of which everything is called, some of it twice. -/
theorem make_adjusted_mapped :
    let identity : Constraint := ⟨"_id", .int 7, false, .equal false⟩
    let price : Constraint := ⟨"price", .int 5, false, .range .gt false⟩
    let remap : List Adjustment := [.set .entityIdField (.str "_ID"), .set .idField (.str "pk"),
      .call .ignoreAbsentValues, .set .redactedValue .null, .call .ignoreAbsentValues]
    let widen : List Adjustment := [.call .including, .set .timeZone (.str "Asia/Tokyo"),
      .call .orEmpty, .call .including]
    Factory.equal.make {} (.str "ID") (.int 7) = .ok identity ∧
      ((Session.adjust identity remap).from {}).1 = .ok ⟨"_id", .int 7, false, .equal true⟩ ∧
      Factory.greaterThan.make {} (.str "price") (.int 5) = .ok price ∧
      ((Session.adjust price widen).from {}).1 = .ok ⟨"price", .int 5, true, .range .gte true⟩ ∧
      ((Session.adjust price [.call .orEmpty, .call .including]).from {}).1 =
        ((Session.adjust price widen).from {}).1 := by
  intro identity price remap widen
  have hidentity : Factory.equal.make {} (.str "ID") (.int 7) = .ok identity := rfl
  have hprice : Factory.greaterThan.make {} (.str "price") (.int 5) = .ok price := rfl
  obtain ⟨hremap, -⟩ := make_adjusted hidentity remap (by decide) {}
  obtain ⟨hwiden, hsame⟩ := make_adjusted hprice widen (by decide) {}
  refine ⟨hidentity, ?_, hprice, ?_, hsame _ {} (by decide)⟩
  · rw [hremap]
    rfl
  · rw [hwiden]
    rfl

end Factory

end FieldQuery
