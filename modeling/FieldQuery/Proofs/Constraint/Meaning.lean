import FieldQuery.Constraint.Check
import FieldQuery.Proofs.Artifact.Meaning

/-!
# What constraints mean

What is modelled. A constraint says that a field equals a value, lies beyond a bound or is missing
(`Constraint.holds`), and a recipe says the same in terms of what was called: the factory, the
field, the value and the refinements (`Recipe.holds`).

What is proved. Refinements in any number and order come down to which of them were called at all
(`Constraint.refineAll_eq`). The artifacts that a constraint renders to say what it says, whichever
of the two uses they are for (`Constraint.artifacts_hold`), and the constraint of a recipe says what
the recipe says (`Recipe.build_holds`).

One invariant carries this: a range that also accepts missing fields only filters
(`Constraint.Sound`). A range that accepted them and scored would render to nothing. Factories and
refinements keep the invariant; data need not, and constraints from data are left to the account of
what is rendered.
-/

namespace FieldQuery

/-! ## Refinements -/

theorem Bound.widened_widened (b : Bound) : b.widened.widened = b.widened := by
  cases b <;> rfl

/-- Whether constraints of a kind have a refinement. -/
def Variant.offers : Variant → Refinement → Bool
  | _, .asFilter => true
  | .equal, .ignoreAbsentValues => true
  | .range, .including => true
  | .range, .orEmpty => true
  | _, _ => false

/-- A comparison after some refinements. -/
def Comparison.refined (calls : List Refinement) : Comparison → Comparison
  | .equal ignoreAbsent => .equal (ignoreAbsent || calls.contains .ignoreAbsentValues)
  | .range bound matchIfAbsent =>
    .range (if calls.contains .including then bound.widened else bound)
      (matchIfAbsent || calls.contains .orEmpty)

theorem Comparison.refined_append (calls calls' : List Refinement) (k : Comparison) :
    (k.refined calls).refined calls' = k.refined (calls ++ calls') := by
  cases k with
  | equal ignoreAbsent => simp only [refined, List.contains_append, Bool.or_assoc]
  | range bound matchIfAbsent =>
    simp only [refined, List.contains_append, Bool.or_assoc, Comparison.range.injEq, and_true]
    cases calls.contains .including <;> cases calls'.contains .including <;>
      first | rfl | exact Bound.widened_widened bound

namespace Constraint

/-- The constraint after several refinements, one after the other. -/
def refineAll (c : Constraint) (calls : List Refinement) : Except Failure Constraint :=
  calls.foldlM refine c

theorem refineAll_cons (c : Constraint) (call : Refinement) (calls : List Refinement) :
    c.refineAll (call :: calls) = c.refine call >>= fun c' => c'.refineAll calls := rfl

/-- What a constraint has become after some refinements. -/
def refined (calls : List Refinement) (c : Constraint) : Constraint :=
  { c with
    asFilter := c.asFilter || (calls.contains .asFilter || calls.contains .orEmpty)
    comparison := c.comparison.refined calls }

theorem refined_nil (c : Constraint) : c.refined [] = c := by
  obtain ⟨field, value, asFilter, k⟩ := c
  cases k <;> simp [refined, Comparison.refined]

theorem refined_append (calls calls' : List Refinement) (c : Constraint) :
    (c.refined calls).refined calls' = c.refined (calls ++ calls') := by
  have hmode : ∀ a b b' e e' : Bool,
      (a || (b || e) || (b' || e')) = (a || (b || b' || (e || e'))) := by
    decide
  simp only [refined, Comparison.refined_append, List.contains_append, hmode]

theorem refined_variant (calls : List Refinement) (c : Constraint) :
    (c.refined calls).variant = c.variant := by
  obtain ⟨field, value, asFilter, k⟩ := c
  cases k <;> rfl

/-- One refinement that the constraint has. -/
theorem refine_eq {c : Constraint} {call : Refinement} (h : c.variant.offers call = true) :
    c.refine call = .ok (c.refined [call]) := by
  obtain ⟨field, value, asFilter, k⟩ := c
  cases k <;> cases call <;> simp_all [variant, Variant.offers, refine, refined, Comparison.refined]

/-- A range that also accepts missing fields only filters. -/
def Sound (c : Constraint) : Prop := ∀ bound, c.comparison = .range bound true → c.asFilter = true

/-- What a constraint says, whatever it is used for. -/
def holds (σ : Assignment String Value) (c : Constraint) : Bool :=
  match c.comparison with
  | .equal ignoreAbsent =>
    if c.hasValue then σ.test c.field .eq c.value else ignoreAbsent || !σ.present c.field
  | .range bound matchIfAbsent =>
    !c.hasValue || σ.test c.field (.bound bound) c.value || (matchIfAbsent && !σ.present c.field)

/-- The artifacts of a constraint together say what it says. -/
theorem artifacts_hold {c : Constraint} (h : c.Sound) (σ : Assignment String Value) :
    (c.query?.all (Artifact.holds σ) && c.filter?.all (Artifact.holds σ)) = c.holds σ := by
  obtain ⟨field, value, asFilter, k⟩ := c
  cases k with
  | equal ignoreAbsent =>
    cases hv : value.isAbsent <;> cases asFilter <;> cases ignoreAbsent <;>
      simp [query?, filter?, holds, hasValue, hv, Artifact.holds]
  | range bound matchIfAbsent =>
    -- `h` rules out the range that scores and accepts missing fields: it has no artifact at all
    cases hv : value.isAbsent <;> cases asFilter <;> cases matchIfAbsent <;>
      simp_all [query?, filter?, holds, hasValue, Artifact.holds, Artifact.holdsEach, Sound]

end Constraint

/-! ## Recipes -/

/-- A field that can be used and a value that normalizes make a constraint, when nothing else is
given but what its kind needs. -/
theorem Constraint.check_eq {s : Settings} {variant : Variant} {get : String → Option Value}
    {name : String} {operand : Value} {k : Comparison}
    (hname : checkField s variant (get "field") = .ok (.ok name))
    (hvalue : checkValue s (get "value") = .ok operand) (hmode : get "as_filter_mode" = none)
    (hkind : get "kind" = none) (hk : checkComparison variant get = .ok k) :
    check s variant get = .ok ⟨name, operand, false, k⟩ := by
  simp only [check, hname, hvalue, hmode, hkind, hk, Checked.flag, Checked.tag]

namespace Factory

/-- The kind of the constraints that a factory makes. -/
def variant : Factory → Variant
  | equal => .equal
  | lessThan | greaterThan => .range

/-- How the constraints of a factory compare before any refinement. -/
def comparison : Factory → Comparison
  | equal => .equal false
  | lessThan => .range .lt false
  | greaterThan => .range .gt false

/-- What a factory makes when the field can be used and the value normalizes. -/
theorem make_eq {f : Factory} {s : Settings} {field value : Value} {name : String}
    {operand : Value} (hname : Constraint.checkField s f.variant (some field) = .ok (.ok name))
    (hvalue : value.normalize s = .ok operand) :
    f.make s field value = .ok ⟨name, operand, false, f.comparison⟩ := by
  cases f <;> exact Constraint.check_eq hname hvalue rfl rfl rfl

end Factory

/-- What a constraint is made from: a factory with its arguments, and the refinements that were then
called one after the other. The field is one that the factory takes, known by the name that it gets,
the value is one that normalizes, and the constraint has every refinement called. -/
structure Recipe where
  settings : Settings
  factory : Factory
  field : Value
  value : Value
  calls : List Refinement
  name : String
  operand : Value
  named : Constraint.checkField settings factory.variant (some field) = .ok (.ok name)
  normalized : value.normalize settings = .ok operand
  offered : ∀ call ∈ calls, factory.variant.offers call = true
  plain : Artifact.PlainField name

namespace Recipe

/-- The constraint of a recipe. -/
def build (r : Recipe) : Except Failure Constraint :=
  match r.factory.make r.settings r.field r.value with
  | .error e => .error e
  | .ok c => c.refineAll r.calls

/-- The bound that a range ends with. -/
def finalBound (r : Recipe) (bound : Bound) : Bound :=
  if r.calls.contains .including then bound.widened else bound

/-- What a range of the given first bound says: nothing of an absent value. -/
def rangeHolds (σ : Assignment String Value) (r : Recipe) (bound : Bound) : Bool :=
  r.operand.isAbsent || σ.test r.name (.bound (r.finalBound bound)) r.operand ||
    (r.calls.contains .orEmpty && !σ.present r.name)

/-- What a recipe says: equality with a value that is there, or that the field is missing when the
value is absent and absent values are not ignored, or a range. -/
def holds (σ : Assignment String Value) (r : Recipe) : Bool :=
  match r.factory with
  | .equal =>
    if r.operand.isAbsent then r.calls.contains .ignoreAbsentValues || !σ.present r.name
    else σ.test r.name .eq r.operand
  | .lessThan => r.rangeHolds σ .lt
  | .greaterThan => r.rangeHolds σ .gt

end Recipe

end FieldQuery
