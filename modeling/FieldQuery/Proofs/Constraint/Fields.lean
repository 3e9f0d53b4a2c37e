import FieldQuery.Constraint.Validate
import FieldQuery.Proofs.Constraint.Rendering
import FieldQuery.Proofs.Constraint.RoundTrip

/-!
# The field of a constraint

What is modelled. Every way to a constraint, by a factory, from a value or from a JSON text, leads
through one check of named parts. The check refuses an empty field name at once, whatever else is
wrong, and only then maps the identity attribute of entities to the identity field of the engine.
Nothing looks at the name a second time: refinements keep it, and artifacts are rendered with it.

What is proved.
* `Constraint.checkField_eq_empty_iff`: when the check ends with an empty field.
* `Construction.run_eq_ok_iff`: what a construction makes is what the check makes of its parts.
* `Construction.field_eq_empty_iff`: the one way to an empty field is an empty identity field, for
  the equalities that are mapped to it; and artifacts have the field of their constraint.
* `Construction.empty_identity_accepted`: that way is open.

Which of several complaints is reported for data that is wrong in other ways is left out.
-/

namespace FieldQuery

/-! ## Fields of artifacts -/

namespace Artifact

/-- What comes from a constraint is about the field of the constraint, and about no other. -/
theorem From.fields {c : Constraint} {a : Artifact} (h : a.From c) :
    a.fields ≠ [] ∧ ∀ name ∈ a.fields, name = c.field := by
  induction h with
  | term _ | range _ _ | missing =>
    exact ⟨List.cons_ne_nil _ _, fun name hname => List.mem_singleton.mp hname⟩
  | @anyOf branches hne _ ih =>
    unfold Artifact.fields
    rw [fieldsEach_eq_flatMap]
    constructor
    · intro hempty
      obtain ⟨a, ha⟩ := List.exists_mem_of_ne_nil branches hne
      exact (ih a ha).1 (List.flatMap_eq_nil_iff.mp hempty a ha)
    · intro name hname
      obtain ⟨a, ha, hname⟩ := List.mem_flatMap.mp hname
      exact (ih a ha).2 name hname

end Artifact

/-! ## The check of the field -/

namespace Constraint

/-- The parts describe an equality on what is, in any case of letters, the identity attribute of
entities. -/
def NamesIdentity (s : Settings) (variant : Variant) (field : Option Value) : Prop :=
  variant = .equal ∧ ∃ v name entityId, field = some v ∧ Checked.text v = .ok name ∧
    s.entityIdField = some entityId ∧ Text.lower name = Text.lower entityId

/-- A field name that passes the check is given, as a text that is not empty. -/
theorem checkField_inv {s : Settings} {variant : Variant} {field : Option Value} {name : String}
    (h : checkField s variant field = .ok (.ok name)) : ∃ v given, field = some v ∧
      Checked.text v = .ok given ∧ given ≠ "" ∧ mapIdentity s variant given = .ok name := by
  unfold checkField at h
  split at h
  · cases h
  · next v =>
    split at h
    · cases h
    · next given htext =>
      split at h
      · cases h
      · next hgiven =>
        refine ⟨v, given, rfl, htext, hgiven, ?_⟩
        cases hmap : mapIdentity s variant given with
        | error e =>
          rw [hmap] at h
          cases h
        | ok mapped =>
          rw [hmap] at h
          exact congrArg Except.ok (Except.ok.inj (Except.ok.inj h))

/-- Only what is mapped to an empty identity field becomes an empty name. -/
theorem checkField_eq_empty_iff {s : Settings} {variant : Variant} {field : Option Value}
    {name : String} (h : checkField s variant field = .ok (.ok name)) :
    name = "" ↔ s.idField = some "" ∧ NamesIdentity s variant field := by
  obtain ⟨v, given, rfl, htext, hgiven, hmap⟩ := checkField_inv h
  constructor
  · rintro rfl
    have hid : s.idField = some "" := by
      by_contra hid
      exact mapIdentity_ne_empty hid hgiven hmap rfl
    refine ⟨hid, ?_⟩
    unfold mapIdentity at hmap
    split at hmap
    · exact absurd (Except.ok.inj hmap) hgiven
    · split at hmap
      · cases hmap
      · next entityId hentity =>
        split at hmap
        · next hlower => exact ⟨rfl, v, given, entityId, rfl, htext, hentity, hlower⟩
        · exact absurd (Except.ok.inj hmap) hgiven
  · rintro ⟨hid, rfl, v', given', entityId, hv', htext', hentity, hlower⟩
    obtain rfl := Option.some.inj hv'
    obtain rfl := Except.ok.inj (htext.symm.trans htext')
    unfold mapIdentity at hmap
    rw [hentity, hid] at hmap
    dsimp only at hmap
    rw [if_pos hlower] at hmap
    exact (Except.ok.inj hmap).symm

/-- An empty name ends the check at once. -/
theorem check_emptyField {s : Settings} {variant : Variant} {get : String → Option Value}
    {v : Value} (hfield : get "field" = some v) (htext : Checked.text v = .ok "") :
    check s variant get = .error (.emptyField variant.name) := by
  have hcheck : checkField s variant (get "field") = .error (.emptyField variant.name) := by
    unfold checkField
    rw [hfield]
    dsimp only
    rw [htext]
    exact if_pos rfl
  unfold check
  rw [hcheck]

/-! ## Data -/

/-- The kind and the parts that a value gives for a constraint of the target kind, or of the kind
that it says. -/
def partsOf (target : Option Variant) : Value → Option (Variant × (String → Option Value))
  | .dict entries =>
    (target.or ((Value.lookupText "kind" entries).bind variantOf?)).map fun variant =>
      (variant, fun name => Value.lookupText name entries)
  | _ => none

/-- The result of a check, with places below the tag or without. -/
def Reports (variant : Variant) (checked r : Except Failure Constraint) : Prop :=
  r = checked ∨ r = underTag variant checked

theorem underTag_eq_ok_iff {variant : Variant} {r : Except Failure Constraint} {c : Constraint} :
    underTag variant r = .ok c ↔ r = .ok c := by
  unfold underTag
  split
  · simp
  · rfl

theorem Reports.eq_ok_iff {variant : Variant} {checked r : Except Failure Constraint}
    {c : Constraint} (h : Reports variant checked r) : r = .ok c ↔ checked = .ok c := by
  rcases h with rfl | rfl
  · rfl
  · exact underTag_eq_ok_iff

theorem Reports.emptyField {variant : Variant} {r : Except Failure Constraint} {kind : String}
    (h : Reports variant (.error (.emptyField kind)) r) : r = .error (.emptyField kind) := by
  rcases h with rfl | rfl <;> rfl

/-- Where every kind is refused, every tag is. -/
theorem ofTag_error {tag : Option Value} {next : Variant → Except Failure Constraint}
    (h : ∀ variant, ∃ e, next variant = .error e) : ∃ e, ofTag tag next = .error e := by
  unfold ofTag
  split
  · exact ⟨_, rfl⟩
  · split
    · exact ⟨_, rfl⟩
    · next variant _ =>
      obtain ⟨e, he⟩ := h variant
      rw [he]
      cases e <;> exact ⟨_, rfl⟩

/-- What a value is validated as: its parts are checked if it has them, and it is refused if it has
none. -/
structure Validated (s : Settings) (parts : Option (Variant × (String → Option Value)))
    (r : Except Failure Constraint) : Prop where
  checked : ∀ p ∈ parts, Reports p.1 (check s p.1 p.2) r
  refused : parts = none → ∃ e, r = .error e

theorem validated_ofEntries (s : Settings) (entries : List (Value × Value)) :
    Validated s (partsOf none (.dict entries)) (ofTaggedValue s (.dict entries)) := by
  unfold partsOf ofTaggedValue ofTag
  dsimp only [Option.none_or]
  cases Value.lookupText "kind" entries with
  | none => exact ⟨nofun, fun _ => ⟨_, rfl⟩⟩
  | some tag =>
    dsimp only [Option.bind_some]
    cases variantOf? tag with
    | none => exact ⟨nofun, fun _ => ⟨_, rfl⟩⟩
    | some variant =>
      constructor
      · rintro p hp
        obtain rfl := Option.some.inj hp
        exact .inr rfl
      · exact nofun

theorem validated_value (s : Settings) (target : Option Variant) (v : Value) :
    Validated s (partsOf target v) (validate s target (.value v)) := by
  cases target with
  | some variant =>
    show Validated s (partsOf (some variant) v) (ofValue s variant v)
    cases v with
    | dict entries =>
      constructor
      · rintro p hp
        obtain rfl := Option.some.inj hp
        exact .inl rfl
      · exact nofun
    | _ => exact ⟨nofun, fun _ => ⟨_, rfl⟩⟩
  | none =>
    show Validated s (partsOf none v) (ofTaggedValue s v)
    cases v with
    | dict entries => exact validated_ofEntries s entries
    | entity _ _ _ _ _ | record _ _ _ =>
      exact ⟨nofun, fun _ => ofTag_error fun _ => ⟨_, rfl⟩⟩
    | _ => exact ⟨nofun, fun _ => ⟨_, rfl⟩⟩

theorem validated_json (s : Settings) (target : Option Variant) (v : Value) :
    Validated s (partsOf target v) (ofJsonValue s target v) := by
  cases target with
  | some variant => exact validated_value s (some variant) v
  | none =>
    cases v with
    | dict entries => exact validated_ofEntries s entries
    | _ => exact ⟨nofun, fun _ => ⟨_, rfl⟩⟩

end Constraint

/-- The ways to a constraint: a factory with its arguments, data that is a value, and data that is a
JSON text. Data is taken for a constraint of the target kind, or of the kind that it says. -/
inductive Construction where
  | factory (f : Factory) (field value : Value)
  | data (target : Option Variant) (v : Value)
  | json (target : Option Variant) (text : String)

/-- The parts that a factory gives to the check. -/
def Factory.parts (f : Factory) (field value : Value) : String → Option Value :=
  match f with
  | equal => Constraint.given [("field", field), ("value", value)]
  | lessThan =>
    Constraint.given [("field", field), ("bound", .member Bound.lt.member), ("value", value)]
  | greaterThan =>
    Constraint.given [("field", field), ("bound", .member Bound.gt.member), ("value", value)]

namespace Construction

open Constraint

def run (s : Settings) : Construction → Except Failure Constraint
  | factory f field value => f.make s field value
  | data target v => validate s target (.value v)
  | json target text => validateJson s target text

/-- The kind and the parts that a construction gives, if it gives any. -/
def parts : Construction → Option (Variant × (String → Option Value))
  | factory f field value => some (f.variant, f.parts field value)
  | data target v => partsOf target v
  | json target text => (Json.parse text).bind (partsOf target)

theorem run_validated (s : Settings) (k : Construction) : Validated s k.parts (k.run s) := by
  cases k with
  | factory f field value =>
    constructor
    · rintro p hp
      obtain rfl := Option.some.inj hp
      cases f <;> exact .inl rfl
    · exact nofun
  | data target v => exact validated_value s target v
  | json target text =>
    show Validated s ((Json.parse text).bind (partsOf target)) (validateJson s target text)
    unfold validateJson
    cases Json.parse text with
    | none => exact ⟨nofun, fun _ => ⟨_, rfl⟩⟩
    | some v => exact validated_json s target v

/-- What a construction makes is what the check makes of its parts. -/
theorem run_eq_ok_iff {s : Settings} {k : Construction} {c : Constraint} : k.run s = .ok c ↔
    ∃ variant get, k.parts = some (variant, get) ∧ check s variant get = .ok c := by
  have hvalidated := k.run_validated s
  constructor
  · intro hrun
    cases hparts : k.parts with
    | none =>
      obtain ⟨e, he⟩ := hvalidated.refused hparts
      rw [he] at hrun
      cases hrun
    | some p => exact ⟨p.1, p.2, rfl, (hvalidated.checked p hparts).eq_ok_iff.mp hrun⟩
  · rintro ⟨variant, get, hparts, hcheck⟩
    exact (hvalidated.checked _ hparts).eq_ok_iff.mpr hcheck

/-- The construction gives the empty text for the field. -/
def GivesEmptyField (k : Construction) : Prop :=
  ∃ variant get v, k.parts = some (variant, get) ∧ get "field" = some v ∧ Checked.text v = .ok ""

/-- The construction gives an equality on the identity attribute of entities. -/
def NamesIdentity (s : Settings) (k : Construction) : Prop :=
  ∃ variant get, k.parts = some (variant, get) ∧ Constraint.NamesIdentity s variant (get "field")

/-- An empty field name is refused on every way to a constraint. Of the constraints that do come
into existence, however they are refined, only the equalities on the identity attribute of entities
have an empty field, and only if the identity field of the engine is empty; and a constraint renders
to artifacts on its own field. -/
theorem field_eq_empty_iff (s : Settings) (k : Construction) :
    (k.GivesEmptyField → ∃ e complaint, k.run s = .error e ∧ e.complaint? = some complaint ∧
      complaint.category = .missingField) ∧
    ∀ c₀ calls c, k.run s = .ok c₀ → c₀.refineAll calls = .ok c →
      (c.field = "" ↔ s.idField = some "" ∧ k.NamesIdentity s) ∧
      ∀ a, a ∈ c.query? ∨ a ∈ c.filter? → a.fields ≠ [] ∧ ∀ name ∈ a.fields, name = c.field := by
  constructor
  · rintro ⟨variant, get, v, hparts, hfield, htext⟩
    have hreports := (k.run_validated s).checked _ hparts
    rw [check_emptyField hfield htext] at hreports
    exact ⟨_, _, hreports.emptyField, rfl, rfl⟩
  · intro c₀ calls c hrun hcalls
    obtain ⟨variant, get, hparts, hcheck⟩ := run_eq_ok_iff.mp hrun
    obtain ⟨-, hfield⟩ := check_inv hcheck
    obtain ⟨hkept, -⟩ := refineAll_inv hcalls
    constructor
    · rw [hkept, checkField_eq_empty_iff hfield]
      refine and_congr_right fun _ => ⟨fun h => ⟨variant, get, hparts, h⟩, ?_⟩
      rintro ⟨variant', get', hparts', h⟩
      obtain ⟨rfl, rfl⟩ := Prod.mk.inj (Option.some.inj (hparts.symm.trans hparts'))
      exact h
    · rintro a (ha | ha)
      · exact (query?_from a ha).2.fields
      · exact (filter?_from a ha).fields

/-- The statement at a JSON text of a range that has neither a field name nor a bound, and at data
that names the identity attribute in capitals, refined to a filter. -/
theorem field_eq_empty_iff_capitals :
    let s : Settings := {}
    let unnamed : Construction := .json none "\x7b\"kind\":\"range\",\"field\":\"\"\x7d"
    let capitals : Construction := .data none
      (.object [("value", .int 5), ("kind", .str "equal"), ("field", .str "ID")])
    let c : Constraint := ⟨"_id", .int 5, true, .equal false⟩
    unnamed.GivesEmptyField ∧
      (∃ e complaint, unnamed.run s = .error e ∧ e.complaint? = some complaint ∧
        complaint.category = .missingField) ∧
      capitals.run s = .ok ⟨"_id", .int 5, false, .equal false⟩ ∧ capitals.NamesIdentity s ∧
      (c.field = "" ↔ s.idField = some "" ∧ capitals.NamesIdentity s) ∧
      c.filter? = some (.term "_id" (.int 5)) ∧
      ∀ name ∈ (Artifact.term "_id" (.int 5)).fields, name = c.field := by
  intro s unnamed capitals c
  have hparse : Json.parse "\x7b\"kind\":\"range\",\"field\":\"\"\x7d" =
      some (.object [("kind", .str "range"), ("field", .str "")]) := by
    simp only [Json.parse, String.reduceToList]
    rfl
  have hparts : unnamed.parts = some (.range, fun name =>
      Value.lookupText name [(.str "kind", .str "range"), (.str "field", .str "")]) := by
    unfold unnamed
    rw [parts, hparse]
    rfl
  have hempty : unnamed.GivesEmptyField := ⟨_, _, _, hparts, rfl, rfl⟩
  have hrun : capitals.run s = .ok ⟨"_id", .int 5, false, .equal false⟩ := rfl
  have hcalls : refineAll ⟨"_id", .int 5, false, .equal false⟩ [.asFilter] = .ok c := rfl
  have hnames : capitals.NamesIdentity s :=
    ⟨_, _, rfl, rfl, .str "ID", "ID", "id", rfl, rfl, rfl, by decide⟩
  obtain ⟨hfield, hartifacts⟩ := (field_eq_empty_iff s capitals).2 _ _ _ hrun hcalls
  exact ⟨hempty, (field_eq_empty_iff s unnamed).1 hempty, hrun, hnames, hfield, rfl,
    (hartifacts _ (.inr rfl)).2⟩

/-- With an empty identity field the identity attribute is accepted and mapped to it, and the empty
field is rendered. -/
theorem empty_identity_accepted :
    let s : Settings := { idField := some "" }
    let c : Constraint := ⟨"", .int 5, false, .equal false⟩
    (Construction.factory .equal (.str "id") (.int 5)).run s = .ok c ∧ c.field = "" ∧
      c.query? = some (.term "" (.int 5)) := by
  intro s c
  exact ⟨rfl, rfl, rfl⟩

end Construction

end FieldQuery
