import FieldQuery.Proofs.Constraint.RoundTrip
import FieldQuery.Proofs.Value.Instants

/-!
# When a constraint can be built

What is modelled. No value is refused for what it is, but a moment of another clock has to be moved
to the clock of the configured zone, and the calendar may end on the way. The way leads over
Greenwich: the calendar must have the instant there, and then the local time of the zone at that
instant. The zone is any that the settings choose, from whatever source of zones.

What is proved. Whatever does not stray from the calendar in this sense normalizes, and every
factory makes a constraint on the result; whatever does is out of range for normalization and for
every factory alike (`building_returns`). So even a local time that the zone does show is refused
when only the stop in Greenwich lies outside of the calendar (`first_midnight_refused`).

Left out are settings that choose no zone, identity settings that are no texts, and the empty field:
they are refused for what they are.
-/

namespace FieldQuery

/-- A listed zone is chosen by its name. -/
theorem Settings.chooses_of_known {z : Zone} (h : z ∈ Zone.known) :
    ({ timeZone := .named z.name } : Settings).Chooses z := by
  have hnamed : ∀ z ∈ Zone.known, z.name ≠ "" ∧ Zone.named? z.name = some z := by decide +kernel
  exact zone_eq_ok_iff.mp (zone_of_named? (hnamed z h).2 (hnamed z h).1)

/-! ## Values on the way to the configured zone -/

/-- The value is a moment of another clock, and on its way to the clock of the zone it leaves the
calendar: in Greenwich, or when it arrives. -/
def Value.Strays (z : Zone) : Value → Prop
  | moment m => ∃ t, m.instant? = some t ∧ m.anchor ≠ .zone z ∧
      ¬ (InCalendar t ∧ InCalendar (t + z.offsetAt t))
  | _ => False

theorem Civil.ofMicros?_eq_none_iff {t : Int} : ofMicros? t = none ↔ ¬ InCalendar t := by
  constructor
  · rintro h ⟨c, hc⟩
    rw [ofMicros?_eq_some_iff.mpr hc] at h
    cases h
  · intro h
    cases hc : ofMicros? t with
    | none => rfl
    | some c => exact absurd ⟨c, ofMicros?_eq_some_iff.mp hc⟩ h

namespace Moment

variable {z : Zone}

theorem civilIn?_eq_none_iff {t : Int} :
    civilIn? z t = none ↔ ¬ (InCalendar t ∧ InCalendar (t + z.offsetAt t)) := by
  unfold civilIn?
  split
  · next hout =>
    have hout' := Civil.ofMicros?_eq_none_iff.mp hout
    exact ⟨fun _ hboth => hout' hboth.1, fun _ => rfl⟩
  · next c hin =>
    have hin' : InCalendar t := ⟨c, Civil.ofMicros?_eq_some_iff.mp hin⟩
    rw [Civil.ofMicros?_eq_none_iff]
    exact ⟨fun hout hboth => hout hboth.2, fun hout hlocal => hout ⟨hin', hlocal⟩⟩

theorem inZone?_eq_none_iff {m : Moment} : m.inZone? z = none ↔ (Value.moment m).Strays z := by
  show m.inZone? z = none ↔ ∃ t, m.instant? = some t ∧ m.anchor ≠ .zone z ∧
    ¬ (InCalendar t ∧ InCalendar (t + z.offsetAt t))
  unfold inZone?
  cases m.instant? with
  | none => simp
  | some t =>
    by_cases hz : m.anchor = .zone z
    · simp [hz]
    · simp [hz, civilIn?_eq_none_iff]

end Moment

section Normalization

variable {s : Settings} {z : Zone}

/-- A moment keeps or finds a place in the calendar, or it strays from it. -/
theorem Moment.normalText_decides (hs : s.zone = .ok z) (m : Moment) :
    (¬ (Value.moment m).Strays z → ∃ text, m.normalText s = .ok text) ∧
      ((Value.moment m).Strays z → m.normalText s = .error .outOfRange) := by
  unfold normalText
  cases ho : m.offset? with
  | none =>
    refine ⟨fun _ => ⟨_, rfl⟩, ?_⟩
    rintro ⟨t, ht, -⟩
    unfold instant? at ht
    rw [ho] at ht
    cases ht
  | some o =>
    rw [hs]
    dsimp only
    constructor
    · intro hstays
      cases hc : m.inZone? z with
      | none => exact absurd (inZone?_eq_none_iff.mp hc) hstays
      | some c => exact ⟨_, rfl⟩
    · intro hstrays
      rw [inZone?_eq_none_iff.mpr hstrays]

/-- Only moments can fail to normalize. -/
theorem Value.normalize_total {v : Value} (h : ∀ m, v ≠ moment m) : ∃ r, v.normalize s = .ok r := by
  cases v with
  | moment m => exact absurd rfl (h m)
  | member m =>
    rw [normalize]
    cases m.name? <;> exact ⟨_, rfl⟩
  | entity _ identity _ _ _ => cases identity <;> exact ⟨_, rfl⟩
  | reference identity => cases identity <;> exact ⟨_, rfl⟩
  | _ => exact ⟨_, rfl⟩

/-- Every value that stays in the calendar normalizes, and no other one does. -/
theorem Value.normalize_decides (hs : s.zone = .ok z) (v : Value) :
    (¬ v.Strays z → ∃ r, v.normalize s = .ok r) ∧
      (v.Strays z → v.normalize s = .error .outOfRange) := by
  by_cases hmoment : ∃ m, v = moment m
  · obtain ⟨m, rfl⟩ := hmoment
    obtain ⟨hstays, hstrays⟩ := m.normalText_decides hs
    rw [normalize]
    constructor
    · intro h
      obtain ⟨text, htext⟩ := hstays h
      exact ⟨_, by rw [htext]; rfl⟩
    · intro h
      rw [hstrays h]
      rfl
  · have hother : ∀ m, v ≠ moment m := fun m hm => hmoment ⟨m, hm⟩
    refine ⟨fun _ => normalize_total hother, fun hstrays => ?_⟩
    unfold Strays at hstrays
    split at hstrays
    · next m => exact absurd rfl (hother m)
    · exact hstrays.elim

end Normalization

/-! ## Factories -/

namespace Constraint

/-- Where both identity settings are texts, every field has a name. -/
theorem mapIdentity_total {s : Settings} {idField entityIdField : String}
    (hid : s.idField = some idField) (hentity : s.entityIdField = some entityIdField)
    (variant : Variant) (field : String) : ∃ name, mapIdentity s variant field = .ok name := by
  cases variant with
  | range => exact ⟨field, rfl⟩
  | equal =>
    unfold mapIdentity
    rw [hentity, hid]
    dsimp only
    split <;> exact ⟨_, rfl⟩

/-- A failure to normalize the value ends the check of a field that can be used. -/
theorem check_error {s : Settings} {variant : Variant} {get : String → Option Value}
    {name : Checked String} {e : Failure} (hname : checkField s variant (get "field") = .ok name)
    (hvalue : checkValue s (get "value") = .error e) : check s variant get = .error e := by
  unfold check
  rw [hname, hvalue]

end Constraint

theorem Factory.make_error {f : Factory} {s : Settings} {field value : Value}
    {name : Checked String} {e : Failure}
    (hname : Constraint.checkField s f.variant (some field) = .ok name)
    (hvalue : value.normalize s = .error e) : f.make s field value = .error e := by
  cases f <;> exact Constraint.check_error hname hvalue

/-- Under settings that choose a zone, values that stay in the calendar on their way to that zone
normalize, and all factories make constraints on the result, whatever the field. Values that stray
from the calendar are out of range for normalization and for all factories. -/
theorem building_returns {s : Settings} {z : Zone} {idField entityIdField field : String}
    (hzone : s.Chooses z) (hid : s.idField = some idField)
    (hentity : s.entityIdField = some entityIdField) (hfield : field ≠ "") (v : Value) :
    (¬ v.Strays z → ∃ r, v.normalize s = .ok r ∧ ∀ f : Factory, ∃ c,
      f.make s (.str field) v = .ok c ∧ c.value = r ∧ c.comparison = f.comparison) ∧
    (v.Strays z → v.normalize s = .error .outOfRange ∧ ∀ f : Factory,
      f.make s (.str field) v = .error .outOfRange) := by
  obtain ⟨hstays, hstrays⟩ := v.normalize_decides (Settings.zone_eq_ok_iff.mpr hzone)
  have hname : ∀ f : Factory, ∃ name,
      Constraint.checkField s f.variant (some (.str field)) = .ok (.ok name) := by
    intro f
    obtain ⟨name, hname⟩ := Constraint.mapIdentity_total hid hentity f.variant field
    exact ⟨name, by rw [Constraint.checkField_str s f.variant hfield, hname]; rfl⟩
  constructor
  · intro h
    obtain ⟨r, hr⟩ := hstays h
    refine ⟨r, hr, fun f => ?_⟩
    obtain ⟨name, hname⟩ := hname f
    exact ⟨_, Factory.make_eq hname hr, rfl, rfl⟩
  · intro h
    refine ⟨hstrays h, fun f => ?_⟩
    obtain ⟨name, hname⟩ := hname f
    exact Factory.make_error hname (hstrays h)

/-- The statement at the last day of the calendar, read in Greenwich for the clock of Tokyo, nine
hours ahead: at half past two in the afternoon it is still that day there, and an hour later the
year 10000 has begun. -/
theorem building_returns_tokyo :
    ∃ z ∈ Zone.known, z.name = "Asia/Tokyo" ∧
      let s : Settings := { timeZone := .named z.name }
      let lastDay : Date := ⟨9999, 12, 31, by decide⟩
      let early : Value := .moment ⟨halfPast 14 lastDay, false, .offset 0⟩
      let late : Value := .moment ⟨halfPast 15 lastDay, false, .offset 0⟩
      s.Chooses z ∧ ¬ early.Strays z ∧ late.Strays z ∧
        (∃ r, early.normalize s = .ok r ∧ ∀ f : Factory, ∃ c,
          f.make s (.str "id") early = .ok c ∧ c.value = r ∧ c.comparison = f.comparison) ∧
        late.normalize s = .error .outOfRange ∧
        ∀ f : Factory, f.make s (.str "id") late = .error .outOfRange := by
  have hfind : ∃ z ∈ Zone.known, z.name = "Asia/Tokyo" ∧
      (halfPast 14 ⟨9999, 12, 31, by decide⟩).micros +
          z.offsetAt (halfPast 14 ⟨9999, 12, 31, by decide⟩).micros =
        (halfPast 23 ⟨9999, 12, 31, by decide⟩).micros ∧
      Civil.ofMicros? ((halfPast 15 ⟨9999, 12, 31, by decide⟩).micros +
        z.offsetAt (halfPast 15 ⟨9999, 12, 31, by decide⟩).micros) = none := by
    decide +kernel
  obtain ⟨z, hz, hname, hearly, hlate⟩ := hfind
  refine ⟨z, hz, hname, ?_⟩
  intro s lastDay early late
  have hzone : s.Chooses z := Settings.chooses_of_known hz
  have hinstant : ∀ civil : Civil,
      (⟨civil, false, .offset 0⟩ : Moment).instant? = some (civil.micros : Int) := by
    intro civil
    show some ((civil.micros : Int) - 0) = some (civil.micros : Int)
    rw [Int.sub_zero]
  have hstays : ¬ early.Strays z := by
    rintro ⟨t, ht, -, hout⟩
    rw [hinstant] at ht
    obtain rfl := Option.some.inj ht
    exact hout ⟨⟨_, rfl⟩, ⟨_, hearly.symm⟩⟩
  have hstrays : late.Strays z :=
    ⟨_, hinstant _, nofun, fun hboth => Civil.ofMicros?_eq_none_iff.mp hlate hboth.2⟩
  have hfield : "id" ≠ "" := by decide
  obtain ⟨hbuilt, -⟩ := building_returns hzone (s := s) rfl rfl hfield early
  obtain ⟨-, hrefused⟩ := building_returns hzone (s := s) rfl rfl hfield late
  exact ⟨hzone, hstays, hstrays, hbuilt hstays, hrefused hstrays⟩

/-- The first midnight of the calendar on a clock one hour ahead of Greenwich. A zone of that same
hour shows this midnight at that instant, but the way to it leads over Greenwich, where the calendar
has not yet begun. -/
theorem first_midnight_refused :
    let z := Zone.steady "Etc/GMT-1" 1
    let s : Settings := { timeZone := .named "Etc/GMT-1" }
    let midnight : Civil := ⟨⟨1, 1, 1, by decide⟩, TimeOfDay.ofMicros 0⟩
    let a : Moment := ⟨midnight, false, .offset (3600 * secondMicros)⟩
    s.Chooses z ∧ a.instant? = some (-(3600 * secondMicros : Nat) : Int) ∧
      Shows z.offsetAt midnight.micros (-(3600 * secondMicros : Nat)) ∧
      (Value.moment a).normalize s = .error .outOfRange ∧
      ∀ f : Factory, f.make s (.str "f") (.moment a) = .error .outOfRange := by
  intro z s midnight a
  have hzone : s.Chooses z := Settings.chooses_of_known (z := z) (by decide +kernel)
  have hinstant : a.instant? = some (-(3600 * secondMicros : Nat) : Int) := by decide +kernel
  have hshown : Shows z.offsetAt midnight.micros (-(3600 * secondMicros : Nat)) := by
    unfold Shows
    decide +kernel
  have hbefore : Civil.ofMicros? (-(3600 * secondMicros : Nat) : Int) = none := by decide +kernel
  have hstrays : (Value.moment a).Strays z :=
    ⟨_, hinstant, nofun, fun hboth => Civil.ofMicros?_eq_none_iff.mp hbefore hboth.1⟩
  have hs : s.zone = .ok z := Settings.zone_eq_ok_iff.mpr hzone
  have hrefused := ((Value.moment a).normalize_decides hs).2 hstrays
  refine ⟨hzone, hinstant, hshown, hrefused, fun f => ?_⟩
  obtain ⟨name, hname⟩ := Constraint.mapIdentity_total (s := s) rfl rfl f.variant "f"
  have hfield : Constraint.checkField s f.variant (some (.str "f")) = .ok (.ok name) := by
    rw [Constraint.checkField_str s f.variant (by decide), hname]
    rfl
  exact Factory.make_error hfield hrefused

end FieldQuery
