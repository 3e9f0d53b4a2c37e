import FieldQuery.Normalize
import FieldQuery.Proofs.Calendar.KnownZones
import FieldQuery.Proofs.Calendar.Texts

/-!
# Instants become local times of the configured zone

What is modelled. Zones come from a source, which gives the zone of a name and the one that the
system keeps; the listed zones are one such source. A moment that stands for an instant is moved to
the clock of the configured zone over Greenwich, unless it carries that zone itself: then it is not
moved at all.

What is proved. The clocks of the listed zones are read as they show
(`Zone.Source.faithful_listed`). With any source of which this can be said, moments that stand for
the same instant normalize to the same text, that of the local time which the configured zone shows
at it, from whatever clock they were read (`normalize_same_instant`), with one exception: a local
time that the configured zone skipped is kept, although the zone shows another one at the instant
that it stands for (`skipped_half_hour_kept`).

Instants that the calendar cannot show, in Greenwich or in the zone, are left to the account of when
a constraint can be built.
-/

namespace FieldQuery

/-- The instant is one that the calendar of Greenwich can show. -/
def InCalendar (t : Int) : Prop := ∃ c : Civil, (c.micros : Int) = t

/-! ## The configured zone -/

/-- All clocks of a source are read as they show. -/
structure Zone.Source.Faithful (source : Zone.Source) : Prop where
  named : ∀ {name : String} {z : Zone}, source.find name = .ok z →
    FieldQuery.Faithful z.offsetAt z.offsetOfLocal
  system : FieldQuery.Faithful source.system.offsetAt source.system.offsetOfLocal

theorem Zone.Source.faithful_listed : Source.listed.Faithful where
  named {name z} h := by
    have hfind : Zone.find name = .ok z := h
    rw [Zone.find] at hfind
    split at hfind
    · next found hnamed =>
      obtain rfl := Except.ok.inj hfind
      exact faithful_of_known (List.mem_of_find?_eq_some hnamed)
    · cases hfind
  system := faithful_greenwich

/-- The setting leaves the choice to the system, or its name stands for the zone. -/
def Settings.Chooses (s : Settings) (z : Zone) : Prop :=
  (s.timeZone = .unset ∨ s.timeZone = .named "") ∧ z = s.zones.system ∨
    ∃ name, s.timeZone = .named name ∧ name ≠ "" ∧ s.zones.find name = .ok z

/-- The zone that a setting chooses is the configured one, and no other is. -/
theorem Settings.zone_eq_ok_iff {s : Settings} {z : Zone} : s.zone = .ok z ↔ s.Chooses z := by
  unfold zone Chooses
  cases s.timeZone with
  | unset => simp [eq_comm]
  | unfit => simp
  | named name =>
    by_cases hname : name = ""
    · simp [hname, eq_comm]
    · cases hfind : s.zones.find name with
      | ok z' => simp [hname, hfind]
      | error e => cases e <;> simp [hname, hfind]

theorem Settings.zone_faithful {s : Settings} {z : Zone} (h : s.zones.Faithful)
    (hs : s.zone = .ok z) : FieldQuery.Faithful z.offsetAt z.offsetOfLocal := by
  obtain ⟨-, rfl⟩ | ⟨name, -, -, hfind⟩ := zone_eq_ok_iff.mp hs
  · exact h.system
  · exact h.named hfind

/-- A listed zone is configured by its name. -/
theorem Settings.zone_of_named? {name : String} {z : Zone} (hz : Zone.named? name = some z)
    (hname : name ≠ "") : ({ timeZone := .named name } : Settings).zone = .ok z := by
  have hfind : Zone.find name = .ok z := by
    rw [Zone.find, hz]
  exact zone_eq_ok_iff.mpr (.inr ⟨name, rfl, hname, hfind⟩)

namespace Moment

/-- The moment carries the zone, and the clocks of the zone never show its local time. -/
def Skipped (z : Zone) (m : Moment) : Prop :=
  m.anchor = .zone z ∧ ∀ t, ¬ Shows z.offsetAt m.civil.micros t

variable {s : Settings} {z : Zone} {a b : Moment} {t : Int} {c : Civil}

/-- A moment on another clock becomes what the zone shows at its instant. -/
theorem inZone?_of_anchor_ne (ha : a.instant? = some t) (hz : a.anchor ≠ .zone z)
    (ht : InCalendar t) (hc : Shows z.offsetAt c.micros t) : a.inZone? z = some c := by
  obtain ⟨u, rfl⟩ := ht
  rw [inZone?, ha]
  dsimp only
  rw [if_neg hz, civilIn?, Civil.ofMicros?_micros]
  dsimp only
  rw [hc, Civil.ofMicros?_micros]

/-- A moment on the clock of the zone stays as it is. -/
theorem inZone?_of_anchor_eq (hz : a.anchor = .zone z) : a.inZone? z = some a.civil := by
  have hinstant : ∃ t, a.instant? = some t := by
    rw [instant?, offset?, hz]
    exact ⟨_, rfl⟩
  obtain ⟨t, ht⟩ := hinstant
  rw [inZone?, ht]
  exact if_pos hz

/-- The clock of the zone shows the moment's local time at its instant unless it never does. -/
theorem shows_of_anchor_eq (hz : a.anchor = .zone z)
    (hfaithful : Faithful z.offsetAt z.offsetOfLocal) (ha : a.instant? = some t) :
    Shows z.offsetAt a.civil.micros t ↔ ¬ a.Skipped z := by
  have hread : a.civil.micros - z.offsetOfLocal a.civil.micros a.fold = t := by
    rw [instant?, offset?, hz] at ha
    exact Option.some.inj ha
  constructor
  · intro hshow hskipped
    exact hskipped.2 t hshow
  · intro hshown
    obtain ⟨u, hu⟩ : ∃ u, Shows z.offsetAt a.civil.micros u := by
      refine Classical.byContradiction fun hnone => hshown ⟨hz, fun u hu => hnone ⟨u, hu⟩⟩
    rw [← hread]
    exact hfaithful.shown a.fold hu

theorem normalize_of_inZone? (hs : s.zone = .ok z) (ha : a.instant? = some t)
    (hc : a.inZone? z = some c) : (Value.moment a).normalize s = .ok (.str c.isoText) := by
  obtain ⟨o, ho, -⟩ := Option.map_eq_some_iff.mp ha
  rw [Value.normalize, normalText, ho, hs]
  dsimp only
  rw [hc]
  rfl

/-- A moment becomes the local time of its instant, unless the configured zone skipped it. -/
theorem normalize_instant (hfaithful : Faithful z.offsetAt z.offsetOfLocal) (hs : s.zone = .ok z)
    (ha : a.instant? = some t) (ht : InCalendar t) (hc : Shows z.offsetAt c.micros t) :
    (Value.moment a).normalize s = .ok (.str c.isoText) ↔ ¬ a.Skipped z := by
  by_cases hz : a.anchor = .zone z
  · have hkept := normalize_of_inZone? hs ha (inZone?_of_anchor_eq hz)
    have hshows := shows_of_anchor_eq hz hfaithful ha
    have htexts : a.civil.isoText = c.isoText ↔ Shows z.offsetAt a.civil.micros t := by
      rw [(Civil.texts_ordered a.civil c).2.1]
      unfold Shows at hc ⊢
      omega
    rw [hkept, ← hshows, ← htexts]
    simp
  · have hmoved := normalize_of_inZone? hs ha (inZone?_of_anchor_ne ha hz ht hc)
    exact ⟨fun _ hskipped => hz hskipped.1, fun _ => hmoved⟩

end Moment

open Moment in
/-- Wherever zones come from, as long as their clocks are read as they show: two moments that stand
for the same instant normalize to the same text, that of the local time which the configured zone
shows at it, unless one of them carries that zone with a local time that it skipped. -/
theorem normalize_same_instant {s : Settings} {z : Zone} {a b : Moment} {t : Int} {c : Civil}
    (hzones : s.zones.Faithful) (hs : s.zone = .ok z) (ha : a.instant? = some t)
    (hb : b.instant? = some t) (ht : InCalendar t) (hc : Shows z.offsetAt c.micros t) :
    ((Value.moment a).normalize s = (Value.moment b).normalize s ∧
      (Value.moment a).normalize s = .ok (.str c.isoText)) ↔ ¬ a.Skipped z ∧ ¬ b.Skipped z := by
  have hfaithful := Settings.zone_faithful hzones hs
  rw [← normalize_instant hfaithful hs ha ht hc, ← normalize_instant hfaithful hs hb ht hc]
  constructor
  · rintro ⟨hsame, hlocal⟩
    exact ⟨hlocal, hsame ▸ hlocal⟩
  · rintro ⟨ha', hb'⟩
    exact ⟨ha'.trans hb'.symm, ha'⟩

/-- The civil date-time `hour` hours and a half into the given day. -/
def halfPast (hour : Nat) (d : Date) : Civil :=
  ⟨d, TimeOfDay.ofMicros ((hour * 60 + 30) * 60 * secondMicros)⟩

/-- The statement at a half hour that Berlin has twice: the later reading of its own clock, and a
clock nine hours before Greenwich. -/
theorem normalize_same_instant_berlin :
    ∃ z : Zone, Zone.named? "Europe/Berlin" = some z ∧
      let s : Settings := { timeZone := .named "Europe/Berlin" }
      let autumn : Date := ⟨2024, 10, 27, by decide⟩
      let a : Moment := ⟨halfPast 2 autumn, true, .zone z⟩
      let b : Moment := ⟨halfPast 10 autumn, false, .offset (9 * 3600 * secondMicros)⟩
      let t : Int := (halfPast 1 autumn).micros
      s.zones.Faithful ∧ s.zone = .ok z ∧ a.instant? = some t ∧ b.instant? = some t ∧
        Shows z.offsetAt (halfPast 2 autumn).micros t ∧ ¬ a.Skipped z ∧ ¬ b.Skipped z ∧
        (Value.moment a).normalize s = (Value.moment b).normalize s ∧
        (Value.moment a).normalize s = .ok (.str "2024-10-27T02:30:00") := by
  have hfind : ∃ z ∈ Zone.known, Zone.named? "Europe/Berlin" = some z ∧
      (⟨halfPast 2 ⟨2024, 10, 27, by decide⟩, true, .zone z⟩ : Moment).instant? =
        some ((halfPast 1 ⟨2024, 10, 27, by decide⟩).micros : Int) ∧
      Shows z.offsetAt (halfPast 2 ⟨2024, 10, 27, by decide⟩).micros
        (halfPast 1 ⟨2024, 10, 27, by decide⟩).micros := by
    unfold Shows
    decide +kernel
  obtain ⟨z, -, hz, ha, hc⟩ := hfind
  refine ⟨z, hz, ?_⟩
  intro s autumn a b t
  have hs : s.zone = .ok z := Settings.zone_of_named? hz (by decide)
  have hb : b.instant? = some t := by decide +kernel
  have hown : ¬ a.Skipped z := fun h => h.2 t hc
  have hother : ¬ b.Skipped z := fun h => nomatch h.1
  have htext : (halfPast 2 autumn).isoText = "2024-10-27T02:30:00" := by decide +kernel
  have hzones : s.zones.Faithful := Zone.Source.faithful_listed
  have hsame := (normalize_same_instant hzones hs ha hb ⟨_, rfl⟩ hc).mpr ⟨hown, hother⟩
  rw [htext] at hsame
  exact ⟨hzones, hs, ha, hb, hc, hown, hother, hsame⟩

/-- Berlin skipped the half hour after two in spring. A moment of that time on its own clock stands
for the instant at which Greenwich shows half past one and Berlin half past three, and keeps its
time. -/
theorem skipped_half_hour_kept :
    ∃ z : Zone, Zone.named? "Europe/Berlin" = some z ∧
      let s : Settings := { timeZone := .named "Europe/Berlin" }
      let spring : Date := ⟨2024, 3, 31, by decide⟩
      let a : Moment := ⟨halfPast 2 spring, false, .zone z⟩
      let b : Moment := ⟨halfPast 1 spring, false, .offset 0⟩
      let t : Int := (halfPast 1 spring).micros
      s.zone = .ok z ∧ a.instant? = some t ∧ b.instant? = some t ∧
        Shows z.offsetAt (halfPast 3 spring).micros t ∧
        (Value.moment a).normalize s = .ok (.str "2024-03-31T02:30:00") ∧
        (Value.moment b).normalize s = .ok (.str "2024-03-31T03:30:00") := by
  have hfind : ∃ z ∈ Zone.known, Zone.named? "Europe/Berlin" = some z ∧
      (⟨halfPast 2 ⟨2024, 3, 31, by decide⟩, false, .zone z⟩ : Moment).instant? =
        some ((halfPast 1 ⟨2024, 3, 31, by decide⟩).micros : Int) ∧
      Shows z.offsetAt (halfPast 3 ⟨2024, 3, 31, by decide⟩).micros
        (halfPast 1 ⟨2024, 3, 31, by decide⟩).micros := by
    unfold Shows
    decide +kernel
  obtain ⟨z, -, hz, ha, hc⟩ := hfind
  refine ⟨z, hz, ?_⟩
  intro s spring a b t
  have hs : s.zone = .ok z := Settings.zone_of_named? hz (by decide)
  have hb : b.instant? = some t := by decide +kernel
  have hkept : (halfPast 2 spring).isoText = "2024-03-31T02:30:00" := by decide +kernel
  have hmoved : (halfPast 3 spring).isoText = "2024-03-31T03:30:00" := by decide +kernel
  refine ⟨hs, ha, hb, hc, ?_, ?_⟩
  · rw [Moment.normalize_of_inZone? hs ha (Moment.inZone?_of_anchor_eq rfl), hkept]
  · rw [Moment.normalize_of_inZone? hs hb (Moment.inZone?_of_anchor_ne hb nofun ⟨_, rfl⟩ hc),
      hmoved]

end FieldQuery
