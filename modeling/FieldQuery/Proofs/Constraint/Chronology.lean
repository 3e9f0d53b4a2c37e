import FieldQuery.Proofs.Constraint.Meaning
import FieldQuery.Proofs.Value.Instants

/-!
# Dates stand in the order of their texts

What is modelled. An index compares what it stores as texts. A document stores a text in a field
when its ranges over that field compare by code points (`Stores`); any assignment of truth that does
so will do.

What is proved. The normalized texts of civil date-times, of dates, and of instants under Greenwich
time compare by code points as these follow each other in time, and are equal only for equal ones
(`texts_in_order`). So a range over them selects what lies in the chronological range: the artifacts
that it renders to hold of a stored text exactly when what was stored lies beyond the bound. The
constraint may be refined in any way, as long as it does not score and accept missing fields at
once.

Left out are zones that change their clocks, where local times come back and so cannot follow time,
and instants that the calendar cannot show.
-/

namespace FieldQuery

/-- Whether `a` lies in the range that has its end at `b`. -/
def Bound.Admits {α : Type} [LT α] [LE α] : Bound → α → α → Prop
  | .lt, a, b => a < b
  | .lte, a, b => a ≤ b
  | .gt, a, b => b < a
  | .gte, a, b => b ≤ a

instance (bound : Bound) (x y : String) : Decidable (bound.Admits x y) :=
  match bound with
  | .lt => inferInstanceAs (Decidable (x < y))
  | .lte => inferInstanceAs (Decidable (x ≤ y))
  | .gt => inferInstanceAs (Decidable (y < x))
  | .gte => inferInstanceAs (Decidable (y ≤ x))

/-- Where texts compare as places in time do, the ranges are the same. -/
theorem Bound.admits_iff {x y : String} {n m : Int} (hlt : x < y ↔ n < m) (hgt : y < x ↔ m < n)
    (bound : Bound) : bound.Admits x y ↔ bound.Admits n m := by
  cases bound with
  | lt => exact hlt
  | lte => exact String.not_lt.symm.trans ((not_congr hgt).trans Int.not_lt)
  | gt => exact hgt
  | gte => exact String.not_lt.symm.trans ((not_congr hlt).trans Int.not_lt)

/-- The document has the text `x` in the field, and its fields are compared by code points. -/
structure Stores (σ : Assignment String Value) (field x : String) : Prop where
  present : σ.present field = true
  ranges : ∀ (bound : Bound) (y : String),
    σ.test field (.bound bound) (.str y) = true ↔ bound.Admits x y

/-- A document that has the text in every field. -/
def storing (x : String) : Assignment String Value where
  test _ op operand :=
    match op, operand with
    | .bound bound, .str y => decide (bound.Admits x y)
    | .eq, .str y => x == y
    | _, _ => false
  present _ := true

theorem storing_stores (field x : String) : Stores (storing x) field x :=
  ⟨rfl, fun _ _ => decide_eq_true_iff⟩

/-- Two values normalize to texts that compare as their places in time do. -/
structure InOrder (s : Settings) (v w : Value) (n m : Int) : Prop where
  texts : ∃ x y : String, v.normalize s = .ok (.str x) ∧ w.normalize s = .ok (.str y) ∧
    (x < y ↔ n < m) ∧ (x = y ↔ n = m)
  /-- Of a document that stores the first value, a range with its end at the second one says that
  the first value lies in that range of time. -/
  ranges : ∀ (c : Constraint) (bound : Bound) (matchIfAbsent : Bool) (x : String)
    (σ : Assignment String Value), c.Sound → c.comparison = .range bound matchIfAbsent →
    w.normalize s = .ok c.value → v.normalize s = .ok (.str x) → Stores σ c.field x →
    ((c.query?.all (Artifact.holds σ) && c.filter?.all (Artifact.holds σ)) = true ↔
      bound.Admits n m)

theorem InOrder.of_texts {s : Settings} {v w : Value} {x y : String} {n m : Int}
    (hv : v.normalize s = .ok (.str x)) (hw : w.normalize s = .ok (.str y))
    (hlt : x < y ↔ n < m) (hgt : y < x ↔ m < n) (heq : x = y ↔ n = m) : InOrder s v w n m := by
  constructor
  case texts => exact ⟨x, y, hv, hw, hlt, heq⟩
  case ranges =>
    intro c bound matchIfAbsent x' σ hsound hrange hc hx' hstored
    obtain rfl : x = x' := Value.str.inj (Except.ok.inj (hv.symm.trans hx'))
    have hvalue : c.value = .str y := (Except.ok.inj (hw.symm.trans hc)).symm
    have hmeaning : c.holds σ = σ.test c.field (.bound bound) (.str y) := by
      rw [Constraint.holds, hrange, Constraint.hasValue, hvalue, hstored.present]
      simp [Value.isAbsent]
    rw [Constraint.artifacts_hold hsound, hmeaning, hstored.ranges bound y]
    exact Bound.admits_iff hlt hgt bound

/-! ## Normalized dates -/

theorem Moment.normalize_of_naive {s : Settings} {a : Moment} (h : a.offset? = none) :
    (Value.moment a).normalize s = .ok (.str a.civil.isoText) := by
  rw [Value.normalize, Moment.normalText, h]
  rfl

/-- Under Greenwich time an instant becomes the date-time that the calendar shows at it, whatever
clock it was read from. -/
theorem Moment.normalize_greenwich {s : Settings} {a : Moment} {t : Int} {c : Civil}
    (hs : s.zone = .ok Zone.greenwich) (ha : a.instant? = some t) (hc : (c.micros : Int) = t) :
    (Value.moment a).normalize s = .ok (.str c.isoText) := by
  have hshow : Shows Zone.greenwich.offsetAt c.micros t := by
    rw [← hc]
    exact Int.add_zero _
  have hnever : ¬ a.Skipped Zone.greenwich := fun h => h.2 a.civil.micros (Int.add_zero _)
  exact (normalize_instant Zone.faithful_greenwich hs ha ⟨c, hc⟩ hshow).mpr hnever

/-- Normalized texts stand in the order of time: those of civil date-times and those of dates under
all settings, and those of instants under Greenwich time. -/
theorem texts_in_order (s : Settings) :
    (∀ a b : Moment, a.offset? = none → b.offset? = none →
      InOrder s (.moment a) (.moment b) a.civil.micros b.civil.micros ∧
        (a.same b = true ↔ a.civil.micros = b.civil.micros)) ∧
    (∀ a b : Date, InOrder s (.date a) (.date b) a.dayNumber b.dayNumber ∧
      (a = b ↔ a.dayNumber = b.dayNumber)) ∧
    (s.zone = .ok Zone.greenwich → ∀ (a b : Moment) (t u : Int), a.instant? = some t →
      b.instant? = some u → InCalendar t → InCalendar u →
      InOrder s (.moment a) (.moment b) t u) := by
  refine ⟨fun a b ha hb => ?_, fun a b => ?_, fun hs a b t u ha hb hct hcu => ?_⟩
  · obtain ⟨hlt, heq, hsame⟩ := Civil.texts_ordered a.civil b.civil
    have hgt := (Civil.texts_ordered b.civil a.civil).1
    have hequal : a.same b = decide (a.civil = b.civil) := by
      rw [Moment.same, Moment.instant?, Moment.instant?, ha, hb]
      simp
    refine ⟨?_, by rw [hequal, decide_eq_true_iff, hsame]⟩
    exact .of_texts (Moment.normalize_of_naive ha) (Moment.normalize_of_naive hb)
      (hlt.trans Int.ofNat_lt.symm) (hgt.trans Int.ofNat_lt.symm) (heq.trans Int.ofNat_inj.symm)
  · obtain ⟨hlt, heq, hsame⟩ := Date.texts_ordered a b
    have hgt := (Date.texts_ordered b a).1
    exact ⟨.of_texts rfl rfl (hlt.trans Int.ofNat_lt.symm) (hgt.trans Int.ofNat_lt.symm)
      (heq.trans Int.ofNat_inj.symm), hsame.symm⟩
  · obtain ⟨c, rfl⟩ := hct
    obtain ⟨d, rfl⟩ := hcu
    obtain ⟨hlt, heq, -⟩ := Civil.texts_ordered c d
    have hgt := (Civil.texts_ordered d c).1
    exact .of_texts (Moment.normalize_greenwich hs ha rfl) (Moment.normalize_greenwich hs hb rfl)
      (hlt.trans Int.ofNat_lt.symm) (hgt.trans Int.ofNat_lt.symm) (heq.trans Int.ofNat_inj.symm)

/-- The statement at the last microsecond of a leap day and the midnight after it, which is written
without microseconds: as civil date-times, as dates, and as instants that were read from clocks on
either side of Greenwich. A range up to the midnight, the midnight itself left out, holds of the
text of the instant before it. -/
theorem texts_in_order_leap :
    let leap : Date := ⟨2024, 2, 29, by decide⟩
    let march : Date := ⟨2024, 3, 1, by decide⟩
    let late : Civil := ⟨leap, TimeOfDay.ofMicros (dayMicros - 1)⟩
    let midnight : Civil := ⟨march, TimeOfDay.ofMicros 0⟩
    let hour : Int := 3600 * secondMicros
    let west : Moment :=
      ⟨⟨leap, TimeOfDay.ofMicros (22 * 3600 * secondMicros - 1)⟩, false, .offset (-2 * hour)⟩
    let east : Moment := ⟨⟨march, TimeOfDay.ofMicros (3600 * secondMicros)⟩, true, .offset hour⟩
    let range : Constraint := ⟨"at", .str "2024-03-01T00:00:00", false, .range .lt false⟩
    InOrder {} (.moment ⟨late, false, .none⟩) (.moment ⟨midnight, true, .silent⟩)
      late.micros midnight.micros ∧
    InOrder {} (.date leap) (.date march) leap.dayNumber march.dayNumber ∧
    InOrder {} (.moment west) (.moment east) late.micros midnight.micros ∧
    (Value.moment west).normalize {} = .ok (.str "2024-02-29T23:59:59.999999") ∧
    ((range.query?.all (Artifact.holds (storing "2024-02-29T23:59:59.999999")) &&
      range.filter?.all (Artifact.holds (storing "2024-02-29T23:59:59.999999"))) = true ↔
      (late.micros : Int) < midnight.micros) := by
  intro leap march late midnight hour west east range
  obtain ⟨hnaive, hdates, hinstants⟩ := texts_in_order {}
  have hwest : west.instant? = some (late.micros : Int) := by decide
  have heast : east.instant? = some (midnight.micros : Int) := by decide
  have horder := hinstants rfl west east _ _ hwest heast ⟨late, rfl⟩ ⟨midnight, rfl⟩
  have hlate : late.isoText = "2024-02-29T23:59:59.999999" := by decide
  have hmidnight : midnight.isoText = "2024-03-01T00:00:00" := by decide
  have htext : (Value.moment west).normalize {} = .ok (.str "2024-02-29T23:59:59.999999") := by
    rw [Moment.normalize_greenwich rfl hwest rfl, hlate]
  have hend : (Value.moment east).normalize {} = .ok range.value := by
    rw [Moment.normalize_greenwich rfl heast rfl, hmidnight]
  have hsound : range.Sound := fun _ h => by cases h
  refine ⟨(hnaive _ _ rfl rfl).1, (hdates leap march).1, horder, htext, ?_⟩
  exact horder.ranges range .lt false _ _ hsound rfl hend htext (storing_stores _ _)

end FieldQuery
