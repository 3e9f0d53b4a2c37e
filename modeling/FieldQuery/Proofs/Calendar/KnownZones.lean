import FieldQuery.Proofs.Calendar.Readings

/-!
# The clocks of the listed zones

What is modelled. A listed zone has a present rule, which is one offset for good or two yearly
changes, and in front of it the eras of its history, each of which ends in a change to the next one.

What is proved. The clocks of all listed zones are read as they show (`Zone.faithful_of_known`).
* `ZoneRule.twoChanges_changes`: the two changes of a year come from a yearly rule for all years at
  once, by the places of their months in the year.
* `ZoneRule.faithful`: the clocks of a present rule that is regular are read as they show.
* `Zone.faithful_from`: so are they with any list of eras in front that is regular. That an offset
  is no larger than a day, and lasts two days at least, is checked of the list by evaluation.

That the list tells the history of the zones right is not a matter of proof; zones that are not
listed come from another source, of which faithfulness is assumed where it is needed.
-/

namespace FieldQuery

/-! ## Yearly rules -/

/-- The date lies neither in the first nor in the last month of the year, and its time within one
day. -/
def YearlyDate.Regular (r : YearlyDate) : Prop :=
  2 ≤ r.month ∧ r.month ≤ 11 ∧ r.week ≤ 5 ∧ 0 ≤ r.time ∧ r.time ≤ dayMicros

instance (r : YearlyDate) : Decidable r.Regular := inferInstanceAs (Decidable (_ ∧ _ ∧ _ ∧ _ ∧ _))

/-- The offsets are no larger than a day, and a month or more lies between the two dates. -/
def ZoneRule.Regular : ZoneRule → Prop
  | fixed offset => Small offset
  | seasonal standard summer start stop =>
    Small standard ∧ Small summer ∧ start.Regular ∧ stop.Regular ∧
      (start.month + 2 ≤ stop.month ∨ stop.month + 2 ≤ start.month)

instance : (r : ZoneRule) → Decidable r.Regular
  | .fixed offset => inferInstanceAs (Decidable (Small offset))
  | .seasonal .. => inferInstanceAs (Decidable (_ ∧ _ ∧ _ ∧ _ ∧ _))

namespace YearlyDate

variable {r : YearlyDate}

theorem day_bounds (hweek : r.week ≤ 5) (y : Nat) :
    1 ≤ r.day y ∧ r.day y ≤ daysInMonth y r.month := by
  have hfirst : Date.weekday (Date.dayNumberOf y r.month 1) < 7 := Nat.mod_lt _ (by decide)
  have hlast := (daysInMonth_bounds y r.month).1
  simp only [day]
  split <;> omega

theorem localTime_bounds (h : r.Regular) (y : Nat) :
    yearStart y + (Date.daysOfMonths y (r.month - 1) * dayMicros : Nat) ≤ r.localTime y ∧
      r.localTime y ≤ yearStart y + (Date.daysOfMonths y r.month * dayMicros : Nat) := by
  obtain ⟨hfirst, -, hweek, htime, htimeDay⟩ := h
  obtain ⟨hday1, hday⟩ := day_bounds hweek y
  have hmonth : Date.daysOfMonths y r.month =
      Date.daysOfMonths y (r.month - 1) + daysInMonth y r.month := by
    obtain ⟨m, hm⟩ : ∃ m, r.month = m + 1 := ⟨r.month - 1, by omega⟩
    rw [hm, Nat.add_sub_cancel, Date.daysOfMonths]
  rw [localTime, Date.dayNumberOf, hmonth, yearStart]
  unfold dayMicros secondMicros at *
  omega

end YearlyDate

open Date in
theorem yearStart_succ {y : Nat} (hy : 1 ≤ y) :
    yearStart (y + 1) = yearStart y + (daysOfMonths y 12 * dayMicros : Nat) := by
  rw [yearStart, daysBeforeYear_succ hy, ← daysOfMonths_twelve, Nat.add_mul]
  rfl

namespace ZoneRule

open Date in
/-- A change at the earlier yearly date and one back at the later date. -/
theorem twoChanges_of_months {before after : Int} {first second : YearlyDate}
    (hbefore : Small before) (hafter : Small after) (hfirst : first.Regular)
    (hsecond : second.Regular) (hmonths : first.month + 2 ≤ second.month) {y : Nat} (hy : 1 ≤ y) :
    TwoChanges before after y (⟨first.localTime y - before, before, after⟩,
      ⟨second.localTime y - after, after, before⟩) := by
  have hf := YearlyDate.localTime_bounds hfirst y
  have hs := YearlyDate.localTime_bounds hsecond y
  have hopens := daysOfMonths_add_le y (m := 0) (k := first.month - 1) (by have := hfirst.1; omega)
  have hapart := daysOfMonths_add_le y (m := first.month) (k := second.month - 1) (by omega)
  have hcloses := daysOfMonths_add_le y (m := second.month) (k := 12)
    (by have := hsecond.2.1; omega)
  have hlength := fun m => (daysInMonth_bounds y m).1
  have hlength0 := hlength (0 + 1)
  have hlength1 := hlength (first.month + 1)
  have hlength2 := hlength (second.month + 1)
  rw [daysOfMonths] at hopens
  have hnext := yearStart_succ hy
  refine ⟨⟨rfl, rfl⟩, ⟨rfl, rfl⟩, ?_, ?_, ?_⟩ <;> dsimp only <;>
    unfold Small dayMicros secondMicros at * <;> omega

variable {standard summer : Int} {start stop : YearlyDate}

/-- In every year a regular rule makes two changes, with the same offsets in the same order. -/
theorem twoChanges_changes (h : (seasonal standard summer start stop).Regular) :
    ∃ before after, Small before ∧ Small after ∧
      ∀ y, 1 ≤ y → TwoChanges before after y (changes standard summer start stop y) := by
  obtain ⟨hstandard, hsummer, hstart, hstop, hmonths⟩ := h
  have hday : 0 < dayMicros := by decide
  rcases hmonths with hmonths | hmonths
  · refine ⟨standard, summer, hstandard, hsummer, fun y hy => ?_⟩
    have htwo := twoChanges_of_months hstandard hsummer hstart hstop hmonths hy
    have hlt : start.localTime y - standard < stop.localTime y - summer := by
      have hapart := htwo.apart
      dsimp only at hapart
      omega
    rw [changes, if_pos hlt]
    exact htwo
  · refine ⟨summer, standard, hsummer, hstandard, fun y hy => ?_⟩
    have htwo := twoChanges_of_months hsummer hstandard hstop hstart hmonths hy
    have hnotlt : ¬ start.localTime y - standard < stop.localTime y - summer := by
      have hapart := htwo.apart
      dsimp only at hapart
      omega
    rw [changes, if_neg hnotlt]
    exact htwo

theorem small_offsetAt : {r : ZoneRule} → r.Regular → ∀ t, Small (r.offsetAt t)
  | fixed _, h, _ => h
  | seasonal _ _ _ _, h, t => by
    obtain ⟨before, after, hbefore, hafter, htwo⟩ := twoChanges_changes h
    exact (htwo (yearOf t) (holds_yearOf t).1).small_offsetBy hbefore hafter t

/-- Clocks that follow a regular rule are read as they show. -/
theorem faithful : {r : ZoneRule} → r.Regular → Faithful r.offsetAt r.offsetOfLocal
  | fixed offset, _ => faithful_fixed offset
  | seasonal standard summer start stop, h => by
    obtain ⟨before, after, hbefore, hafter, htwo⟩ := twoChanges_changes h
    refine .of_nearby (small_offsetAt h) fun l => ?_
    have hyear := htwo (yearOf l) (holds_yearOf l).1
    exact ⟨_, _, hyear.faithful hbefore hafter, hyear.small_offsetBy hbefore hafter,
      fun _ => rfl,
      fun t hlt htl => offsetBy_nearby htwo (holds_yearOf l) (by omega) (by omega)⟩

/-- The instant is that of the change, with `before` as the offset up to it, or two days away. -/
def Clear (before e : Int) (c : ClockChange) : Prop :=
  e = c.instant ∧ before = c.before ∨ c.instant + 2 * dayMicros ≤ e ∨ e + 2 * dayMicros ≤ c.instant

instance (before e : Int) (c : ClockChange) : Decidable (Clear before e c) :=
  inferInstanceAs (Decidable (_ ∨ _ ∨ _))

/-- The rule can take over from the offset `before` at the instant. -/
def Calm (before e : Int) : ZoneRule → Prop
  | fixed _ => True
  | seasonal standard summer start stop =>
    Clear before e (changes standard summer start stop (yearOf e)).1 ∧
      Clear before e (changes standard summer start stop (yearOf e)).2

instance (before e : Int) : (r : ZoneRule) → Decidable (r.Calm before e)
  | fixed _ => inferInstanceAs (Decidable True)
  | seasonal .. => inferInstanceAs (Decidable (_ ∧ _))

theorem Calm.still {before e : Int} : {r : ZoneRule} → r.Regular → r.Calm before e →
    Still r.offsetAt before e
  | fixed _, _, _ => ⟨fun _ _ _ => rfl, fun _ _ _ => .inr rfl⟩
  | seasonal standard summer start stop, h, hcalm => by
    obtain ⟨b, a, -, -, htwo⟩ := twoChanges_changes h
    have hyear := htwo (yearOf e) (holds_yearOf e).1
    have hnear := fun t => offsetBy_nearby htwo (t := t) (holds_yearOf e)
    obtain ⟨hfirst, hsecond⟩ := hcalm
    have hat : ∀ t, (seasonal standard summer start stop).offsetAt t =
      offsetBy (changes standard summer start stop (yearOf t)) t := fun _ => rfl
    have hapart := hyear.apart
    obtain ⟨hb, ha⟩ := hyear.first
    obtain ⟨ha', hb'⟩ := hyear.second
    rw [Clear, hb] at hfirst
    rw [Clear, ha'] at hsecond
    constructor
    case after =>
      intro t het hte
      rw [hat, hat, hnear t (by omega) (by omega)]
      rw [offsetBy, offsetBy, hb, ha, hb']
      repeat' split
      all_goals omega
    case ahead =>
      intro t het hte
      rw [hat, hat, hnear t (by omega) (by omega)]
      rw [offsetBy, offsetBy, hb, ha, hb']
      repeat' split
      all_goals omega

end ZoneRule

/-! ## Known zones -/

namespace Zone

/-- What follows an era can take over from its offset: the rules of the present, or an era of two
days or more. -/
def TakesOver (present : ZoneRule) (before e : Int) : List Era → Prop
  | [] => present.Calm before e
  | next :: _ => e + 2 * dayMicros ≤ next.ends

instance (present : ZoneRule) (before e : Int) : (es : List Era) →
    Decidable (TakesOver present before e es)
  | [] => inferInstanceAs (Decidable (present.Calm before e))
  | next :: _ => inferInstanceAs (Decidable (e + 2 * dayMicros ≤ next.ends))

/-- Every era has one offset, no larger than a day, and what follows it can take over. -/
def RegularFrom (present : ZoneRule) : List Era → Prop
  | [] => present.Regular
  | ⟨.fixed offset, e⟩ :: es =>
    Small offset ∧ TakesOver present offset e es ∧ RegularFrom present es
  | ⟨.seasonal .., _⟩ :: _ => False

instance decidableRegularFrom (present : ZoneRule) : (es : List Era) →
    Decidable (RegularFrom present es)
  | [] => inferInstanceAs (Decidable present.Regular)
  | ⟨.fixed _, _⟩ :: es =>
    have := decidableRegularFrom present es
    inferInstanceAs (Decidable (_ ∧ _ ∧ _))
  | ⟨.seasonal .., _⟩ :: _ => inferInstanceAs (Decidable False)

variable {present : ZoneRule}

theorem TakesOver.still {before e : Int} : {es : List Era} → RegularFrom present es →
    TakesOver present before e es → Still (offsetAtFrom present es) before e
  | [], hregular, hcalm => ZoneRule.Calm.still hregular hcalm
  | ⟨.fixed offset, next⟩ :: es, _, hlong => by
    have hshow : ∀ t, t < next → offsetAtFrom present (⟨.fixed offset, next⟩ :: es) t = offset :=
      fun t ht => if_pos ht
    have hlong : e + 2 * dayMicros ≤ next := hlong
    have hday : 0 < dayMicros := by decide
    constructor
    case after =>
      intro t _ ht
      rw [hshow t (by omega), hshow e (by omega)]
    case ahead =>
      intro t _ ht
      exact .inr (by rw [hshow t (by omega), hshow e (by omega)])

/-- Clocks with a regular history are read as they show: era by era, from the last one back. -/
theorem faithful_from : {es : List Era} → RegularFrom present es →
    (∀ t, Small (offsetAtFrom present es t)) ∧
      Faithful (offsetAtFrom present es) (offsetOfLocalFrom present es)
  | [], h => ⟨ZoneRule.small_offsetAt h, ZoneRule.faithful h⟩
  | ⟨.fixed offset, e⟩ :: es, h => by
    obtain ⟨hoffset, hover, hrest⟩ := h
    obtain ⟨hsmall, hfaithful⟩ := faithful_from hrest
    refine ⟨fun t => ?_, hfaithful.prepend (hover.still hrest) hsmall hoffset⟩
    rw [offsetAtFrom]
    split
    · exact hoffset
    · exact hsmall t

theorem regular_of_known : ∀ z ∈ known, RegularFrom z.present z.eras := by
  decide +kernel

/-- The clocks of all known zones are read as they show. -/
theorem faithful_of_known {z : Zone} (h : z ∈ known) : Faithful z.offsetAt z.offsetOfLocal :=
  (faithful_from (regular_of_known z h)).2

theorem faithful_greenwich : Faithful greenwich.offsetAt greenwich.offsetOfLocal := faithful_fixed 0

end Zone

end FieldQuery
