import FieldQuery.Calendar.Civil

/-!
# Dates and counts of days

What is modelled. The calendar numbers its days without a gap: a year begins where the year before
it ends, and a month where the month before it ends. A date-time is a count of microseconds. The
years are those from 1 to 9999, so some counts have no date-time.

What is proved.
* `inYear_yearOfDay`, `InYear.unique`: the year that is computed from the number of a day by
  division is the one that the day lies in.
* `Date.ofDayNumber?_dayNumber`: every date comes back from the number of its day.
* `Civil.ofMicros?_eq_some_iff`: every date-time comes back from its count, and a count that has a
  date-time at all is that of its date-time.
* `Date.Before.dayNumber_lt`, `Civil.Before.micros_lt`: of two counts the smaller one belongs to the
  fields that come first, an earlier field deciding before a later one; and any two dates or
  date-times are compared in this order (`Civil.before_trichotomy`).

Zones play no part here, and leap seconds are not known to the calendar.
-/

namespace FieldQuery

/-! ## Years -/

def yearLength (y : Nat) : Nat := if isLeapYear y then 366 else 365

theorem daysInMonth_bounds (y m : Nat) : 28 ≤ daysInMonth y m ∧ daysInMonth y m ≤ 31 := by
  unfold daysInMonth
  split
  · split <;> omega
  all_goals omega

namespace Date

/-- A quotient grows by one at the multiples of the divisor. -/
theorem succ_div (n k : Nat) : (n + 1) / k = n / k + if (n + 1) % k = 0 then 1 else 0 := by
  rw [Nat.succ_div]
  simp only [Nat.dvd_iff_mod_eq_zero]

theorem daysBeforeYear_succ {y : Nat} (hy : 1 ≤ y) :
    daysBeforeYear (y + 1) = daysBeforeYear y + yearLength y := by
  obtain ⟨n, rfl⟩ : ∃ n, y = n + 1 := ⟨y - 1, by omega⟩
  have h400 : (n + 1) % 400 = 0 → (n + 1) % 100 = 0 := by omega
  have h100 : (n + 1) % 100 = 0 → (n + 1) % 4 = 0 := by omega
  have hle : n / 100 ≤ n / 4 := by omega
  simp only [daysBeforeYear, yearLength, isLeapYear, Nat.add_sub_cancel, Bool.and_eq_true,
    Bool.or_eq_true, beq_iff_eq, bne_iff_ne, succ_div n]
  clear hy
  generalize (n + 1) % 400 = r400 at *
  generalize (n + 1) % 100 = r100 at *
  generalize (n + 1) % 4 = r4 at *
  generalize n / 400 = q400 at *
  generalize n / 100 = q100 at *
  generalize n / 4 = q4 at *
  split <;> split <;> split <;> split <;> omega

/-- A later year begins after the whole of an earlier one. -/
theorem daysBeforeYear_add_le {y z : Nat} (hy : 1 ≤ y) (hyz : y < z) :
    daysBeforeYear y + yearLength y ≤ daysBeforeYear z := by
  induction z with
  | zero => omega
  | succ z ih =>
    rcases Nat.lt_succ_iff_lt_or_eq.mp hyz with hlt | rfl
    · have hstep := daysBeforeYear_succ (y := z) (by omega)
      have hearlier := ih hlt
      omega
    · exact Nat.le_of_eq (daysBeforeYear_succ hy).symm

/-- The days before a year are in proportion to the 146097 days of 400 years, up to two days. -/
theorem daysBeforeYear_proportional (m : Nat) :
    400 * daysBeforeYear (m + 1) ≤ 146097 * m + 400 ∧
      146097 * m ≤ 400 * daysBeforeYear (m + 1) + 800 := by
  have hle : m / 100 ≤ m / 4 := by omega
  have h4 := Nat.div_add_mod m 4
  have h100 := Nat.div_add_mod m 100
  have h400 := Nat.div_add_mod m 400
  have l4 := Nat.mod_lt m (y := 4) (by decide)
  have l100 := Nat.mod_lt m (y := 100) (by decide)
  have l400 := Nat.mod_lt m (y := 400) (by decide)
  unfold daysBeforeYear
  rw [Nat.add_sub_cancel]
  generalize m / 4 = q4 at *
  generalize m / 100 = q100 at *
  generalize m / 400 = q400 at *
  generalize m % 4 = r4 at *
  generalize m % 100 = r100 at *
  generalize m % 400 = r400 at *
  constructor <;> omega

/-- The day lies in the year: the year has begun and has not ended. -/
def InYear (n y : Nat) : Prop := 1 ≤ y ∧ daysBeforeYear y ≤ n ∧ n < daysBeforeYear (y + 1)

theorem inYear_yearOfDay (n : Nat) : InYear n (yearOfDay n) := by
  obtain ⟨g, hg⟩ : ∃ g, n * 400 / 146097 = g := ⟨_, rfl⟩
  have hlow : g * 146097 ≤ n * 400 := hg ▸ Nat.div_mul_le_self _ _
  have hhigh : n * 400 < (g + 1) * 146097 := by
    have hmod := Nat.div_add_mod (n * 400) 146097
    have hlt := Nat.mod_lt (n * 400) (y := 146097) (by decide)
    omega
  -- the guess is off by one year at most
  have hafter : 146097 * (g + 2) ≤ 400 * daysBeforeYear (g + 1 + 1 + 1) + 800 :=
    (daysBeforeYear_proportional (g + 2)).2
  simp only [InYear, yearOfDay, hg]
  split
  · rename_i hlt
    obtain ⟨k, rfl⟩ : ∃ k, g = k + 1 := by
      refine ⟨g - 1, (Nat.sub_add_cancel (Nat.pos_of_ne_zero ?_)).symm⟩
      rintro rfl
      exact absurd hlt (Nat.not_lt_zero n)
    have hbefore := (daysBeforeYear_proportional k).1
    rw [Nat.add_sub_cancel]
    omega
  · split <;> omega

theorem InYear.unique {n y z : Nat} (hy : InYear n y) (hz : InYear n z) : y = z := by
  obtain ⟨hy1, hylow, hyhigh⟩ := hy
  obtain ⟨hz1, hzlow, hzhigh⟩ := hz
  rw [daysBeforeYear_succ hy1] at hyhigh
  rw [daysBeforeYear_succ hz1] at hzhigh
  rcases Nat.lt_trichotomy y z with hlt | heq | hgt
  · have hle := daysBeforeYear_add_le hy1 hlt
    omega
  · exact heq
  · have hle := daysBeforeYear_add_le hz1 hgt
    omega

/-! ## Months -/

theorem daysOfMonths_twelve (y : Nat) : daysOfMonths y 12 = yearLength y := by
  simp only [daysOfMonths, daysInMonth, yearLength]
  split <;> rfl

/-- A later month begins after the whole of an earlier one. -/
theorem daysOfMonths_add_le (y : Nat) {m k : Nat} (h : m < k) :
    daysOfMonths y m + daysInMonth y (m + 1) ≤ daysOfMonths y k := by
  induction k with
  | zero => omega
  | succ k ih =>
    rcases Nat.lt_succ_iff_lt_or_eq.mp h with hlt | rfl
    · exact Nat.le_trans (ih hlt) (Nat.le_add_right _ _)
    · exact Nat.le_refl _

theorem monthAndDay_daysOfMonths (y : Nat) {M D : Nat} (hD : 1 ≤ D) (hDM : D ≤ daysInMonth y M)
    (later m : Nat) (hm : m + 1 ≤ M) (hM : M ≤ m + 1 + later) :
    monthAndDay y later (m + 1) (daysOfMonths y (M - 1) - daysOfMonths y m + (D - 1)) =
      (M, D) := by
  induction later generalizing m with
  | zero =>
    obtain rfl : M = m + 1 := by omega
    rw [monthAndDay, Nat.add_sub_cancel, Nat.sub_self]
    exact congrArg _ (by omega)
  | succ later ih =>
    rw [monthAndDay]
    rcases Nat.eq_or_lt_of_le hm with rfl | hlt
    · rw [Nat.add_sub_cancel, Nat.sub_self, if_pos (by omega)]
      exact congrArg _ (by omega)
    · have hle := daysOfMonths_add_le y (m := m) (k := M - 1) (by omega)
      rw [if_neg (by omega), ← ih (m + 1) hlt (by omega), daysOfMonths]
      exact congrArg _ (by omega)

/-! ## Dates -/

variable (d : Date)

/-- The days between the first day of the year and the date. -/
def dayOfYear : Nat := daysOfMonths d.year (d.month - 1) + (d.day - 1)

theorem dayNumber_eq : d.dayNumber = daysBeforeYear d.year + d.dayOfYear := Nat.add_assoc _ _ _

theorem dayOfYear_lt : d.dayOfYear < yearLength d.year := by
  obtain ⟨-, -, hm1, hm12, hd1, hd⟩ := d.isDate
  have hle := daysOfMonths_add_le d.year (m := d.month - 1) (k := 12) (by omega)
  rw [Nat.sub_add_cancel hm1, daysOfMonths_twelve] at hle
  unfold dayOfYear
  omega

theorem inYear_dayNumber : InYear d.dayNumber d.year := by
  have hlt := d.dayOfYear_lt
  refine ⟨d.isDate.1, ?_, ?_⟩
  · rw [dayNumber_eq]
    exact Nat.le_add_right _ _
  · rw [dayNumber_eq, daysBeforeYear_succ d.isDate.1]
    omega

theorem yearOfDay_dayNumber : yearOfDay d.dayNumber = d.year :=
  (inYear_yearOfDay _).unique d.inYear_dayNumber

/-- Every date comes back from the number of its day. -/
theorem ofDayNumber?_dayNumber : ofDayNumber? d.dayNumber = some d := by
  obtain ⟨-, -, hm1, hm12, hd1, hd⟩ := d.isDate
  have hmonth := monthAndDay_daysOfMonths d.year hd1 hd 11 0 hm1 (by omega)
  rw [daysOfMonths, Nat.sub_zero] at hmonth
  have hrest : d.dayNumber - daysBeforeYear d.year =
      daysOfMonths d.year (d.month - 1) + (d.day - 1) := by
    rw [dayNumber_eq, Nat.add_sub_cancel_left, dayOfYear]
  unfold ofDayNumber?
  dsimp only
  rw [yearOfDay_dayNumber, hrest, hmonth]
  exact dif_pos d.isDate

/-- The month and the day that are found lie as many days into the year as were asked for. -/
theorem daysOfMonths_monthAndDay (y later m n : Nat) :
    daysOfMonths y ((monthAndDay y later (m + 1) n).1 - 1) +
      ((monthAndDay y later (m + 1) n).2 - 1) = daysOfMonths y m + n := by
  induction later generalizing m n with
  | zero => rfl
  | succ later ih =>
    unfold monthAndDay
    split
    · rfl
    · rw [ih, daysOfMonths]
      omega

/-- Only the day of a date has the date for its own. -/
theorem dayNumber_of_ofDayNumber? {n : Nat} {d : Date} (h : ofDayNumber? n = some d) :
    d.dayNumber = n := by
  have hyear := (inYear_yearOfDay n).2.1
  have hrest := daysOfMonths_monthAndDay (yearOfDay n) 11 0 (n - daysBeforeYear (yearOfDay n))
  unfold ofDayNumber? of? at h
  dsimp only at h
  split at h
  · obtain rfl := Option.some.inj h
    rw [daysOfMonths, Nat.zero_add] at hrest
    unfold dayNumber dayNumberOf
    dsimp only
    omega
  · cases h

/-- The date comes before the other one: by its year, its month or its day, in this order. -/
def Before (a b : Date) : Prop :=
  a.year < b.year ∨ a.year = b.year ∧ (a.month < b.month ∨ a.month = b.month ∧ a.day < b.day)

theorem Before.dayNumber_lt {a b : Date} (h : a.Before b) : a.dayNumber < b.dayNumber := by
  rw [dayNumber_eq, dayNumber_eq]
  rcases h with hyear | ⟨hyear, hmonth | ⟨hmonth, hday⟩⟩
  · have hle := daysBeforeYear_add_le a.isDate.1 hyear
    have hlt := a.dayOfYear_lt
    omega
  · obtain ⟨-, -, hm1, -, hd1, hd⟩ := a.isDate
    have hle := daysOfMonths_add_le a.year (m := a.month - 1) (k := b.month - 1) (by omega)
    rw [Nat.sub_add_cancel hm1] at hle
    rw [dayOfYear, dayOfYear, ← hyear]
    omega
  · have hd1 := a.isDate.2.2.2.2.1
    rw [dayOfYear, dayOfYear, ← hyear, ← hmonth]
    omega

theorem before_trichotomy (a b : Date) : a.Before b ∨ a = b ∨ b.Before a := by
  have hfields : a.year = b.year ∧ a.month = b.month ∧ a.day = b.day → a = b := by
    cases a
    cases b
    rintro ⟨rfl, rfl, rfl⟩
    rfl
  by_cases hsame : a.year = b.year ∧ a.month = b.month ∧ a.day = b.day
  · exact .inr (.inl (hfields hsame))
  · have horder : a.Before b ∨ b.Before a := by
      unfold Before
      omega
    exact horder.imp_right .inr

end Date

/-! ## Times of day -/

namespace TimeOfDay

theorem micros_lt_dayMicros (t : TimeOfDay) : t.micros < dayMicros := by
  have h1 := t.hour_lt
  have h2 := t.minute_lt
  have h3 := t.second_lt
  have h4 := t.micro_lt
  unfold micros dayMicros secondMicros
  omega

theorem ofMicros_micros (t : TimeOfDay) : ofMicros t.micros = t := by
  obtain ⟨hour, minute, second, micro, h1, h2, h3, h4⟩ := t
  simp only [ofMicros, micros, secondMicros, mk.injEq]
  omega

theorem micros_ofMicros {n : Nat} (h : n < dayMicros) : (ofMicros n).micros = n := by
  unfold dayMicros secondMicros at h
  unfold ofMicros micros secondMicros
  dsimp only
  omega

/-- The time comes before the other one: by hour, minute, second or microsecond, in this order. -/
def Before (a b : TimeOfDay) : Prop :=
  a.hour < b.hour ∨ a.hour = b.hour ∧ (a.minute < b.minute ∨ a.minute = b.minute ∧
    (a.second < b.second ∨ a.second = b.second ∧ a.micro < b.micro))

theorem Before.micros_lt {a b : TimeOfDay} (h : a.Before b) : a.micros < b.micros := by
  have h2 := a.minute_lt
  have h3 := a.second_lt
  have h4 := a.micro_lt
  unfold Before at h
  unfold micros secondMicros
  omega

theorem before_trichotomy (a b : TimeOfDay) : a.Before b ∨ a = b ∨ b.Before a := by
  have hfields : a.hour = b.hour ∧ a.minute = b.minute ∧ a.second = b.second ∧
      a.micro = b.micro → a = b := by
    cases a
    cases b
    rintro ⟨rfl, rfl, rfl, rfl⟩
    rfl
  by_cases hsame : a.hour = b.hour ∧ a.minute = b.minute ∧ a.second = b.second ∧
      a.micro = b.micro
  · exact .inr (.inl (hfields hsame))
  · have horder : a.Before b ∨ b.Before a := by
      unfold Before
      omega
    exact horder.imp_right .inr

end TimeOfDay

/-! ## Civil date-times -/

namespace Civil

/-- Every civil date-time comes back from its count of microseconds. -/
theorem ofMicros?_micros (c : Civil) : ofMicros? c.micros = some c := by
  have htime := c.time.micros_lt_dayMicros
  have hday : c.micros / dayMicros = c.date.dayNumber := by
    rw [micros, Nat.mul_comm, Nat.mul_add_div (by decide), Nat.div_eq_of_lt htime, Nat.add_zero]
  have hrest : c.micros % dayMicros = c.time.micros := by
    rw [micros, Nat.mul_comm, Nat.mul_add_mod, Nat.mod_eq_of_lt htime]
  rw [ofMicros?, if_neg (by omega), Int.toNat_natCast, hday, hrest, Date.ofDayNumber?_dayNumber,
    Option.map_some, TimeOfDay.ofMicros_micros]

/-- A count has the civil date-time that has this count, if there is one in the calendar. -/
theorem ofMicros?_eq_some_iff {t : Int} {c : Civil} :
    ofMicros? t = some c ↔ (c.micros : Int) = t := by
  constructor
  · intro h
    unfold ofMicros? at h
    split at h
    · cases h
    · obtain ⟨d, hd, rfl⟩ := Option.map_eq_some_iff.mp h
      have hday := Date.dayNumber_of_ofDayNumber? hd
      have htime := TimeOfDay.micros_ofMicros (Nat.mod_lt t.toNat (y := dayMicros) (by decide))
      unfold micros
      dsimp only
      rw [hday, htime, Nat.div_add_mod']
      omega
  · rintro rfl
    exact ofMicros?_micros c

/-- The date-time comes before the other one: by its date, and on the same date by its time. -/
def Before (a b : Civil) : Prop :=
  a.date.Before b.date ∨ a.date = b.date ∧ a.time.Before b.time

theorem Before.micros_lt {a b : Civil} (h : a.Before b) : a.micros < b.micros := by
  unfold micros
  rcases h with hdate | ⟨hdate, htime⟩
  · have hday := hdate.dayNumber_lt
    have ha := a.time.micros_lt_dayMicros
    have hle := Nat.mul_le_mul_right dayMicros (Nat.succ_le_of_lt hday)
    rw [Nat.succ_mul] at hle
    omega
  · have hlt := htime.micros_lt
    rw [hdate]
    omega

theorem before_trichotomy (a b : Civil) : a.Before b ∨ a = b ∨ b.Before a := by
  rcases Date.before_trichotomy a.date b.date with hdate | hdate | hdate
  · exact .inl (.inl hdate)
  · rcases TimeOfDay.before_trichotomy a.time b.time with htime | htime | htime
    · exact .inl (.inr ⟨hdate, htime⟩)
    · refine .inr (.inl ?_)
      cases a
      cases b
      cases hdate
      cases htime
      rfl
    · exact .inr (.inr (.inr ⟨hdate.symm, htime⟩))
  · exact .inr (.inr (.inl hdate))

end Civil

end FieldQuery
