import FieldQuery.Text.Digits

/-!
# Calendar dates

Dates of the proleptic Gregorian calendar in the years 1 to 9999, and their numbering by days: day 0
is the first day of the year 1, a Monday.
-/

namespace FieldQuery

def isLeapYear (y : Nat) : Bool := y % 4 == 0 && (y % 100 != 0 || y % 400 == 0)

def daysInMonth (y : Nat) : Nat → Nat
  | 2 => if isLeapYear y then 29 else 28
  | 4 | 6 | 9 | 11 => 30
  | _ => 31

/-- The year, the month and the day of the month name a day of the calendar. -/
def IsDate (y m d : Nat) : Prop :=
  1 ≤ y ∧ y ≤ 9999 ∧ 1 ≤ m ∧ m ≤ 12 ∧ 1 ≤ d ∧ d ≤ daysInMonth y m

instance (y m d : Nat) : Decidable (IsDate y m d) :=
  inferInstanceAs (Decidable (_ ∧ _ ∧ _ ∧ _ ∧ _ ∧ _))

structure Date where
  year : Nat
  month : Nat
  day : Nat
  isDate : IsDate year month day
deriving DecidableEq

namespace Date

def of? (y m d : Nat) : Option Date :=
  if h : IsDate y m d then some ⟨y, m, d, h⟩ else none

/-- The days of all years from 1 up to, but not including, `y`. -/
def daysBeforeYear (y : Nat) : Nat :=
  365 * (y - 1) + (y - 1) / 4 - (y - 1) / 100 + (y - 1) / 400

/-- The days of the first `m` months of the year `y`. -/
def daysOfMonths (y : Nat) : (m : Nat) → Nat
  | 0 => 0
  | m + 1 => daysOfMonths y m + daysInMonth y (m + 1)

/-- The number of days between the first day of the year 1 and the given day. -/
def dayNumberOf (y m d : Nat) : Nat := daysBeforeYear y + daysOfMonths y (m - 1) + (d - 1)

def dayNumber (d : Date) : Nat := dayNumberOf d.year d.month d.day

/-- The year that holds a day: the proportional guess, moved by one where it is off. -/
def yearOfDay (n : Nat) : Nat :=
  let guess := n * 400 / 146097 + 1
  if n < daysBeforeYear guess then guess - 1
  else if daysBeforeYear (guess + 1) ≤ n then guess + 1
  else guess

/-- The month and the day of the month of a day that lies `n` days after the first of the month `m`,
looking at no more than `later` further months. -/
def monthAndDay (y : Nat) : (later m n : Nat) → Nat × Nat
  | 0, m, n => (m, n + 1)
  | later + 1, m, n =>
    if n < daysInMonth y m then (m, n + 1) else monthAndDay y later (m + 1) (n - daysInMonth y m)

/-- The date of a day number, if it lies in the years 1 to 9999. -/
def ofDayNumber? (n : Nat) : Option Date :=
  let y := yearOfDay n
  let (m, d) := monthAndDay y 11 1 (n - daysBeforeYear y)
  of? y m d

/-- The day of the week, Monday being 0. -/
def weekday (dayNumber : Nat) : Nat := dayNumber % 7

/-- Year, month and day with a hyphen between them. -/
def isoChars (d : Date) : List Char :=
  Text.padded 4 d.year ++ '-' :: Text.padded 2 d.month ++ '-' :: Text.padded 2 d.day

end Date

end FieldQuery
