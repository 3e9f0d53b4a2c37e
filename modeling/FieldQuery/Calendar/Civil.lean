import FieldQuery.Calendar.Date
import FieldQuery.Calendar.TimeOfDay

/-!
# Civil date-times

A date with a time of day, as a clock on a wall shows it, and the number of microseconds that the
clock has run since the start of the year 1. Counts that leave the years 1 to 9999 have no civil
date-time.
-/

namespace FieldQuery

structure Civil where
  date : Date
  time : TimeOfDay
deriving DecidableEq

namespace Civil

/-- Microseconds since the start of the year 1. -/
def micros (c : Civil) : Nat := c.date.dayNumber * dayMicros + c.time.micros

def ofMicros? (n : Int) : Option Civil :=
  if n < 0 then none
  else (Date.ofDayNumber? (n.toNat / dayMicros)).map fun d =>
    ⟨d, TimeOfDay.ofMicros (n.toNat % dayMicros)⟩

/-- The date and the time with `separator` between them. -/
def chars (separator : Char) (c : Civil) : List Char :=
  c.date.isoChars ++ separator :: c.time.isoChars

def isoText (c : Civil) : String := String.ofList (c.chars 'T')

end Civil

end FieldQuery
