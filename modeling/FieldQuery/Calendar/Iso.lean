import FieldQuery.Calendar.Moment
import FieldQuery.Number.Numeral

/-!
# Reading dates and times

Dates as `YYYY-MM-DD`, or by weeks as `YYYY-Www-D`, where a week alone stands for its Monday; times
as `HH:MM:SS` with a fraction, where the later parts may be missing; offsets as a sign and a time,
or `Z`; and date-times with any one character between date and time. Hyphens and colons may be left
out.

Reading is lenient at two places. Digits of a fraction beyond the sixth are dropped, and of a time
with an offset one ASCII character between the two may be anything.
-/

namespace FieldQuery

namespace Date

/-- The number of the Monday with which the first week of a year begins: the week that holds the
first Thursday. -/
def firstMonday (y : Nat) : Nat :=
  let first := dayNumberOf y 1 1
  let monday := first - weekday first
  if 3 < weekday first then monday + 7 else monday

/-- Whether a year has 53 weeks: it begins on a Thursday, or on a Wednesday and is a leap year. -/
def isLongYear (y : Nat) : Bool :=
  let first := weekday (dayNumberOf y 1 1)
  first == 3 || first == 2 && isLeapYear y

/-- The date of a day of a week, Monday being 1. -/
def ofWeek? (y week day : Nat) : Option Date :=
  let weeks := if isLongYear y then 53 else 52
  if 1 ≤ y ∧ 1 ≤ week ∧ week ≤ weeks ∧ 1 ≤ day ∧ day ≤ 7 then
    ofDayNumber? (firstMonday y + (week - 1) * 7 + (day - 1))
  else none

end Date

namespace Iso

open Text (number?)

/-- A number written with exactly `width` digits in front of a text. -/
def field? (width : Nat) (cs : List Char) : Option (Nat × List Char) :=
  if (cs.take width).length = width then
    (number? (cs.take width)).map fun n => (n, cs.drop width)
  else none

/-- What follows the hyphen in front of a text, where one is used; otherwise the text. -/
def afterHyphen? (hyphens : Bool) (cs : List Char) : Option (List Char) :=
  match hyphens, cs with
  | false, cs => some cs
  | true, '-' :: cs => some cs
  | true, _ => none

/-! ## Dates -/

/-- A week with an optional day of a year. -/
def dateOfWeek? (year : Nat) (hyphens : Bool) (cs : List Char) : Option Date := do
  let (week, rest) ← field? 2 cs
  if rest.isEmpty then Date.ofWeek? year week 1
  else
    let (day, _) ← field? 1 (← afterHyphen? hyphens rest)
    Date.ofWeek? year week day

def dateOfChars? (cs : List Char) : Option Date := do
  let (year, rest) ← field? 4 cs
  let hyphens := rest.head? == some '-'
  match ← afterHyphen? hyphens rest with
  | 'W' :: rest => dateOfWeek? year hyphens rest
  | rest =>
    let (month, rest) ← field? 2 rest
    let (day, rest) ← field? 2 (← afterHyphen? hyphens rest)
    if rest.isEmpty then Date.of? year month day else none

/-- A date; its text has the length of one of the forms. -/
def date? (s : String) : Option Date :=
  if [7, 8, 10].contains s.length then dateOfChars? s.toList else none

/-! ## Times -/

/-- A time as it is written: hours, minutes and seconds as far as they are there, microseconds, and
whether anything is left after them. -/
structure Written where
  parts : List Nat
  micro : Nat
  more : Bool

namespace Written

def part (w : Written) (i : Nat) : Nat := w.parts.getD i 0

def time? (w : Written) : Option TimeOfDay :=
  TimeOfDay.of? (w.part 0) (w.part 1) (w.part 2) w.micro

/-- The whole seconds. The parts need not be those of a clock. -/
def seconds (w : Written) : Nat := (w.part 0 * 60 + w.part 1) * 60 + w.part 2

end Written

/-- The microseconds that the digits of a fraction stand for. -/
def fraction? (cs : List Char) : Option Written :=
  let digits := cs.take 6
  (number? (digits ++ List.replicate (6 - digits.length) '0')).map fun micro =>
    ⟨[], micro, !((cs.drop 6).dropWhile Char.isDigit).isEmpty⟩

/-- A time with at most `further` parts after the first. Whether colons separate the parts is known
from the first of them on. -/
def writtenFrom? : (further : Nat) → (colons? : Option Bool) → List Char → Option Written
  | further, colons?, cs => do
    let (n, rest) ← field? 2 cs
    match rest with
    | [] => some ⟨[n], 0, false⟩
    | [c] => if c.toNat < 128 then some ⟨[n], 0, true⟩ else none
    | c :: rest =>
      let colons := colons?.getD (c == ':')
      let later (cs : List Char) : Option Written :=
        match further with
        | 0 => fraction? cs
        | further + 1 => writtenFrom? further (some colons) cs
      let w ←
        if colons && c == ':' then later rest
        else if c == '.' || c == ',' then fraction? rest
        else if colons then none
        else later (c :: rest)
      some { w with parts := n :: w.parts }

def written? (cs : List Char) : Option Written := writtenFrom? 2 none cs

/-- A whole number of seconds and further microseconds as an offset of less than a day. Without
seconds there is no offset. -/
def offsetOf? (seconds micro : Nat) : Option Int :=
  let size := seconds * secondMicros + micro
  if seconds = 0 then some 0 else if size < dayMicros then some size else none

/-- An offset from its sign on. -/
def offset? : List Char → Option Int
  | ['Z'] => some 0
  | '+' :: cs => size? cs
  | '-' :: cs => (size? cs).map fun n => -n
  | _ => none
where
  size? (cs : List Char) : Option Int := do
    let w ← written? cs
    if w.more then none else offsetOf? w.seconds w.micro

/-- A time of day with an optional offset. -/
def timeOfChars? (cs : List Char) : Option (TimeOfDay × Option Int) := do
  let isMark (c : Char) : Bool := c == '+' || c == '-' || c == 'Z'
  let w ← written? (cs.takeWhile fun c => !isMark c)
  let t ← w.time?
  match cs.dropWhile fun c => !isMark c with
  | [] => if w.more then none else some (t, none)
  | rest => (offset? rest).map fun o => (t, some o)

/-- A time of day, after an optional `T`. -/
def time? (s : String) : Option (TimeOfDay × Option Int) :=
  match s.toList with
  | 'T' :: cs => timeOfChars? cs
  | cs => timeOfChars? cs

/-! ## Date-times -/

/-- The length of the date in front of a date-time. After a week, a hyphen is that of the day unless
digits follow the day; digits without hyphens are a week and hours if their number is odd. -/
def dateLength (cs : List Char) : Nat :=
  if cs.length = 7 then 7
  else
    match cs.drop 4 with
    | '-' :: 'W' :: _ :: _ :: '-' :: _ :: c :: _ => if c.isDigit then 8 else 10
    | '-' :: 'W' :: _ :: _ :: '-' :: _ => 10
    | '-' :: 'W' :: _ => 8
    | '-' :: _ => 10
    | 'W' :: _ =>
      let digits := 7 + ((cs.drop 7).takeWhile Char.isDigit).length
      if digits < 9 then digits else if digits % 2 = 0 then 7 else 8
    | _ => 8

/-- A civil date-time with an optional offset; a date alone stands for its midnight. -/
def moment? (s : String) : Option (Civil × Option Int) := do
  let cs := s.toList
  let date ← dateOfChars? (cs.take (dateLength cs))
  match cs.drop (dateLength cs) with
  | [] => some (⟨date, TimeOfDay.ofMicros 0⟩, none)
  | _ :: cs =>
    let (time, offset) ← timeOfChars? cs
    some (⟨date, time⟩, offset)

end Iso

end FieldQuery
