import FieldQuery.Calendar.Civil
import FieldQuery.Calendar.History

/-!
# Time zones

A zone says which offset from Greenwich its clocks show at an instant, and which offset a local time
stands for. Instants and local times are counted in microseconds since the start of the year 1.

A clock change has one rule for local times: reading the earlier way (`fold` false), the new offset
counts from the instant of the change plus the larger of the two offsets on; reading the later way,
from the instant plus the smaller one on. So a local time in a gap takes the offset before the
change when read the earlier way and the one after it when read the later way; a local time that
occurs twice takes the first and the second offset.

A zone is a list of eras and a present rule. Since an era may have one fixed offset, and end at any
instant, every zone is of this form as far as the calendar goes. Which zone a name stands for, and
which one the system keeps, is up to a source of zones. One source is listed here: zones that are
named after places, each with its present rules and the offsets that it had before, and zones of a
fixed offset.
-/

namespace FieldQuery

/-- An instant at which the offset of a zone changes. -/
structure ClockChange where
  instant : Int
  before : Int
  after : Int

/-- The local time from which the new offset counts. -/
def ClockChange.wall (c : ClockChange) (fold : Bool) : Int :=
  c.instant + if fold then min c.before c.after else max c.before c.after

/-- A yearly date of a clock change: the given Sunday of a month, the fifth being the last, at a
time counted from midnight on the clock that is then in force. -/
structure YearlyDate where
  month : Nat
  week : Nat
  time : Int
deriving DecidableEq

namespace YearlyDate

/-- The day of the month in the year `y`. -/
def day (r : YearlyDate) (y : Nat) : Nat :=
  let first := Date.weekday (Date.dayNumberOf y r.month 1)
  let sunday := 7 - first
  if r.week = 5 then
    sunday + 7 * ((daysInMonth y r.month - sunday) / 7)
  else sunday + 7 * (r.week - 1)

/-- The local time of the change in the year `y`. -/
def localTime (r : YearlyDate) (y : Nat) : Int :=
  (Date.dayNumberOf y r.month (r.day y) * dayMicros : Nat) + r.time

end YearlyDate

/-- How the offset of a zone runs during one era. -/
inductive ZoneRule where
  | fixed (offset : Int)
  | seasonal (standard summer : Int) (start stop : YearlyDate)
deriving DecidableEq

namespace ZoneRule

/-- The two clock changes of a year, the earlier one first. -/
def changes (standard summer : Int) (start stop : YearlyDate) (y : Nat) :
    ClockChange × ClockChange :=
  let toSummer : ClockChange := ⟨start.localTime y - standard, standard, summer⟩
  let toStandard : ClockChange := ⟨stop.localTime y - summer, summer, standard⟩
  if toSummer.instant < toStandard.instant then (toSummer, toStandard) else (toStandard, toSummer)

/-- The year of a count of microseconds since the start of the year 1. -/
def yearOf (n : Int) : Nat := Date.yearOfDay (n.toNat / dayMicros)

/-- The offset at an instant. -/
def offsetAt : ZoneRule → Int → Int
  | fixed offset, _ => offset
  | seasonal standard summer start stop, t =>
    let (first, second) := changes standard summer start stop (yearOf t)
    if t < first.instant then first.before
    else if t < second.instant then first.after
    else second.after

/-- The offset that a local time stands for. -/
def offsetOfLocal : ZoneRule → Int → Bool → Int
  | fixed offset, _, _ => offset
  | seasonal standard summer start stop, l, fold =>
    let (first, second) := changes standard summer start stop (yearOf l)
    if l < first.wall fold then first.before
    else if l < second.wall fold then first.after
    else second.after

end ZoneRule

/-- A rule and the instant at which the next one takes over. -/
structure Era where
  rule : ZoneRule
  ends : Int
deriving DecidableEq

structure Zone where
  name : String
  eras : List Era
  present : ZoneRule
deriving DecidableEq

namespace Zone

def offsetAtFrom (present : ZoneRule) : List Era → Int → Int
  | [], t => present.offsetAt t
  | e :: es, t => if t < e.ends then e.rule.offsetAt t else offsetAtFrom present es t

/-- The offset that the clocks of the zone show at an instant. -/
def offsetAt (z : Zone) (t : Int) : Int := offsetAtFrom z.present z.eras t

def offsetOfLocalFrom (present : ZoneRule) : List Era → Int → Bool → Int
  | [], l, fold => present.offsetOfLocal l fold
  | e :: es, l, fold =>
    let change : ClockChange :=
      ⟨e.ends, e.rule.offsetAt (e.ends - 1), offsetAtFrom present es e.ends⟩
    if l < change.wall fold then e.rule.offsetOfLocal l fold
    else offsetOfLocalFrom present es l fold

/-- The offset that a local time of the zone stands for. -/
def offsetOfLocal (z : Zone) (l : Int) (fold : Bool) : Int :=
  offsetOfLocalFrom z.present z.eras l fold

/-- Microseconds in hours, minutes and seconds. -/
def span (hours minutes seconds : Int) : Int :=
  ((hours * 60 + minutes) * 60 + seconds) * secondMicros

/-- The eras of a history: each has one offset up to an instant. -/
def past (history : List (Int × Nat)) : List Era :=
  history.map fun e => ⟨.fixed (e.1 * secondMicros), e.2 * secondMicros⟩

/-- The first, second or last Sunday of a month at a local hour and minute. -/
def sunday (month week : Nat) (hour minute : Int) : YearlyDate :=
  ⟨month, week, span hour minute 0⟩

/-- The zones that are named after places. -/
def places : List Zone :=
  [⟨"Asia/Tokyo", past History.tokyo, .fixed (span 9 0 0)⟩,
   ⟨"Asia/Kolkata", past History.kolkata, .fixed (span 5 30 0)⟩,
   ⟨"Asia/Kathmandu", past History.kathmandu, .fixed (span 5 45 0)⟩,
   ⟨"Pacific/Apia", past History.apia, .fixed (span 13 0 0)⟩,
   ⟨"Europe/Berlin", past History.berlin,
    .seasonal (span 1 0 0) (span 2 0 0) (sunday 3 5 2 0) (sunday 10 5 3 0)⟩,
   ⟨"Europe/London", past History.london,
    .seasonal 0 (span 1 0 0) (sunday 3 5 1 0) (sunday 10 5 2 0)⟩,
   ⟨"America/New_York", past History.newYork,
    .seasonal (span (-5) 0 0) (span (-4) 0 0) (sunday 3 2 2 0) (sunday 11 1 2 0)⟩,
   ⟨"America/St_Johns", past History.stJohns,
    .seasonal (span (-3) (-30) 0) (span (-2) (-30) 0) (sunday 3 2 2 0) (sunday 11 1 2 0)⟩,
   ⟨"Australia/Sydney", past History.sydney,
    .seasonal (span 10 0 0) (span 11 0 0) (sunday 10 1 2 0) (sunday 4 1 3 0)⟩,
   ⟨"Australia/Lord_Howe", past History.lordHowe,
    .seasonal (span 10 30 0) (span 11 0 0) (sunday 10 1 2 0) (sunday 4 1 2 0)⟩,
   ⟨"Pacific/Chatham", past History.chatham,
    .seasonal (span 12 45 0) (span 13 45 0) (sunday 9 5 2 45) (sunday 4 1 3 45)⟩]

/-- A zone of a fixed offset in hours. -/
def steady (name : String) (hours : Int) : Zone := ⟨name, [], .fixed (span hours 0 0)⟩

/-- The names for Greenwich. -/
def greenwichNames : List String :=
  ["UTC", "UCT", "GMT", "GMT0", "GMT+0", "GMT-0", "Greenwich", "Universal", "Zulu", "Etc/UTC",
   "Etc/UCT", "Etc/GMT", "Etc/GMT0", "Etc/GMT+0", "Etc/GMT-0", "Etc/Greenwich", "Etc/Universal",
   "Etc/Zulu"]

/-- The zones that are named by their hours: up to twelve behind Greenwich, with a plus sign, and up
to fourteen before it, with a minus sign. -/
def numbered : List Zone :=
  ((List.range 12).map fun (n : Nat) => steady ("Etc/GMT+" ++ toString (n + 1)) (-(n : Int) - 1)) ++
    (List.range 14).map fun (n : Nat) => steady ("Etc/GMT-" ++ toString (n + 1)) ((n : Int) + 1)

/-- The listed zones. -/
def known : List Zone := places ++ greenwichNames.map (steady · 0) ++ numbered

/-- Greenwich time, as a zone without a name. -/
def greenwich : Zone := ⟨"", [], .fixed 0⟩

/-- The zone of a name; names are exact. -/
def named? (name : String) : Option Zone := known.find? fun z => z.name == name

/-! ## Names without a zone -/

/-- Why a name stands for no zone. -/
inductive Refusal where
  | malformed
  | group
  | tooLong
  | unknown

/-- The names in front of the last slash of zones' names. -/
def groups : List String :=
  ["Africa", "America", "America/Argentina", "America/Indiana", "America/Kentucky",
   "America/North_Dakota", "Antarctica", "Arctic", "Asia", "Atlantic", "Australia", "Brazil",
   "Canada", "Chile", "Etc", "Europe", "Indian", "Mexico", "Pacific", "US"]

/-- The most bytes that a part of a name may have. -/
def maxPartSize : Nat := 255

/-- Why a name that none of the listed zones has stands for none: a part of it is missing or is made
of one or two dots, it stands for a group of zones, its last part is too long for a member of a
group, or there is no zone of that name. -/
def refusal (name : String) : Refusal :=
  let parts := name.splitOn "/"
  let last := parts.getLast?.getD ""
  let group := "/".intercalate parts.dropLast
  if parts.any (["", ".", ".."].contains ·) || name.contains '\x00' then .malformed
  else if groups.contains name then .group
  else if maxPartSize < last.utf8ByteSize ∧ (group = "" ∨ groups.contains group) then .tooLong
  else .unknown

/-- The listed zone of a name, or why there is none. -/
def find (name : String) : Except Refusal Zone :=
  match named? name with
  | some z => .ok z
  | none => .error (refusal name)

/-! ## Where zones come from -/

/-- Where zones come from: what a name stands for, and the zone that the system keeps. The latter
has no name, so no moment carries it. -/
structure Source where
  find : String → Except Refusal Zone
  system : Zone

/-- The listed zones, on a system that keeps Greenwich time. -/
def Source.listed : Source := ⟨Zone.find, greenwich⟩

end Zone

end FieldQuery
