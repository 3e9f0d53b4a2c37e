import FieldQuery.Calendar.Zone

/-!
# Moments

A moment is a civil date-time together with what ties it to the line of time: nothing, a fixed
offset, or a zone. A moment with an offset stands for an instant, counted in microseconds since the
start of the year 1 in Greenwich.
-/

namespace FieldQuery

/-- What ties a civil date-time to the line of time. A silent zone is there but gives no offset. -/
inductive Anchor where
  | none
  | silent
  | offset (micros : Int)
  | zone (z : Zone)
deriving DecidableEq

structure Moment where
  civil : Civil
  /-- Whether a local time that can be read in two ways is read the later way. -/
  fold : Bool
  anchor : Anchor
deriving DecidableEq

namespace Moment

/-- The offset from Greenwich, if the anchor gives one. -/
def offset? (m : Moment) : Option Int :=
  match m.anchor with
  | .none | .silent => Option.none
  | .offset o => some o
  | .zone z => some (z.offsetOfLocal m.civil.micros m.fold)

/-- The instant that an anchored moment stands for. -/
def instant? (m : Moment) : Option Int := m.offset?.map fun o => m.civil.micros - o

/-- The civil date-time that the clocks of `zone` show at an instant, provided that the instant and
the local time both lie in the years 1 to 9999. -/
def civilIn? (zone : Zone) (instant : Int) : Option Civil :=
  match Civil.ofMicros? instant with
  | Option.none => Option.none
  | some _ => Civil.ofMicros? (instant + zone.offsetAt instant)

/-- The civil date-time of a moment as the clocks of `zone` show it. A moment without an offset
keeps its civil date-time, and so does a moment that carries that very zone, even where its local
time was skipped by a clock change. -/
def inZone? (zone : Zone) (m : Moment) : Option Civil :=
  match m.instant? with
  | Option.none => some m.civil
  | some t => if m.anchor = .zone zone then some m.civil else civilIn? zone t

/-- The text with a given separator and, for an anchored moment, the offset. -/
def chars (separator : Char) (m : Moment) : List Char :=
  m.civil.chars separator ++
    match m.offset? with
    | some o => offsetChars o
    | Option.none => []

def isoText (m : Moment) : String := String.ofList (m.chars 'T')

/-- Whether the offset hangs on the way in which the local time is read. -/
def isTwofold (m : Moment) : Bool :=
  m.offset? != { m with fold := !m.fold }.offset?

/-- Two moments are the same if they carry the same anchor and show the same civil date-time, if
neither has an offset and they show the same civil date-time, or if they stand for the same instant
and neither offset hangs on the way of reading. -/
def same (a b : Moment) : Bool :=
  if a.anchor = b.anchor then a.civil = b.civil
  else
    match a.instant?, b.instant? with
    | Option.none, Option.none => a.civil = b.civil
    | some s, some t => s == t && !a.isTwofold && !b.isTwofold
    | _, _ => false

end Moment

end FieldQuery
