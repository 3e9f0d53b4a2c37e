import FieldQuery.Failure
import FieldQuery.Settings

/-!
# Normalization

Values are brought into the form in which an index stores them before any comparison: what is absent
becomes the marker, a member its name, an entity or a reference its identity, dates and moments
their text, and everything else stays as it is. Moments that stand for an instant are first moved
into the configured zone.
-/

namespace FieldQuery

namespace Settings

/-- The configured zone; no choice and the empty name stand for the zone of the system. -/
def zone (s : Settings) : Except Failure Zone :=
  match s.timeZone with
  | .unset | .named "" => .ok s.zones.system
  | .named name =>
    match s.zones.find name with
    | .ok z => .ok z
    | .error .group => .error .zoneGroup
    | .error .tooLong => .error .zoneNameTooLong
    | .error .malformed | .error .unknown => .error (.unknownZone name)
  | .unfit => .error .unfit

end Settings

/-- The civil text of a moment. The zone is looked up only for moments that stand for an instant. -/
def Moment.normalText (s : Settings) (m : Moment) : Except Failure String :=
  match m.offset? with
  | none => .ok m.civil.isoText
  | some _ =>
    match s.zone with
    | .error e => .error e
    | .ok z =>
      match m.inZone? z with
      | some c => .ok c.isoText
      | none => .error .outOfRange

namespace Value

/-- The form in which a value is compared with indexed data. -/
def normalize (s : Settings) : Value → Except Failure Value
  | null | absent => .ok absent
  | member m =>
    match m.name? with
    | some name => .ok (str name)
    | none => .ok null
  | entity _ null _ _ _ | reference null => .ok absent
  | entity _ id _ _ _ | reference id => .ok id
  | moment m => (m.normalText s).map str
  | date d => .ok (str (String.ofList d.isoChars))
  | v => .ok v

/-- Whether normalization hands back the very value that it was given. -/
def isNormal : Value → Bool
  | null | member _ | entity _ _ _ _ _ | reference _ | moment _ | date _ => false
  | _ => true

end Value

end FieldQuery
