import FieldQuery.Text.Digits

/-!
# Times of day

Hours, minutes, seconds and microseconds, and the text of a time and of an offset from Greenwich.
Offsets and spans are whole numbers of microseconds.
-/

namespace FieldQuery

/-- The microseconds of one second. -/
def secondMicros : Nat := 1000000

/-- The microseconds of one day. -/
def dayMicros : Nat := 86400 * secondMicros

structure TimeOfDay where
  hour : Nat
  minute : Nat
  second : Nat
  micro : Nat
  hour_lt : hour < 24
  minute_lt : minute < 60
  second_lt : second < 60
  micro_lt : micro < 1000000
deriving DecidableEq

namespace TimeOfDay

def of? (hour minute second micro : Nat) : Option TimeOfDay :=
  if h : hour < 24 ∧ minute < 60 ∧ second < 60 ∧ micro < 1000000 then
    some ⟨hour, minute, second, micro, h.1, h.2.1, h.2.2.1, h.2.2.2⟩
  else none

/-- The microseconds since midnight. -/
def micros (t : TimeOfDay) : Nat :=
  ((t.hour * 60 + t.minute) * 60 + t.second) * secondMicros + t.micro

/-- The time that lies `n` microseconds after midnight, counted within one day. -/
def ofMicros (n : Nat) : TimeOfDay where
  hour := n / (3600 * secondMicros) % 24
  minute := n / (60 * secondMicros) % 60
  second := n / secondMicros % 60
  micro := n % 1000000
  hour_lt := Nat.mod_lt _ (by decide)
  minute_lt := Nat.mod_lt _ (by decide)
  second_lt := Nat.mod_lt _ (by decide)
  micro_lt := Nat.mod_lt _ (by decide)

/-- Hours, minutes and seconds with colons, then the microseconds unless they are zero. -/
def isoChars (t : TimeOfDay) : List Char :=
  Text.padded 2 t.hour ++ ':' :: Text.padded 2 t.minute ++ ':' :: Text.padded 2 t.second ++
    (if t.micro = 0 then [] else '.' :: Text.padded 6 t.micro)

end TimeOfDay

/-- The text of an offset: sign, hours and minutes, then seconds and microseconds where needed. -/
def offsetChars (offset : Int) : List Char :=
  let t := TimeOfDay.ofMicros offset.natAbs
  (if offset < 0 then '-' else '+') :: Text.padded 2 t.hour ++ ':' :: Text.padded 2 t.minute ++
    (if t.second = 0 ∧ t.micro = 0 then [] else ':' :: Text.padded 2 t.second) ++
    (if t.micro = 0 then [] else '.' :: Text.padded 6 t.micro)

end FieldQuery
