import FieldQuery.Failure
import FieldQuery.Number.Residue
import FieldQuery.Value.Equality

/-!
# Hashing

What a value is hashed by. Equal values have the same key, but so have some that differ: numbers
of one residue, a text and the bytes that it is stored in, a date-time with an offset and the three
numbers of its time span. What is empty, as a text or as bytes, hashes like zero.
-/

namespace FieldQuery

/-- What a thing is hashed by. -/
inductive HashKey where
  | residue (n : Int)
  | bytes (bs : List UInt8)
  | described (kind text : String)
  | sequence (keys : List HashKey)
  | plain (v : Value)

namespace HashKey

mutual

def same : HashKey → HashKey → Bool
  | residue n, residue m => n == m
  | bytes bs, bytes cs => bs == cs
  | described kind s, described kind' s' => kind == kind' && s == s'
  | sequence ks, sequence ls => sameAll ks ls
  | plain v, plain w => v.same w
  | _, _ => false
termination_by structural k => k

def sameAll : List HashKey → List HashKey → Bool
  | [], [] => true
  | k :: ks, l :: ls => same k l && sameAll ks ls
  | _, _ => false
termination_by structural ks => ks

end

/-- The key of a whole number. -/
def ofInt (n : Int) : HashKey := residue (Residue.ofRat n)

/-- The key of bytes. -/
def ofBytes : List UInt8 → HashKey
  | [] => ofInt 0
  | b :: bs => bytes (b :: bs)

/-- A number as so many bytes, the lowest one first. -/
def lowFirst : (width n : Nat) → List UInt8
  | 0, _ => []
  | width + 1, n => UInt8.ofNat (n % 256) :: lowFirst width (n / 256)

/-- A number as so many bytes, the highest one first. -/
def highFirst (width n : Nat) : List UInt8 := (lowFirst width n).reverse

/-- The bytes that a text is stored in: as few for each character as the largest of them needs, of
one, two and four. -/
def storedText (cs : List Char) : List UInt8 :=
  let largest := cs.foldl (fun n c => max n c.toNat) 0
  let width := if largest < 0x100 then 1 else if largest < 0x10000 then 2 else 4
  cs.flatMap fun c => lowFirst width c.toNat

/-- The key of a text. -/
def ofText (s : String) : HashKey := ofBytes (storedText s.toList)

/-- The key of a time span in microseconds: its days, seconds and microseconds. -/
def ofSpan (micros : Int) : HashKey :=
  let days := micros.fdiv dayMicros
  let rest := micros.fmod dayMicros
  sequence [ofInt days, ofInt (rest / secondMicros), ofInt (rest % secondMicros)]

/-- The bytes that a date is stored in. -/
def storedDate (d : Date) : List UInt8 :=
  highFirst 2 d.year ++ lowFirst 1 d.month ++ lowFirst 1 d.day

/-- The bytes that a time of day is stored in. -/
def storedTime (t : TimeOfDay) : List UInt8 :=
  lowFirst 1 t.hour ++ lowFirst 1 t.minute ++ lowFirst 1 t.second ++ highFirst 3 t.micro

/-- The key of a time of day; one with an offset goes by the time span since midnight in
Greenwich. -/
def ofTime (t : TimeOfDay) : (offset : Option Int) → HashKey
  | none => ofBytes (storedTime t)
  | some o => ofSpan (t.micros - o)

/-- The key of a moment, read the earlier way; one with an offset goes by the time span since the
day before the calendar begins. -/
def ofMoment (m : Moment) : HashKey :=
  match { m with fold := false }.instant? with
  | some t => ofSpan (t + dayMicros)
  | none => ofBytes (storedDate m.civil.date ++ storedTime m.civil.time)

end HashKey

namespace Value

mutual

/-- The key of a value. Lists, dicts, entities and signaling decimals have none. -/
def hashKey : Value → Except Failure HashKey
  | list _ | dict _ | entity _ _ _ _ _ => .error .unfit
  | decimal (.nan n) => if n.signaling then .error .unfit else .ok (.plain (decimal (.nan n)))
  | tuple xs => (hashKeys xs).map .sequence
  | reference id => hashKey id
  | record kind shown _ => .ok (.described kind shown)
  | moment m => .ok (.ofMoment m)
  | date d => .ok (.ofBytes (HashKey.storedDate d))
  | time t offset => .ok (.ofTime t offset)
  | str s => .ok (.ofText s)
  | bytes bs => .ok (.ofBytes bs)
  | uuid u => .ok (.ofInt u.bits.toNat)
  | member (.text _ _ s) => .ok (.ofText s)
  | member (.plain _ name _) => .ok (.ofText name)
  | member (.flags family parts) =>
    .ok (match (Member.flags family parts).name? with
      | some name => .ofText name
      | none => .plain null)
  | v =>
    match v.quantity? with
    | some (.exact q) => .ok (.residue (Residue.ofRat q))
    | some (.infinite negative) => .ok (.residue (Residue.signed negative Residue.infinite))
    | some (.nan _) | none => .ok (.plain v)
termination_by structural v => v

def hashKeys : List Value → Except Failure (List HashKey)
  | [] => .ok []
  | x :: xs =>
    match hashKey x with
    | .error e => .error e
    | .ok k => (hashKeys xs).map (k :: ·)
termination_by structural xs => xs

end

end Value

end FieldQuery
