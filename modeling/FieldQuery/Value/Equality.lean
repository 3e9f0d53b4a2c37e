import FieldQuery.Value.Basic

/-!
# Equality of values

Numbers of all kinds are equal when they are the same number, texts when they are the same text,
containers of one kind member by member; the order of a dict's entries has no say. What is no number
equals nothing but itself, and so does a bundle; their stamps tell which is which.
-/

namespace FieldQuery

/-- The size of a number of any kind. -/
inductive Quantity where
  /-- What is no number, with its stamp. -/
  | nan (stamp : Nat)
  | infinite (negative : Bool)
  | exact (q : Rat)
deriving DecidableEq

namespace Quantity

def ofBinary (x : Binary64) : Quantity :=
  if x.isNaN then nan (x.fraction.toNat - 1)
  else if x.isInfinite then infinite x.negative
  else exact x.toRat

def ofDecimal : Decimal → Quantity
  | .nan n => nan n.stamp
  | .infinite negative => infinite negative
  | .finite x => exact (Decimal.ratOfNumeral x)

/-- The order of numbers; what is no number has no place in it. -/
def lt : Quantity → Quantity → Bool
  | exact a, exact b => a < b
  | infinite true, infinite b => !b
  | infinite true, exact _ => true
  | exact _, infinite b => !b
  | _, _ => false

end Quantity

namespace Value

variable {texts : Texts}

/-- The number that a value is, if it is one; truth values and numeric members count. -/
def quantity? : Value texts → Option Quantity
  | bool b => some (.exact (if b then 1 else 0))
  | int n => some (.exact n)
  | float x => some (.ofBinary x)
  | decimal d => some (.ofDecimal d)
  | fraction q => some (.exact q)
  | member (.number _ _ n) => some (.exact n)
  | _ => none

/-- Times with offsets are compared as times in Greenwich. -/
def sameTime (t : TimeOfDay) (offset : Option Int) (t' : TimeOfDay) (offset' : Option Int) : Bool :=
  match offset, offset' with
  | none, none => t = t'
  | some o, some o' => (t.micros : Int) - o == t'.micros - o'
  | _, _ => false

/-- Equality of values without members of their own. -/
def sameScalar (a b : Value texts) : Bool :=
  match a.quantity?, b.quantity? with
  | some p, some q => p = q
  | some _, none | none, some _ => false
  | none, none =>
    match a.text?, b.text? with
    | some s, some t => s == t
    | some _, none | none, some _ => false
    | none, none =>
      match a, b with
      | null, null | absent, absent => true
      | surrogates _ t, surrogates _ u => t = u
      | bytes xs, bytes ys => xs == ys
      | uuid u, uuid w => u = w
      | date d, date e => d = e
      | time t o, time t' o' => sameTime t o t' o'
      | moment m, moment n => m.same n
      | member m, member n => m = n
      | bundle _ _ _ stamp, bundle _ _ _ stamp' => stamp == stamp'
      | shared number, shared number' => number == number'
      | _, _ => false

mutual

/-- Equality of values. -/
def same : Value texts → Value texts → Bool
  | list xs, b =>
    match b with
    | list ys => sameAll xs ys
    | _ => false
  | tuple xs, b =>
    match b with
    | tuple ys => sameAll xs ys
    | _ => false
  | dict es, b =>
    match b with
    | dict fs => es.length == fs.length && sameEntries es fs
    | _ => false
  | entity kind id declared _ further, b =>
    match b with
    | entity kind' id' declared' _ further' =>
      kind == kind' && same id id' && declared.length == declared'.length &&
        sameFields declared declared' && further.length == further'.length &&
        sameFields further further'
    | _ => false
  | reference id, b =>
    match b with
    | reference id' => same id id'
    | _ => false
  | record kind _ parts, b =>
    match b with
    | record kind' _ parts' =>
      kind == kind' && parts.length == parts'.length && sameFields parts parts'
    | _ => false
  | a, b => sameScalar a b
termination_by structural a => a

def sameAll : List (Value texts) → List (Value texts) → Bool
  | [], ys => ys.isEmpty
  | x :: xs, ys =>
    match ys with
    | [] => false
    | y :: ys => same x y && sameAll xs ys
termination_by structural xs => xs

/-- Every entry has a partner of the same key and value. -/
def sameEntries :
    List (Value texts × Value texts) → List (Value texts × Value texts) → Bool
  | [], _ => true
  | (k, v) :: es, fs =>
    fs.any (fun e => same k e.1 && same v e.2) && sameEntries es fs
termination_by structural es => es

/-- Every field has a partner of the same name and value. -/
def sameFields : List (String × Value texts) → List (String × Value texts) → Bool
  | [], _ => true
  | (name, v) :: es, fs =>
    fs.any (fun e => name == e.1 && same v e.2) && sameFields es fs
termination_by structural es => es

end

/-- Whether a value is the given text. -/
def isText (v : Value texts) (s : String) : Bool := v.text? == some s

/-- The value that the entries give to a text. -/
def lookupText (s : String) (entries : List (Value texts × Value texts)) : Option (Value texts) :=
  (entries.find? fun e => e.1.isText s).map (·.2)

/-- Sets the value of a key: a key keeps its first place and takes its last value. -/
def putEntry (entries : List (Value texts × Value texts)) (key value : Value texts) :
    List (Value texts × Value texts) :=
  if entries.any fun e => same e.1 key then
    entries.map fun e => if same e.1 key then (e.1, value) else e
  else entries ++ [(key, value)]

/-- A dict of entries that may repeat keys. -/
def dictOf (entries : List (Value texts × Value texts)) : Value texts :=
  dict (entries.foldl (fun es e => putEntry es e.1 e.2) [])

end Value

end FieldQuery
