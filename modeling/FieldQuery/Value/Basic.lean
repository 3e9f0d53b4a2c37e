import FieldQuery.Calendar.Moment
import FieldQuery.Number.Decimal
import FieldQuery.Number.Shortest
import FieldQuery.Text.CodePoints
import FieldQuery.Value.Member
import FieldQuery.Value.Uuid

/-!
# Values

What a field can be compared with. Besides the usual scalars and containers there is a marker for
"no value", there are members of declared families, stored entities and references to them, and two
kinds of thing that belong to the query language itself and are known to a value only by how they
show: records (single constraints and artifacts) and bundles of constraints.

A value may also hold a thing that others hold too and that may still change. It is then known by
its number alone, and whoever keeps the things puts them in before the value is shown or compared.

The texts of a value are Unicode texts (`Value`, which is `Value .unicode`). Where it matters that a
text may be any sequence of code points, values of `Value .codePoints` may hold texts with
surrogates as well; what is said for both kinds takes the kind of texts as a parameter.
-/

namespace FieldQuery

inductive Value (texts : Texts := .unicode) where
  | null
  | absent
  | bool (b : Bool)
  | int (n : Int)
  | float (x : Binary64)
  | decimal (d : Decimal)
  | fraction (q : Rat)
  | str (s : String)
  /-- A text that is no Unicode text. -/
  | surrogates (allowed : texts = .codePoints) (t : SurrogateText)
  | bytes (bs : List UInt8)
  | uuid (u : Uuid)
  | date (d : Date)
  | time (t : TimeOfDay) (offset : Option Int)
  | moment (m : Moment)
  | member (m : Member)
  | list (xs : List (Value texts))
  | tuple (xs : List (Value texts))
  /-- Entries in the order in which their keys first came. -/
  | dict (entries : List (Value texts × Value texts))
  /-- Declared fields, attributes that mask a part of the kind, and further fields. -/
  | entity (kind : String) (id : Value texts)
      (declared masking further : List (String × Value texts))
  | reference (id : Value texts)
  | record (kind shown : String) (parts : List (String × Value texts))
  /-- The stamp tells one bundle from another. -/
  | bundle (shown inspected : String) (size stamp : Nat)
  /-- A thing that is kept elsewhere under this number. -/
  | shared (number : Nat)

namespace Value

variable {texts : Texts}

instance : Inhabited (Value texts) := ⟨null⟩

/-- The name of the kind of a value, as messages give it. -/
def kindName : Value texts → String
  | null => "NoneType"
  | absent => "_Absent"
  | bool _ => "bool"
  | int _ => "int"
  | float _ => "float"
  | decimal _ => "Decimal"
  | fraction _ => "Fraction"
  | str _ | surrogates _ _ => "str"
  | bytes _ => "bytes"
  | uuid _ => "UUID"
  | date _ => "date"
  | time _ _ => "time"
  | moment _ => "datetime"
  | member m => m.family
  | list _ => "list"
  | tuple _ => "tuple"
  | dict _ => "dict"
  | entity kind _ _ _ _ => kind
  | reference _ => "EntityRef"
  | record kind _ _ => kind
  | bundle _ _ _ _ => "Composite"
  | shared _ => ""

/-- Whether a value says that no value was given. -/
def isAbsent : Value texts → Bool
  | null | absent => true
  | _ => false

/-- The Unicode text of a value that is one, or a member that acts as one. -/
def text? : Value texts → Option String
  | str s => some s
  | member (.text _ _ content) => some content
  | _ => none

/-- The code points of a value that is a text, or a member that acts as one. -/
def points? : Value texts → Option (List CodePoint)
  | surrogates _ t => some t.points
  | v => v.text?.map Text.points

/-- The text of some code points. If only Unicode texts may be held, there is none with surrogates.
-/
def ofPoints? (ps : List CodePoint) : Option (Value texts) :=
  if h : ps.any CodePoint.isSurrogate = true then
    if allowed : texts = .codePoints then some (surrogates allowed ⟨ps, h⟩) else none
  else some (str (String.ofList (ps.filterMap CodePoint.char?)))

/-- Whether a value counts as true: everything but absent values, zeros, and what is empty. -/
def truthy : Value texts → Bool
  | null | absent => false
  | bool b => b
  | int n => n != 0
  | float x => !x.isZero
  | decimal (.finite x) => x.coefficient != 0
  | fraction q => q != 0
  | str s => s != ""
  | bytes bs => !bs.isEmpty
  | member (.text _ _ content) => content != ""
  | member (.number _ _ n) => n != 0
  | member (.flags _ parts) => !parts.isEmpty
  | list xs | tuple xs => !xs.isEmpty
  | dict entries => !entries.isEmpty
  | bundle _ _ size _ => size != 0
  | _ => true

/-- One character as a text of its own. -/
def ofChar (c : Char) : Value texts := str (String.singleton c)

/-- A name with its value as a pair. -/
def pair (part : String × Value texts) : Value texts := tuple [str part.1, part.2]

/-- What a value yields when it is walked through, if it can be: a container its members, a dict its
keys, a text its characters, bytes their numbers, a union its bits, a thing with fields its fields
as pairs. -/
def elements? : Value texts → Option (List (Value texts))
  | list xs | tuple xs => some xs
  | dict entries => some (entries.map (·.1))
  | str s | member (.text _ _ s) => some (s.toList.map ofChar)
  | surrogates _ t => some (t.points.filterMap fun p => ofPoints? [p])
  | bytes bs => some (bs.map fun b => int b.toNat)
  | member (.flags family parts) => some (parts.map fun p => member (.flags family [p]))
  | entity _ id declared masking further =>
    some (pair ("id", id) :: (declared ++ masking ++ further).map pair)
  | reference id => some [pair ("id", id), pair ("loader", null)]
  | record _ _ parts => some (parts.map pair)
  | _ => none

/-- A dict with texts for keys. -/
def object (entries : List (String × Value texts)) : Value texts :=
  dict (entries.map fun e => (str e.1, e.2))

end Value

end FieldQuery
