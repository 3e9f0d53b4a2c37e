import FieldQuery.Failure

/-!
# Checked data

Reading texts and truth values from data that comes from outside. A text may be given as a member,
which counts as the text of its content, or as bytes in UTF-8, a truth value also by a word, by 0 or
by 1.
-/

namespace FieldQuery

/-- What one check finds: a value, or a fault. -/
abbrev Checked (α : Type) := Except Fault α

namespace Checked

/-- The issue of a failed check of the named field. -/
def issues {α : Type} (name : String) : Checked α → List Issue
  | .ok _ => []
  | .error fault => [⟨[name], fault⟩]

/-- A text: a text itself, the content of a member, or bytes in UTF-8. -/
def text (v : Value) : Checked String :=
  match v.text? with
  | some s => .ok s
  | none =>
    match v with
    | .bytes bs =>
      match Text.ofUtf8? bs with
      | some s => .ok s
      | none => .error .notUnicode
    | .member m => .ok m.content
    | _ => .error .notText

/-- The words for the two truth values. -/
def boolWord (s : String) : Checked Bool :=
  let word := String.ofList (s.toList.map Char.toLower)
  if ["0", "off", "f", "false", "n", "no"].contains word then .ok false
  else if ["1", "on", "t", "true", "y", "yes"].contains word then .ok true
  else .error .unreadableBool

/-- Whole numbers of 64 bits can be tried as truth values; only 0 and 1 are. -/
def boolNumber (n : Int) : Checked Bool :=
  if n = 0 then .ok false
  else if n = 1 then .ok true
  else if -(Nat.pow 2 63 : Int) ≤ n ∧ n < Nat.pow 2 63 then .error .unreadableBool
  else .error .notBool

/-- Numbers other than whole ones are tried by their nearest binary value. -/
def boolBinary (x : Binary64) : Checked Bool :=
  if x.isNaN || x.isInfinite then .error .notBool
  else if x.toRat.den = 1 then boolNumber x.toRat.num
  else .error .notBool

/-- The binary number nearest to an exact one. -/
def nearest (q : Rat) : Binary64 := Binary64.ofRatio (q < 0) q.num.natAbs q.den

/-- A truth value, or something that is taken for one. -/
def bool (v : Value) : Checked Bool :=
  match v.text? with
  | some s => boolWord s
  | none =>
    match v with
    | .bool b => .ok b
    | .bytes bs =>
      match Text.ofUtf8? bs with
      | some s => boolWord s
      | none => .error .unreadableBool
    | .int n | .member (.number _ _ n) => boolNumber n
    | .float x => boolBinary x
    | .fraction q => boolBinary (nearest q)
    | .decimal (.finite x) => boolBinary (Binary64.ofNumeral x)
    | _ => .error .notBool

/-- A truth value that may be left out. -/
def flag (v : Option Value) : Checked Bool :=
  match v with
  | none => .ok false
  | some v => bool v

end Checked

end FieldQuery
