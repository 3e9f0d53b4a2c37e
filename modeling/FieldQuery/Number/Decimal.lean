import FieldQuery.Number.Numeral

/-!
# Decimal numbers

Decimal floating point of any precision: a coefficient keeps its trailing zeros. The text is
scientific when the exponent is positive or the first digit stands below the sixth place after the
point.
-/

namespace FieldQuery

/-- What is no number: it may be signaling, which no comparison bears, and carries digits of its
own. The stamp tells one from another. -/
structure Decimal.NotNumber where
  negative : Bool
  signaling : Bool
  digits : Nat
  stamp : Nat
deriving DecidableEq, Inhabited

inductive Decimal where
  | nan (n : Decimal.NotNumber)
  | infinite (negative : Bool)
  | finite (x : Numeral)
deriving DecidableEq, Inhabited

namespace Decimal

/-- The coefficient's digits with a point after the first `place` of them, counted from the left;
zeros are filled in on either side. -/
def withPoint (ds : List Char) (place : Int) : List Char :=
  if place ≤ 0 then '0' :: '.' :: List.replicate (-place).toNat '0' ++ ds
  else if (ds.length : Int) ≤ place then ds ++ List.replicate (place - ds.length).toNat '0'
  else ds.take place.toNat ++ '.' :: ds.drop place.toNat

/-- The text of a sign, a coefficient and an exponent. -/
def finiteChars (x : Numeral) : List Char :=
  let ds := Nat.toDigits 10 x.coefficient
  let lead : Int := x.exponent + ds.length
  let sign := if x.negative then ['-'] else []
  if x.exponent ≤ 0 ∧ -6 < lead then sign ++ withPoint ds lead
  else
    let power := lead - 1
    sign ++ withPoint ds 1 ++
      (if power = 0 then []
       else 'E' :: (if power < 0 then '-' else '+') :: Nat.toDigits 10 power.natAbs)

/-- The word for what is no number. -/
def NotNumber.chars (n : NotNumber) : List Char :=
  (if n.negative then ['-'] else []) ++ (if n.signaling then ['s'] else []) ++ "NaN".toList ++
    if n.digits = 0 then [] else Nat.toDigits 10 n.digits

def chars : Decimal → List Char
  | nan n => n.chars
  | infinite negative => (if negative then ['-'] else []) ++ "Infinity".toList
  | finite x => finiteChars x

def text (d : Decimal) : String := String.ofList d.chars

/-- The exact value of a finite number. -/
def ratOfNumeral (x : Numeral) : Rat :=
  let n : Int := if x.negative then -(x.coefficient : Int) else x.coefficient
  if 0 ≤ x.exponent then mkRat (n * Nat.pow 10 x.exponent.toNat) 1
  else mkRat n (Nat.pow 10 (-x.exponent).toNat)

/-- The largest exponent that the first digit of a number may have. The last digit may stand about
twice as far on the other side of one. -/
def maxExponent : Int := Nat.pow 10 18 - 1

/-- A finite number, unless its first digit stands too far above one or its last one too far
below. -/
def ofNumeral? (x : Numeral) : Option Decimal :=
  let first : Int := x.exponent + (Nat.toDigits 10 x.coefficient).length - 1
  if first ≤ maxExponent ∧ 1 - 2 * maxExponent ≤ x.exponent then some (finite x) else none

/-- Reads the digits after the word for what is no number. -/
def notNumber? (negative signaling : Bool) (stamp : Nat) (ds : List Char) : Option Decimal :=
  if ds.isEmpty then some (nan ⟨negative, signaling, 0, stamp⟩)
  else (Text.number? ds).map fun n => nan ⟨negative, signaling, n, stamp⟩

/-- Reads a numeral, or one of the words for infinity and for what is no number, which then gets
the stamp. Blanks around the text and underscores in it do not count. -/
def ofText? (stamp : Nat) (s : String) : Option Decimal :=
  let cs := (Numeral.inAscii s.toList).filter (· != '_')
  let (negative, word) := Numeral.splitSign cs
  match word.map Char.toLower with
  | ['i', 'n', 'f'] | ['i', 'n', 'f', 'i', 'n', 'i', 't', 'y'] => some (infinite negative)
  | 'n' :: 'a' :: 'n' :: ds => notNumber? negative false stamp ds
  | 's' :: 'n' :: 'a' :: 'n' :: ds => notNumber? negative true stamp ds
  | _ => (Numeral.ofChars? cs).bind ofNumeral?

end Decimal

end FieldQuery
