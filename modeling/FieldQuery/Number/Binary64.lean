import FieldQuery.Number.Numeral

/-!
# Binary floating point of 64 bits

A number is its sign, its exponent field and its fraction field, so two numbers are the same exactly
when their fields are. Numerals are rounded to the nearest number, a half to the even neighbour.
Arithmetic is left out: only reading, exact value and order of magnitude are needed.
-/

namespace FieldQuery

/-- The three fields of a binary number of 64 bits. -/
structure Binary64 where
  negative : Bool
  scale : BitVec 11
  fraction : BitVec 52
deriving DecidableEq

namespace Binary64

def zero (negative : Bool) : Binary64 := ⟨negative, 0, 0⟩

def infinity (negative : Bool) : Binary64 := ⟨negative, 2047, 0⟩

/-- What is no number; the stamp tells one from another. -/
def nan (stamp : Nat) : Binary64 := ⟨false, 2047, BitVec.ofNat 52 (stamp % (Nat.pow 2 52 - 1) + 1)⟩

instance : Inhabited Binary64 := ⟨zero false⟩

def isNaN (x : Binary64) : Bool := x.scale == 2047 && x.fraction != 0

def isInfinite (x : Binary64) : Bool := x.scale == 2047 && x.fraction == 0

def isZero (x : Binary64) : Bool := x.scale == 0 && x.fraction == 0

/-- The whole number `m` in the value `m · 2 ^ e` of a finite number. -/
def mantissa (x : Binary64) : Nat :=
  if x.scale = 0 then x.fraction.toNat else Nat.pow 2 52 + x.fraction.toNat

/-- The exponent `e` in the value `m · 2 ^ e` of a finite number. -/
def exponent (x : Binary64) : Int :=
  max (x.scale.toNat : Int) 1 - 1075

/-- The absolute value of a finite number as a numerator and a denominator. -/
def ratio (x : Binary64) : Nat × Nat :=
  if 0 ≤ x.exponent then (x.mantissa * Nat.pow 2 x.exponent.toNat, 1)
  else (x.mantissa, Nat.pow 2 (-x.exponent).toNat)

/-- The exact value of a finite number. -/
def toRat (x : Binary64) : Rat :=
  let (n, d) := x.ratio
  mkRat (if x.negative then -(n : Int) else n) d

/-- The quotient rounded to the nearest whole number, a half to the even neighbour. -/
def roundedQuotient (n d : Nat) : Nat :=
  let q := n / d
  let r := 2 * (n % d)
  if r < d then q else if r > d then q + 1 else if q % 2 = 0 then q else q + 1

/-- The quotient of `n` by `d · 2 ^ e`, as a numerator and a denominator. -/
def scaledDown (n d : Nat) (e : Int) : Nat × Nat :=
  if 0 ≤ e then (n, d * Nat.pow 2 e.toNat) else (n * Nat.pow 2 (-e).toNat, d)

/-- The exponent of the power of two at or below the quotient of two positive numbers. -/
def leadingExponent (n d : Nat) : Int :=
  let e : Int := n.log2 - d.log2
  let (a, b) := scaledDown n d e
  if b ≤ a then e else e - 1

/-- The number with the value `m · 2 ^ e`, where `m` has at most 53 bits, fewer only at the smallest
exponent. -/
def assemble (negative : Bool) (m : Nat) (e : Int) : Binary64 :=
  if m < Nat.pow 2 52 then ⟨negative, 0, BitVec.ofNat 52 m⟩
  else if 971 < e then infinity negative
  else ⟨negative, BitVec.ofNat 11 (e + 1075).toNat, BitVec.ofNat 52 (m - Nat.pow 2 52)⟩

/-- The number nearest to the quotient of `n` by the positive number `d`. -/
def ofRatio (negative : Bool) (n d : Nat) : Binary64 :=
  if n = 0 then zero negative else
    let e := max (leadingExponent n d - 52) (-1074)
    let (a, b) := scaledDown n d e
    let m := roundedQuotient a b
    if m = Nat.pow 2 53 then assemble negative (Nat.pow 2 52) (e + 1) else assemble negative m e

/-- The number nearest to a numeral. Numerals beyond the range of the format by a wide margin are
not expanded. -/
def ofNumeral (x : Numeral) : Binary64 :=
  if x.coefficient = 0 then zero x.negative else
    let magnitude : Int := (Nat.toDigits 10 x.coefficient).length + x.exponent
    if magnitude > 400 then infinity x.negative
    else if magnitude < -400 then zero x.negative
    else if 0 ≤ x.exponent then
      ofRatio x.negative (x.coefficient * Nat.pow 10 x.exponent.toNat) 1
    else ofRatio x.negative x.coefficient (Nat.pow 10 (-x.exponent).toNat)

/-- Reads a numeral, or one of the words for infinity and for what is no number, which then gets
the stamp. -/
def ofText? (stamp : Nat) (s : String) : Option Binary64 :=
  match Numeral.plain? s.toList with
  | none => none
  | some cs =>
    let (negative, word) := Numeral.splitSign cs
    let word := word.map Char.toLower
    if word = "inf".toList ∨ word = "infinity".toList then some (infinity negative)
    else if word = "nan".toList then some (nan stamp)
    else (Numeral.ofChars? cs).map ofNumeral

end Binary64

end FieldQuery
