import FieldQuery.Number.Shortest

/-!
# Binary numbers with a given number of digits

A finite number is written with so many places after the point, with so many digits and an exponent,
or in the one of the two ways that suits its size. Its exact value is rounded to the nearest decimal
of that form, a half to the even neighbour. Signs are left to the caller.
-/

namespace FieldQuery.Binary64

/-- The whole number nearest to the absolute value of `x · 10 ^ places`. -/
def scaled (x : Binary64) (places : Int) : Nat :=
  let (n, d) := x.ratio
  roundedQuotient (n * Nat.pow 10 places.toNat) (d * Nat.pow 10 (-places).toNat)

/-- A whole number with a point before its last `places` digits. Without places there is a point
only if it is to be kept. -/
def pointed (keepPoint : Bool) (places m : Nat) : List Char :=
  let ds := Text.padded (places + 1) m
  let whole := ds.take (ds.length - places)
  if places = 0 ∧ !keepPoint then whole else whole ++ '.' :: ds.drop (ds.length - places)

/-- Places that write every binary number exactly, after its point and after its first digit: the
least one has 1074 places, and no number more than 767 digits. -/
def exactPlaces : Nat := 1100

/-- The zeros of the places that no number needs. -/
def furtherZeros (places : Nat) : List Char := List.replicate (places - exactPlaces) '0'

/-- The text with `places` places after the point. -/
def fixedChars (keepPoint : Bool) (places : Nat) (x : Binary64) : List Char :=
  let needed := min places exactPlaces
  pointed keepPoint needed (x.scaled needed) ++ furtherZeros places

/-- The first `places + 1` digits as a whole number, and the exponent of the first of them. -/
def leading (places : Nat) (x : Binary64) : Nat × Int :=
  if x.isZero then (0, 0)
  else
    let e := x.decimalExponent
    let m := x.scaled (places - e)
    if m = Nat.pow 10 (places + 1) then (Nat.pow 10 places, e + 1) else (m, e)

/-- An exponent with its sign and at least two digits. -/
def exponentChars (e : Int) : List Char :=
  'e' :: (if e < 0 then '-' else '+') :: Text.padded 2 e.natAbs

/-- The text with one digit before the point, `places` after it, and an exponent. -/
def scientificChars (keepPoint : Bool) (places : Nat) (x : Binary64) : List Char :=
  let needed := min places exactPlaces
  let (m, e) := x.leading needed
  pointed keepPoint needed m ++ furtherZeros places ++ exponentChars e

/-- Drops the zeros at the end of the places, and a point that nothing follows. -/
def withoutZeros (cs : List Char) : List Char :=
  if cs.contains '.' then
    match cs.reverse.dropWhile (· == '0') with
    | '.' :: rest => rest.reverse
    | rest => rest.reverse
  else cs

/-- The text with so many digits: with an exponent if that is less than -4 or not less than the
number of digits, otherwise without. Zeros at the end go, unless the point is to be kept. -/
def generalChars (keepPoint : Bool) (digits : Nat) (x : Binary64) : List Char :=
  let needed := min (digits - 1) exactPlaces
  let (m, e) := x.leading needed
  let written (places : Nat) :=
    if keepPoint then pointed keepPoint places m ++ furtherZeros (digits - 1)
    else withoutZeros (pointed keepPoint places m)
  if -4 ≤ e ∧ e ≤ needed then written ((needed : Int) - e).toNat
  else written needed ++ exponentChars e

end FieldQuery.Binary64
