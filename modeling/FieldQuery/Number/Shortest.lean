import FieldQuery.Number.Binary64

/-!
# Shortest decimal text of a binary number

A finite number is written with the fewest digits that read back as that number; of several such
texts the nearest to the number is taken, and of two equally near ones the one with the even last
digit. Candidates are the two neighbours of the number on the grids of one to seventeen digits, and
they are tested by exact arithmetic on whole numbers.
-/

namespace FieldQuery.Binary64

/-- Half the distance to the next number above, below, and whether the ends of the interval of what
rounds to the number belong to it; in units of `2 ^ (exponent - 2)`. -/
structure Interval where
  below : Nat
  above : Nat
  closed : Bool

def interval (x : Binary64) : Interval :=
  let narrow := x.fraction = 0 ∧ 1 < x.scale.toNat
  ⟨4 * x.mantissa - (if narrow then 1 else 2), 4 * x.mantissa + 2, x.mantissa % 2 = 0⟩

/-- Compares `a · 10 ^ p` with `b · 2 ^ q` by whole numbers on both sides. -/
def balance (a : Nat) (p : Int) (b : Nat) (q : Int) : Nat × Nat :=
  (a * Nat.pow 10 p.toNat * Nat.pow 2 (-q).toNat, b * Nat.pow 2 q.toNat * Nat.pow 10 (-p).toNat)

/-- Whether `d · 10 ^ p` rounds to `x`. -/
def readsBack (x : Binary64) (d : Nat) (p : Int) : Bool :=
  let i := x.interval
  let q := x.exponent - 2
  let (a, lo) := balance d p i.below q
  let (b, hi) := balance d p i.above q
  if i.closed then lo ≤ a && b ≤ hi else lo < a && b < hi

/-- The exponent `k` with `10 ^ k ≤ x < 10 ^ (k + 1)`, from a first guess that may be one too small
or too large. -/
def decimalExponent (x : Binary64) : Int :=
  let (n, d) := x.ratio
  let reaches (k : Int) : Bool := d * Nat.pow 10 k.toNat ≤ n * Nat.pow 10 (-k).toNat
  let guess : Int := ((n.log2 : Int) - d.log2) * 30103 / 100000
  if reaches (guess + 1) then guess + 1 else if reaches guess then guess else guess - 1

/-- The better of the two whole multiples of `10 ^ p` around `x`, if one of them reads back. -/
def onGrid (x : Binary64) (p : Int) : Option Nat :=
  let (n, d) := x.ratio
  let num := n * Nat.pow 10 (-p).toNat
  let den := d * Nat.pow 10 p.toNat
  let low := num / den
  let twice := 2 * (num % den)
  match readsBack x low p, readsBack x (low + 1) p with
  | true, true =>
    some (if twice < den then low else if twice > den then low + 1
      else if low % 2 = 0 then low else low + 1)
  | true, false => some low
  | false, true => some (low + 1)
  | false, false => none

/-- The first grid, from `digits` digits on, on which a neighbour reads back. -/
def searchGrids (x : Binary64) (k : Int) : (more digits : Nat) → Nat × Int
  | 0, digits => ((onGrid x (k - digits + 1)).getD 0, k - digits + 1)
  | more + 1, digits =>
    match onGrid x (k - digits + 1) with
    | some d => (d, k - digits + 1)
    | none => searchGrids x k more (digits + 1)

/-- Digits `d` and exponent `p` such that `d · 10 ^ p` is the shortest decimal for a finite number
other than zero. -/
def shortest (x : Binary64) : Nat × Int :=
  searchGrids x x.decimalExponent 16 1

/-- Where positional notation ends: exponents from the first field on and below the second are
written positionally. -/
structure Layout where
  positionalFrom : Int
  scientificFrom : Int
  exponentWidth : Nat

/-- Positional from 0.0001 up to, but not including, 10 ^ 16; exponents of at least two digits. -/
def usual : Layout := ⟨-4, 16, 2⟩

/-- The digits of `d · 10 ^ p` in the given layout; `d` is not zero. -/
def digitsIn (style : Layout) (d : Nat) (p : Int) : List Char :=
  let all := Nat.toDigits 10 d
  let ds := (all.reverse.dropWhile (· == '0')).reverse
  let lead : Int := all.length - 1 + p
  if lead < style.positionalFrom ∨ style.scientificFrom ≤ lead then
    let head := match ds with
      | c :: c' :: cs => c :: '.' :: c' :: cs
      | cs => cs
    head ++ 'e' :: (if lead < 0 then '-' else '+') :: Text.padded style.exponentWidth lead.natAbs
  else if lead < 0 then
    '0' :: '.' :: List.replicate (-lead - 1).toNat '0' ++ ds
  else
    let whole := lead.toNat + 1
    let filled := ds ++ List.replicate (whole + 1 - ds.length) '0'
    filled.take whole ++ '.' :: filled.drop whole

/-- The text of a number. -/
def chars (x : Binary64) : List Char :=
  if x.isNaN then "nan".toList else
    let sign := if x.negative then ['-'] else []
    if x.isInfinite then sign ++ "inf".toList
    else if x.isZero then sign ++ "0.0".toList
    else
      let (d, p) := x.shortest
      sign ++ digitsIn usual d p

def text (x : Binary64) : String := String.ofList x.chars

end FieldQuery.Binary64
