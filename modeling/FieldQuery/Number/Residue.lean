/-!
# Residues

Every number is hashed by a residue modulo one prime, so that equal numbers of different kinds hash
alike. A fraction goes by the quotient of the residues of its numerator and its denominator.
-/

namespace FieldQuery.Residue

/-- The modulus, a prime. -/
def modulus : Nat := Nat.pow 2 61 - 1

/-- The residue of `a ^ n` for an exponent of at most `bits` bits, by repeated squaring. -/
def power : (bits a n : Nat) → Nat
  | 0, _, _ => 1
  | bits + 1, a, n =>
    let r := power bits (a * a % modulus) (n / 2)
    if n % 2 = 1 then r * a % modulus else r

/-- The residue that gives 1 when it is multiplied by `a`, which must not be a multiple of the
modulus: a power of it, by the little theorem of Fermat. -/
def inverse (a : Nat) : Nat := power 61 (a % modulus) (modulus - 2)

/-- The residue that stands for infinity, and for fractions whose denominator has no inverse. -/
def infinite : Int := 314159

/-- Gives a size its sign. There is no -1: it counts as -2. -/
def signed (negative : Bool) (size : Int) : Int :=
  let n := if negative then -size else size
  if n = -1 then -2 else n

/-- The residue of an exact number, with its sign. -/
def ofRat (q : Rat) : Int :=
  signed (q.num < 0)
    (if q.den % modulus = 0 then infinite
     else ((q.num.natAbs % modulus * inverse q.den % modulus : Nat) : Int))

end FieldQuery.Residue
