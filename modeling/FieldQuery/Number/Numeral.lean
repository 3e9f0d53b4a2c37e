import FieldQuery.Text.Digits

/-!
# Decimal numerals

A numeral such as `-12.5e3` is a sign, a coefficient and a power of ten. Reading keeps the trailing
zeros of the coefficient; what a numeral stands for is decided by the kind of number that takes it.
-/

namespace FieldQuery

/-- A sign, a coefficient and an exponent of ten, for `± coefficient · 10 ^ exponent`. -/
structure Numeral where
  negative : Bool
  coefficient : Nat
  exponent : Int
deriving DecidableEq, Inhabited

namespace Numeral

open Text (number?)

/-- Splits an optional sign from the front. -/
def splitSign : List Char → Bool × List Char
  | '-' :: cs => (true, cs)
  | '+' :: cs => (false, cs)
  | cs => (false, cs)

/-- Digits of any script as those of ASCII, without the blanks around them. -/
def inAscii (cs : List Char) : List Char :=
  let cs := (cs.dropWhile Text.isBlank).reverse.dropWhile Text.isBlank
  cs.reverse.map Text.asciiDigit

/-- The text without its underscores, each of which has to stand between two digits; `afterDigit`
says whether a digit comes before the text. -/
def withoutUnderscores? (isDigit : Char → Bool) :
    (afterDigit : Bool) → List Char → Option (List Char)
  | _, [] => some []
  | afterDigit, c :: cs =>
    if c = '_' then
      if afterDigit && cs.head?.any isDigit then withoutUnderscores? isDigit false cs else none
    else (withoutUnderscores? isDigit (isDigit c) cs).map (c :: ·)

/-- A number as it is read: without blanks around it and without underscores between its digits. -/
def plain? (cs : List Char) : Option (List Char) :=
  withoutUnderscores? Char.isDigit false (inAscii cs)

/-- A whole number with an optional sign. -/
def integer? (cs : List Char) : Option Int :=
  let (negative, ds) := splitSign cs
  (number? ds).map fun n => if negative then -(n : Int) else n

/-- Reads a whole number, which may have blanks around it and underscores between its digits. -/
def wholeOfText? (s : String) : Option Int :=
  match plain? s.toList with
  | none => none
  | some cs => if Text.maxDigits < (splitSign cs).2.length then none else integer? cs

/-- The digits of a hexadecimal number, after a plus sign and a mark of the base. -/
def hexDigits (cs : List Char) : List Char :=
  let ds := if cs.head? = some '+' then cs.tail else cs
  match ds with
  | '0' :: 'x' :: '_' :: ds | '0' :: 'X' :: '_' :: ds => ds
  | '0' :: 'x' :: ds | '0' :: 'X' :: ds => ds
  | ds => ds

/-- Reads a hexadecimal number, which may have blanks around it and underscores between its
digits. -/
def hexNumber? (cs : List Char) : Option Nat :=
  let isDigit (c : Char) : Bool := (Text.hexDigit? c).isSome
  (withoutUnderscores? isDigit false (hexDigits (inAscii cs))).bind Text.hexNumber?

/-- The exponent that follows the coefficient; nothing stands for zero. -/
def exponent? : List Char → Option Int
  | [] => some 0
  | c :: cs => if c = 'e' ∨ c = 'E' then integer? cs else none

/-- Reads digits with an optional point and an optional exponent. -/
def unsigned? (negative : Bool) (cs : List Char) : Option Numeral :=
  let whole := cs.takeWhile Char.isDigit
  let afterWhole := cs.dropWhile Char.isDigit
  let (fraction, rest) :=
    match afterWhole with
    | '.' :: ds => (ds.takeWhile Char.isDigit, ds.dropWhile Char.isDigit)
    | ds => ([], ds)
  match number? (whole ++ fraction), exponent? rest with
  | some n, some e => some ⟨negative, n, e - fraction.length⟩
  | _, _ => none

/-- Reads a numeral with an optional sign. -/
def ofChars? (cs : List Char) : Option Numeral :=
  let (negative, ds) := splitSign cs
  unsigned? negative ds

end Numeral

end FieldQuery
