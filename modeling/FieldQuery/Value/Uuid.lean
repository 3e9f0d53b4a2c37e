import FieldQuery.Number.Numeral

/-!
# Universally unique identifiers

A number of 128 bits, written as 32 hexadecimal digits in groups of 8, 4, 4, 4 and 12.
-/

namespace FieldQuery

structure Uuid where
  bits : BitVec 128
deriving DecidableEq

namespace Uuid

/-- Cuts a text into groups of the given lengths, with hyphens between them. -/
def grouped : List Nat → List Char → List Char
  | [], ds => ds
  | [_], ds => ds
  | n :: ns, ds => ds.take n ++ '-' :: grouped ns (ds.drop n)

def text (u : Uuid) : String :=
  String.ofList (grouped [8, 4, 4, 4, 12] (Text.paddedHex 32 u.bits.toNat))

/-- A text without what may stand around the digits: the names of the scheme, braces at both ends,
and hyphens anywhere. -/
def bare (s : String) : List Char :=
  let isBrace (c : Char) : Bool := c == '{' || c == '}'
  let cs := (((s.replace "urn:" "").replace "uuid:" "").toList.dropWhile isBrace).reverse
  (cs.dropWhile isBrace).reverse.filter (· != '-')

/-- Reads 32 characters that write a hexadecimal number. -/
def ofText? (s : String) : Option Uuid :=
  let cs := bare s
  if cs.length = 32 then (Numeral.hexNumber? cs).map fun n => ⟨BitVec.ofNat 128 n⟩ else none

end Uuid

end FieldQuery
