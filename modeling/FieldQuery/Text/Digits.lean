/-!
# Digits

Numbers written and read as runs of decimal or hexadecimal digits, over lists of characters.

There is a most number of digits that a whole number may have where it is read from a text, written
as JSON, or filled into a log message as a number (`maxDigits`); those operations refuse longer ones
themselves. The text forms of values (`Value.display`, `Value.inspect`) and SQL literals are
modelled without that limit: they write a number of any size with all of its digits.
-/

namespace FieldQuery.Text

/-- The decimal digits of `n`, filled with zeros on the left up to `width` characters. -/
def padded (width n : Nat) : List Char :=
  let ds := Nat.toDigits 10 n
  List.replicate (width - ds.length) '0' ++ ds

/-- The hexadecimal digits of `n` in small letters, filled with zeros up to `width` characters. -/
def paddedHex (width n : Nat) : List Char :=
  let ds := Nat.toDigits 16 n
  List.replicate (width - ds.length) '0' ++ ds

/-- The zeros of all scripts that write numbers in base ten; nine further digits follow each. -/
def zeros : List Nat :=
  [0x0030, 0x0660, 0x06F0, 0x07C0, 0x0966, 0x09E6, 0x0A66, 0x0AE6, 0x0B66, 0x0BE6, 0x0C66, 0x0CE6,
   0x0D66, 0x0DE6, 0x0E50, 0x0ED0, 0x0F20, 0x1040, 0x1090, 0x17E0, 0x1810, 0x1946, 0x19D0, 0x1A80,
   0x1A90, 0x1B50, 0x1BB0, 0x1C40, 0x1C50, 0xA620, 0xA8D0, 0xA900, 0xA9D0, 0xA9F0, 0xAA50, 0xABF0,
   0xFF10, 0x104A0, 0x10D30, 0x11066, 0x110F0, 0x11136, 0x111D0, 0x112F0, 0x11450, 0x114D0,
   0x11650, 0x116C0, 0x11730, 0x118E0, 0x11950, 0x11C50, 0x11D50, 0x11DA0, 0x16A60, 0x16AC0,
   0x16B50, 0x1D7CE, 0x1D7D8, 0x1D7E2, 0x1D7EC, 0x1D7F6, 0x1E140, 0x1E2F0, 0x1E950, 0x1FBF0]

/-- A digit of any script as that of ASCII; other characters stay as they are. -/
def asciiDigit (c : Char) : Char :=
  match zeros.find? fun z => z ≤ c.toNat && c.toNat < z + 10 with
  | some z => Char.ofNat ('0'.toNat + (c.toNat - z))
  | none => c

/-- Whether a character is blank in any script. -/
def isBlank (c : Char) : Bool :=
  let n := c.toNat
  (0x09 ≤ n && n ≤ 0x0D) || (0x1C ≤ n && n ≤ 0x20) || n == 0x85 || n == 0xA0 || n == 0x1680 ||
    (0x2000 ≤ n && n ≤ 0x200A) || n == 0x2028 || n == 0x2029 || n == 0x202F || n == 0x205F ||
    n == 0x3000

/-- The number that a decimal digit stands for. -/
def digit? (c : Char) : Option Nat :=
  if '0' ≤ c ∧ c ≤ '9' then some (c.toNat - '0'.toNat) else none

/-- The number that a hexadecimal digit of either case stands for. -/
def hexDigit? (c : Char) : Option Nat :=
  if '0' ≤ c ∧ c ≤ '9' then some (c.toNat - '0'.toNat)
  else if 'a' ≤ c ∧ c ≤ 'f' then some (c.toNat - 'a'.toNat + 10)
  else if 'A' ≤ c ∧ c ≤ 'F' then some (c.toNat - 'A'.toNat + 10)
  else none

/-- The value of a run of digits, each read by `read` in base `base`, continuing from `start`. -/
def valueFrom (read : Char → Option Nat) (base : Nat) : Nat → List Char → Option Nat
  | start, [] => some start
  | start, c :: cs =>
    match read c with
    | some d => valueFrom read base (start * base + d) cs
    | none => none

/-- The number written by a non-empty run of decimal digits. -/
def number? : List Char → Option Nat
  | [] => none
  | cs => valueFrom digit? 10 0 cs

/-- The number written by a non-empty run of hexadecimal digits. -/
def hexNumber? : List Char → Option Nat
  | [] => none
  | cs => valueFrom hexDigit? 16 0 cs

/-- The blanks that may stand between the bytes of a run. -/
def isByteBlank (c : Char) : Bool := c == ' ' || ('\t' ≤ c && c ≤ '\r')

/-- The bytes written by pairs of hexadecimal digits, with blanks between the pairs. -/
def hexBytes? : List Char → Option (List UInt8)
  | [] => some []
  | [a] => if isByteBlank a then some [] else none
  | a :: b :: cs =>
    if isByteBlank a then hexBytes? (b :: cs)
    else
      match hexDigit? a, hexDigit? b, hexBytes? cs with
      | some x, some y, some rest => some (UInt8.ofNat (16 * x + y) :: rest)
      | _, _, _ => none

/-- Two hexadecimal digits for each byte. -/
def hexOfBytes (bs : List UInt8) : List Char :=
  bs.flatMap fun b => paddedHex 2 b.toNat

/-- The most digits of a whole number in base ten, where their number is limited. -/
def maxDigits : Nat := 4300

/-- A whole number in decimal, with a minus sign in front of a negative one; it may have any number
of digits. -/
def signed (n : Int) : List Char :=
  if n < 0 then '-' :: Nat.toDigits 10 n.natAbs else Nat.toDigits 10 n.natAbs

end FieldQuery.Text
