import FieldQuery.Sql.Identifier

/-!
# SQL literals

How a value is written in a clause: nothing, truth values and numbers as bare words, texts between
single quotes with a quote inside written twice, sequences in parentheses. Every other value is
written as the text that it shows. A number is written with all of its digits, however many.
-/

namespace FieldQuery.Sql

inductive Literal where
  | null
  | bool (b : Bool)
  | number (word : List Char)
  | text (s : List Char)
  | group (items : List Literal)

namespace Literal

mutual

/-- The literal of a value. -/
def ofValue : Value → Literal
  | .null => null
  | .bool b => bool b
  | .int n => number (Text.signed n)
  | .float x => number x.chars
  | .decimal d => number d.chars
  | .fraction q => number (fractionText q).toList
  | .member (.number _ _ n) => number (Text.signed n)
  | .str s => text s.toList
  | .member (.text _ _ s) => text s.toList
  | .list xs => group (ofValues xs)
  | .tuple xs => group (ofValues xs)
  | v => text v.display.toList
termination_by structural v => v

def ofValues : List Value → List Literal
  | [] => []
  | x :: xs => ofValue x :: ofValues xs
termination_by structural xs => xs

end

mutual

/-- The written form of a literal. -/
def chars : Literal → List Char
  | null => "NULL".toList
  | bool b => if b then "TRUE".toList else "FALSE".toList
  | number word => word
  | text s => enclosed '\'' s
  | group items => '(' :: Text.joined ", ".toList (charsAll items) ++ [')']
termination_by structural l => l

def charsAll : List Literal → List (List Char)
  | [] => []
  | l :: ls => chars l :: charsAll ls
termination_by structural ls => ls

end

end Literal

/-- The written form of a value. -/
def formatChars (v : Value) : List Char := (Literal.ofValue v).chars

def formatValue (v : Value) : String := String.ofList (formatChars v)

end FieldQuery.Sql
