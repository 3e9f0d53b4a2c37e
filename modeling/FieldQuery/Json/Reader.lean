import FieldQuery.Value.Equality

/-!
# Reading JSON

A text is read into a value: objects become dicts with texts for keys, whole numbers stay exact, and
numbers with a point or an exponent become binary floating point. The words for infinity and for
what is no number are read as well. A key that is repeated keeps its first place and takes its last
value.

A code unit that is written as an escape makes a character with the one after it if these are a pair
of surrogates. A surrogate without a partner is a code point of its own: a reader of Unicode texts
refuses it, any other one keeps it.

Every step of the reader consumes a character, so the length of the text bounds the recursion.
-/

namespace FieldQuery.Json

/-- How deep arrays and objects may stand inside each other. -/
def maxDepth : Nat := 200

def isBlank (c : Char) : Bool := c == ' ' || c == '\t' || c == '\n' || c == '\r'

/-- The text without the blanks at its front. -/
def skipBlank (cs : List Char) : List Char := cs.dropWhile isBlank

/-- The code unit written by four hexadecimal digits. -/
def unit? (a b c d : Char) : Option Nat := Text.hexNumber? [a, b, c, d]

/-- The character that stands for itself after a backslash, or that a letter names. -/
def escape? : Char → Option Char
  | '"' => some '"'
  | '\\' => some '\\'
  | '/' => some '/'
  | 'b' => some '\x08'
  | 'f' => some '\x0c'
  | 'n' => some '\n'
  | 'r' => some '\r'
  | 't' => some '\t'
  | _ => none

/-- What is read of a string, with one more code point in front. -/
def prepend (p : CodePoint) (r : Option (List CodePoint × List Char)) :
    Option (List CodePoint × List Char) :=
  r.map fun r => (p :: r.1, r.2)

/-- Reads the rest of a string up to its closing quote, with every code unit by itself. -/
def stringBody : List Char → Option (List CodePoint × List Char)
  | [] => none
  | '"' :: rest => some ([], rest)
  | '\\' :: 'u' :: a :: b :: c :: d :: rest =>
    match unit? a b c d with
    | some n => prepend (.ofUnit n) (stringBody rest)
    | none => none
  | '\\' :: c :: rest =>
    match escape? c with
    | some x => prepend (.scalar x) (stringBody rest)
    | none => none
  | c :: rest =>
    if c.toNat < 0x20 ∨ c = '\\' then none else prepend (.scalar c) (stringBody rest)

variable {texts : Texts}

/-- Reads the rest of a string as a value. -/
def string? (cs : List Char) : Option (Value texts × List Char) :=
  (stringBody cs).bind fun r => (Value.ofPoints? (Text.joinPairs r.1)).map fun v => (v, r.2)

/-- The characters that a number may hold. -/
def isNumberChar (c : Char) : Bool :=
  c.isDigit || c == '-' || c == '+' || c == '.' || c == 'e' || c == 'E'

/-- A whole part has no zero in front of other digits. -/
def isWholePart : List Char → Bool
  | ['0'] => true
  | '0' :: _ => false
  | cs => !cs.isEmpty

/-- The value of a number without its sign, whose whole part has no more than `digits` digits. -/
def unsignedNumber? (digits : Nat) (negative : Bool) (cs : List Char) : Option (Value texts) :=
  let whole := cs.takeWhile Char.isDigit
  let rest := cs.dropWhile Char.isDigit
  if !isWholePart whole || digits < whole.length then none
  else
    match rest with
    | [] =>
      (Text.number? whole).map fun n => .int (if negative then -(n : Int) else n)
    | '.' :: [] => none
    | '.' :: d :: _ =>
      if d.isDigit then (Numeral.unsigned? negative cs).map fun x => .float (.ofNumeral x) else none
    | _ => (Numeral.unsigned? negative cs).map fun x => .float (.ofNumeral x)

/-- The value of a number. -/
def number? (digits : Nat) : List Char → Option (Value texts)
  | '-' :: cs => unsignedNumber? digits true cs
  | cs => unsignedNumber? digits false cs

/-- The words that stand for a value. -/
def words : List (List Char × Value texts) :=
  [("null".toList, .null), ("true".toList, .bool true), ("false".toList, .bool false),
   ("NaN".toList, .float (.nan 0)), ("Infinity".toList, .float (.infinity false)),
   ("-Infinity".toList, .float (.infinity true))]

/-- Reads a word or a number from the front. -/
def scalar? (digits : Nat) (cs : List Char) : Option (Value texts × List Char) :=
  match words.find? fun w => w.1.isPrefixOf cs with
  | some (w, v) => some (v, cs.drop w.length)
  | none =>
    (number? digits (cs.takeWhile isNumberChar)).map fun v => (v, cs.dropWhile isNumberChar)

mutual

/-- Reads a value from the front, standing in no more than `depth` further containers. -/
def value? (digits : Nat) : (fuel depth : Nat) → List Char → Option (Value texts × List Char)
  | 0, _, _ => none
  | fuel + 1, depth, cs =>
    match skipBlank cs with
    | '"' :: rest => string? rest
    | '[' :: rest =>
      match depth with
      | 0 => none
      | depth + 1 =>
        match skipBlank rest with
        | ']' :: rest => some (.list [], rest)
        | rest => (items? digits fuel depth rest).map fun r => (.list r.1, r.2)
    | '\x7b' :: rest =>
      match depth with
      | 0 => none
      | depth + 1 =>
        match skipBlank rest with
        | '\x7d' :: rest => some (.dict [], rest)
        | rest => (members? digits fuel depth rest).map fun r => (Value.dictOf r.1, r.2)
    | rest => scalar? digits rest
termination_by structural fuel => fuel

/-- Reads the items of an array up to its end. -/
def items? (digits : Nat) :
    (fuel depth : Nat) → List Char → Option (List (Value texts) × List Char)
  | 0, _, _ => none
  | fuel + 1, depth, cs =>
    match value? digits fuel depth cs with
    | none => none
    | some (v, rest) =>
      match skipBlank rest with
      | ',' :: rest => (items? digits fuel depth rest).map fun r => (v :: r.1, r.2)
      | ']' :: rest => some ([v], rest)
      | _ => none
termination_by structural fuel => fuel

/-- Reads the members of an object up to its end. -/
def members? (digits : Nat) :
    (fuel depth : Nat) → List Char → Option (List (Value texts × Value texts) × List Char)
  | 0, _, _ => none
  | fuel + 1, depth, cs =>
    match skipBlank cs with
    | '"' :: rest =>
      match string? rest with
      | none => none
      | some (key, rest) =>
        match skipBlank rest with
        | ':' :: rest =>
          match value? digits fuel depth rest with
          | none => none
          | some (v, rest) =>
            match skipBlank rest with
            | ',' :: rest => (members? digits fuel depth rest).map fun r => ((key, v) :: r.1, r.2)
            | '\x7d' :: rest => some ([(key, v)], rest)
            | _ => none
        | _ => none
    | _ => none
termination_by structural fuel => fuel

end

/-- The value of a whole text whose containers stand no deeper than `depth`, and whose numbers have
no more than `digits` digits in their whole parts. -/
def parseWithin (depth digits : Nat) (text : List Char) : Option (Value texts) :=
  match value? digits (text.length + 1) depth text with
  | some (v, rest) => if (skipBlank rest).isEmpty then some v else none
  | none => none

/-- The value of a whole text. -/
def parse (text : String) : Option Value := parseWithin maxDepth Text.maxDigits text.toList

end FieldQuery.Json
