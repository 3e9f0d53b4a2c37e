import FieldQuery.Failure
import FieldQuery.Sorting
import FieldQuery.Text.Join
import FieldQuery.Value.Equality

/-!
# Writing JSON

A value as JSON text in pure ASCII, with a blank after every comma and colon and with the keys of
every object in order: by code point if they are texts, by size if they are numbers. Values that
JSON does not have are written as the texts that they show. A whole number of too many digits is
refused.

Texts may have surrogates. Each is written as the code unit that it is, so a high one in front of a
low one is written like the character that the two make in texts of 16-bit code units.

Two limits are left out: how deep containers may stand inside each other, which hangs on the room
that is left for recursion, and the digits of numbers inside the texts that other values show.
-/

namespace FieldQuery.Json

variable {texts : Texts}

/-- A code unit as an escape. -/
def unitEscape (n : Nat) : List Char := '\\' :: 'u' :: Text.paddedHex 4 n

/-- One character of a string: those from the space to the tilde show, except for the quote and the
backslash; a character beyond the sixteenth bit is written as a pair of code units. -/
def escaped (c : Char) : List Char :=
  if c = '"' then ['\\', '"']
  else if c = '\\' then ['\\', '\\']
  else if c = '\n' then ['\\', 'n']
  else if c = '\r' then ['\\', 'r']
  else if c = '\t' then ['\\', 't']
  else if c = '\x0c' then ['\\', 'f']
  else if c = '\x08' then ['\\', 'b']
  else if 0x20 ≤ c.toNat ∧ c.toNat ≤ 0x7E then [c]
  else if c.toNat < 0x10000 then unitEscape c.toNat
  else
    let n := c.toNat - 0x10000
    unitEscape (0xD800 + n / 0x400) ++ unitEscape (0xDC00 + n % 0x400)

/-- One code point of a string. -/
def escapedPoint : CodePoint → List Char
  | .scalar c => escaped c
  | .surrogate n => unitEscape (0xD800 + n)

def stringChars (ps : List CodePoint) : List Char := '"' :: ps.flatMap escapedPoint ++ ['"']

/-- A whole number, unless it has too many digits. -/
def wholeChars (n : Int) : Except (Failure texts) (List Char) :=
  if Nat.pow 10 Text.maxDigits ≤ n.natAbs then .error .refused else .ok (Text.signed n)

/-- The word for a binary number. -/
def floatChars (x : Binary64) : List Char :=
  if x.isNaN then "NaN".toList
  else if x.isInfinite then (if x.negative then "-Infinity" else "Infinity").toList
  else x.chars

/-- The word for a truth value. -/
def boolChars (b : Bool) : List Char := if b then "true".toList else "false".toList

/-- The text of a value that serves as a key. -/
def keyPoints : Value texts → Except (Failure texts) (List CodePoint)
  | .str s | .member (.text _ _ s) => .ok (Text.points s)
  | .surrogates _ t => .ok t.points
  | .int n | .member (.number _ _ n) => (wholeChars n).map (·.map .scalar)
  | .float x => .ok ((floatChars x).map .scalar)
  | .bool b => .ok ((boolChars b).map .scalar)
  | .null => .ok (Text.points "null")
  | _ => .error .unfit

/-- How keys are put in order: all texts, or all numbers. -/
inductive KeyOrder where
  | texts
  | numbers

/-- Whether a key is a decimal that is no number. -/
def isNoDecimal : Value texts → Bool
  | .decimal (.nan _) => true
  | _ => false

/-- The order of the keys of an object. A single key needs none. -/
def keyOrder (keys : List (Value texts)) : Except (Failure texts) KeyOrder :=
  if keys.all fun k => k.points?.isSome then .ok .texts
  else if keys.length ≤ 1 then .ok .numbers
  else if keys.all fun k => k.quantity?.isSome then
    if keys.any isNoDecimal then .error .signaling else .ok .numbers
  else .error .unfit

/-- Whether a key may stand at or before another. -/
def KeyOrder.le : KeyOrder → Value texts → Value texts → Bool
  | .texts, a, b => Text.atOrBefore (a.points?.getD []) (b.points?.getD [])
  | .numbers, a, b =>
    match a.quantity?, b.quantity? with
    | some p, some q => !q.lt p
    | _, _ => true

/-- Members in the order of their keys. -/
def KeyOrder.sorted {α : Type} (order : KeyOrder) (members : List (Value texts × α)) :
    List (Value texts × α) :=
  sortBy (fun a b => order.le a.1 b.1) members

mutual

/-- The JSON text of a value. -/
def chars : Value texts → Except (Failure texts) (List Char)
  | .null => .ok "null".toList
  | .bool b => .ok (boolChars b)
  | .int n => wholeChars n
  | .member (.number _ _ n) => wholeChars n
  | .float x => .ok (floatChars x)
  | .str s => .ok (stringChars (Text.points s))
  | .surrogates _ t => .ok (stringChars t.points)
  | .member (.text _ _ s) => .ok (stringChars (Text.points s))
  | .list xs => (charsAll xs).map fun ts => '[' :: Text.joined ", ".toList ts ++ [']']
  | .tuple xs => (charsAll xs).map fun ts => '[' :: Text.joined ", ".toList ts ++ [']']
  | .dict entries =>
    match keyOrder (entries.map (·.1)) with
    | .error e => .error e
    | .ok order =>
      (members entries).map fun ms =>
        '\x7b' :: Text.joined ", ".toList ((order.sorted ms).map (·.2)) ++ ['\x7d']
  | v => .ok (stringChars (Text.points v.shown))
termination_by structural v => v

def charsAll : List (Value texts) → Except (Failure texts) (List (List Char))
  | [] => .ok []
  | x :: xs =>
    match chars x with
    | .error e => .error e
    | .ok t => (charsAll xs).map (t :: ·)
termination_by structural xs => xs

/-- Every member's text beside its key. -/
def members : List (Value texts × Value texts) →
    Except (Failure texts) (List (Value texts × List Char))
  | [] => .ok []
  | (k, v) :: entries =>
    match keyPoints k with
    | .error e => .error e
    | .ok name =>
      match chars v with
      | .error e => .error e
      | .ok t =>
        (members entries).map fun ms => (k, stringChars name ++ ": ".toList ++ t) :: ms
termination_by structural entries => entries

end

/-- The JSON text of a value. -/
def write (v : Value texts) : Except (Failure texts) String := (chars v).map String.ofList

end FieldQuery.Json
