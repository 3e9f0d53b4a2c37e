/-!
# Directives of a message

A message is a text with directives in it, each a percent sign with a letter that says how an
argument is shown. Between the two there may stand a name in parentheses, under which the argument
is looked up, flags, a width, a number of places after a point, and one of the letters `h`, `l` and
`L`, which says nothing. The width and the places may be stars: they are then taken from the
arguments. A percent sign that follows another one stands for itself.
-/

namespace FieldQuery.Logging

/-- How a shown argument is laid out. -/
structure Flags where
  /-- The text stands at the left of its width. -/
  left : Bool
  /-- Numbers that are not negative have a plus sign. -/
  plus : Bool
  /-- Numbers that are not negative have a blank for a sign. -/
  blank : Bool
  /-- Numbers show their base, or keep their point. -/
  alternate : Bool
  /-- Numbers are filled with zeros. -/
  zero : Bool

/-- A width or a number of places: written in the message, or given by an argument. -/
inductive Count where
  | written (n : Nat)
  | given

structure Directive where
  key : Option (List Char)
  flags : Flags
  width : Option Count
  places : Option Count
  /-- The letter; a message may end before it. -/
  letter : Option Char

/-- What a message is made of. -/
inductive Piece where
  | character (c : Char)
  | directive (d : Directive)
  /-- A name whose parenthesis is never closed. -/
  | openKey

/-- Splits a name from the parenthesis that closes it, over parentheses that close each other;
`depth` of them are still open inside the name. -/
def splitKey : (depth : Nat) → List Char → Option (List Char × List Char)
  | _, [] => none
  | 0, ')' :: cs => some ([], cs)
  | depth, c :: cs =>
    let inner := if c = '(' then depth + 1 else if c = ')' then depth - 1 else depth
    (splitKey inner cs).map fun r => (c :: r.1, r.2)

def isFlag (c : Char) : Bool := ['-', '+', ' ', '#', '0'].contains c

def Flags.ofChars (cs : List Char) : Flags where
  left := cs.contains '-'
  plus := cs.contains '+'
  blank := cs.contains ' '
  alternate := cs.contains '#'
  zero := cs.contains '0'

/-- The number that decimal digits stand for; none of them stand for zero. -/
def countOf (ds : List Char) : Nat := ds.foldl (fun n d => 10 * n + (d.toNat - '0'.toNat)) 0

/-- A star or digits in front of a text. -/
def splitCount : List Char → Option Count × List Char
  | '*' :: cs => (some .given, cs)
  | cs =>
    match cs.takeWhile Char.isDigit with
    | [] => (none, cs)
    | ds => (some (.written (countOf ds)), cs.dropWhile Char.isDigit)

/-- A point with a star, with digits, or with nothing, which stands for zero places. -/
def splitPlaces : List Char → Option Count × List Char
  | '.' :: cs =>
    let (places, rest) := splitCount cs
    (some (places.getD (.written 0)), rest)
  | cs => (none, cs)

/-- The text after one letter that says nothing. -/
def afterSize : List Char → List Char
  | c :: cs => if c = 'h' ∨ c = 'l' ∨ c = 'L' then cs else c :: cs
  | [] => []

/-- Reads what follows the name of a directive. -/
def splitDirective (key : Option (List Char)) (cs : List Char) : Piece × List Char :=
  let (width, rest) := splitCount (cs.dropWhile isFlag)
  let (places, rest) := splitPlaces rest
  let rest := afterSize rest
  let directive : Directive :=
    ⟨key, Flags.ofChars (cs.takeWhile isFlag), width, places, rest.head?⟩
  (.directive directive, rest.tail)

/-- Reads what follows a percent sign. -/
def splitPiece : List Char → Piece × List Char
  | '%' :: cs => (.character '%', cs)
  | '(' :: cs =>
    match splitKey 0 cs with
    | some (key, rest) => splitDirective (some key) rest
    | none => (.openKey, [])
  | cs => splitDirective none cs

/-- The pieces of a message; `fuel` bounds their number. -/
def pieces : (fuel : Nat) → List Char → List Piece
  | 0, _ | _, [] => []
  | fuel + 1, c :: cs =>
    if c = '%' then
      let (piece, rest) := splitPiece cs
      piece :: pieces fuel rest
    else .character c :: pieces fuel cs

/-- The pieces of a whole message. Every piece takes a character, so its length bounds them. -/
def piecesOf (message : String) : List Piece :=
  pieces message.toList.length message.toList

end FieldQuery.Logging
