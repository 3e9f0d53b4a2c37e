import FieldQuery.Text.Quoted

/-!
# Texts as sequences of code points

A text is a sequence of code points. As a rule each of them is a character, a Unicode scalar value,
and the text is held as a `String`, which can hold nothing else. The code points from `0xD800` to
`0xDFFF` are no characters: they are the surrogates, whose pairs stand for characters in texts of
16-bit code units. A text that holds some of them, alone or in whatever order, is no Unicode text
and is held as the list of its code points (`SurrogateText`), so no text has two forms.

What is modelled of such texts is what happens to them in nodes, in the Elasticsearch queries these
compile to, and in JSON. Everything else is about Unicode texts: names, settings, clauses and log
messages are strings, and so are the texts in the values of constraints and artifacts.
-/

namespace FieldQuery

/-- The texts that values may hold: Unicode texts only, or all sequences of code points. -/
inductive Texts where
  | unicode
  | codePoints
deriving DecidableEq

/-- A character, or a surrogate by its place from `0xD800` on. -/
inductive CodePoint where
  | scalar (c : Char)
  | surrogate (n : Fin 0x800)
deriving DecidableEq

namespace CodePoint

def number : CodePoint → Nat
  | scalar c => c.toNat
  | surrogate n => 0xD800 + n

def isSurrogate : CodePoint → Bool
  | scalar _ => false
  | surrogate _ => true

/-- The character of a code point, if it is one. -/
def char? : CodePoint → Option Char
  | scalar c => some c
  | surrogate _ => none

/-- The code point that a 16-bit code unit is by itself. -/
def ofUnit (n : Nat) : CodePoint :=
  if h : 0xD800 ≤ n ∧ n < 0xE000 then surrogate ⟨n - 0xD800, by omega⟩ else scalar (Char.ofNat n)

/-- Whether a code point is one of the surrogates that stand first in a pair. -/
def isHigh : CodePoint → Bool
  | scalar _ => false
  | surrogate n => n.val < 0x400

/-- Whether a code point is one of the surrogates that stand second in a pair. -/
def isLow : CodePoint → Bool
  | scalar _ => false
  | surrogate n => 0x400 ≤ n.val

/-- The character that two code points make as code units, if they are a pair. -/
def pair? : CodePoint → CodePoint → Option Char
  | surrogate high, surrogate low =>
    if high.val < 0x400 ∧ 0x400 ≤ low.val then
      some (Char.ofNat (0x10000 + high * 0x400 + (low - 0x400)))
    else none
  | _, _ => none

/-- One code point of a quoted text: surrogates never show. -/
def quoted (quote : Char) : CodePoint → List Char
  | scalar c => Text.escaped quote c
  | surrogate n => '\\' :: 'u' :: Text.paddedHex 4 (0xD800 + n)

end CodePoint

/-- A text with surrogates. -/
structure SurrogateText where
  points : List CodePoint
  surrogates : points.any CodePoint.isSurrogate = true
deriving DecidableEq

namespace SurrogateText

/-- The quoted form of a text. -/
def quoted (t : SurrogateText) : String :=
  let q := Text.quoteFor (t.points.filterMap CodePoint.char?)
  String.ofList (q :: t.points.flatMap (CodePoint.quoted q) ++ [q])

end SurrogateText

namespace Text

/-- The code points of a Unicode text. -/
def points (s : String) : List CodePoint := s.toList.map .scalar

/-- Whether a text stands at or before another in the order of code points. -/
def atOrBefore : List CodePoint → List CodePoint → Bool
  | [], _ => true
  | _ :: _, [] => false
  | p :: ps, q :: qs => p.number < q.number || (p.number == q.number && atOrBefore ps qs)

/-- Code units with the pairs among them joined, from the front. -/
def joinPairs : List CodePoint → List CodePoint
  | p :: q :: ps =>
    match p.pair? q with
    | some c => .scalar c :: joinPairs ps
    | none => p :: joinPairs (q :: ps)
  | ps => ps

end Text

end FieldQuery
