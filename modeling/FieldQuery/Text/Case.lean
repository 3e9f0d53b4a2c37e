import FieldQuery.Text.CaseTables

/-!
# Letter case

The lower case of a text, with its two context rules: the capital I with a dot becomes two
characters, and a capital sigma at the end of a word becomes the final small sigma.
-/

namespace FieldQuery.Text

/-- Whether `n` lies in one of the closed ranges, which stand in increasing order. -/
def inRanges : List (Nat × Nat) → Nat → Bool
  | [], _ => false
  | (first, last) :: ranges, n => first ≤ n && (n ≤ last || inRanges ranges n)

def isCased (c : Char) : Bool := inRanges casedRanges c.toNat

def isCaseIgnorable (c : Char) : Bool := inRanges caseIgnorableRanges c.toNat

namespace CaseRun

/-- Whether `n` is one of the capitals of the run. -/
def covers (r : CaseRun) (n : Nat) : Bool :=
  r.first ≤ n && n ≤ r.last && (n - r.first) % r.step == 0

/-- The run that a character belongs to; the runs stand in increasing order. -/
def find? : List CaseRun → Nat → Option CaseRun
  | [], _ => none
  | r :: rs, n => if n < r.first then none else if r.covers n then some r else find? rs n

end CaseRun

/-- The lower-case partner of one character, or the character itself. -/
def lowerChar (c : Char) : Char :=
  match CaseRun.find? caseRuns c.toNat with
  | some r => Char.ofNat (c.toNat + r.shift).toNat
  | none => c

/-- Whether the next character that is not skipped is a cased one. -/
def casedNext (cs : List Char) : Bool :=
  match cs.dropWhile isCaseIgnorable with
  | [] => false
  | c :: _ => isCased c

/-- The lower case of a text whose earlier characters are `before`, the nearest first. -/
def lowerAfter : (before : List Char) → List Char → List Char
  | _, [] => []
  | before, c :: cs =>
    (if c = 'Σ' then
      if casedNext before && !casedNext cs then ['ς'] else ['σ']
    else if c = 'İ' then ['i', '\u0307']
    else [lowerChar c]) ++ lowerAfter (c :: before) cs

/-- The lower case of a text. -/
def lower (s : String) : String := String.ofList (lowerAfter [] s.toList)

end FieldQuery.Text
