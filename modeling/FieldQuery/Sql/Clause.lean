import FieldQuery.Condition
import FieldQuery.Sql.Literal

/-!
# SQL clauses

The text of a condition. Only a disjunction stands in parentheses; conjunctions and the tests of
several fields are joined without any, since AND binds closer than OR.
-/

namespace FieldQuery.Sql

/-- The operators that are written as comparisons, in the order of their texts. -/
def comparisons : List (String × Operator) :=
  [("$eq", .eq), ("$gt", .bound .gt), ("$gte", .bound .gte), ("$lt", .bound .lt),
   ("$lte", .bound .lte)]

/-- The operator of a text: existence is tested for, all others are comparisons. -/
def operatorOfText? (s : String) : Option Operator :=
  if s = "$exists" then some .exist else comparisons.lookup s

theorem operatorOfText?_eq (s : String) : operatorOfText? s = Operator.ofText? s := by
  by_cases h : s ∈ "$exists" :: comparisons.map Prod.fst
  · have hall : ∀ s ∈ "$exists" :: comparisons.map Prod.fst,
        operatorOfText? s = Operator.ofText? s := by decide
    exact hall s h
  · have hnone : Operator.ofText? s = none := Operator.ofText?_eq_none (by decide) h
    rw [List.mem_cons, not_or] at h
    have hlookup : comparisons.lookup s = none := by
      rw [List.lookup_eq_none_iff]
      intro p hp
      rw [bne_iff_ne]
      rintro rfl
      exact h.2 (List.mem_map_of_mem hp)
    rw [hnone, operatorOfText?, if_neg h.1, hlookup]

/-- Only texts are taken for fields. Messages list the comparisons alone. -/
def dialect : Dialect String where
  field := fieldPath
  operator? key := key.text?.bind operatorOfText?
  supported := comparisons.map Prod.fst
  agrees key := by rw [Operator.ofKey?, funext operatorOfText?_eq]

/-- The sign of a bound. -/
def sign : Bound → List Char
  | .lt => "<".toList
  | .lte => "<=".toList
  | .gt => ">".toList
  | .gte => ">=".toList

/-- The text of one test. -/
def testChars (field : String) (t : Test) : List Char :=
  identifierChars field.toList ++ ' ' ::
    match t.operator with
    | .eq => "= ".toList ++ formatChars t.operand
    | .bound b => sign b ++ ' ' :: formatChars t.operand
    | .exist => if t.operand.truthy then "IS NOT NULL".toList else "IS NULL".toList

/-- The texts of all tests of all fields, in order. -/
def testsChars (entries : List (String × List Test)) : List (List Char) :=
  entries.flatMap fun e => e.2.map (testChars e.1)

mutual

/-- The text of a condition. -/
def chars : Condition String → List Char
  | .always => "TRUE".toList
  | .all branches => Text.joined " AND ".toList (charsAll branches)
  | .any branches => '(' :: Text.joined " OR ".toList (charsAll branches) ++ [')']
  | .fields entries => Text.joined " AND ".toList (testsChars entries)
termination_by structural c => c

def charsAll : List (Condition String) → List (List Char)
  | [] => []
  | c :: cs => chars c :: charsAll cs
termination_by structural cs => cs

end

/-- The clause of a condition. -/
def render (c : Condition String) : String := String.ofList (chars c)

/-- The clause of a node. -/
def compile (node : Value) : Except Failure String := (Condition.read dialect node).map render

end FieldQuery.Sql
