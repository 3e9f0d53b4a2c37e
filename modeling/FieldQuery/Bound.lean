import FieldQuery.Value.Member

/-!
# Bounds

The four one-sided comparisons of a range. A strict bound can be widened to include its end.
-/

namespace FieldQuery

inductive Bound where
  | lt | lte | gt | gte
deriving DecidableEq

namespace Bound

def all : List Bound := [lt, lte, gt, gte]

/-- The word for a bound in data. -/
def text : Bound → String
  | lt => "lt"
  | lte => "lte"
  | gt => "gt"
  | gte => "gte"

def name : Bound → String
  | lt => "LT"
  | lte => "LTE"
  | gt => "GT"
  | gte => "GTE"

/-- The word for a bound in descriptions. -/
def label : Bound → String
  | lt => "LT"
  | lte => "LT_EQ"
  | gt => "GT"
  | gte => "GT_EQ"

def isInclusive : Bound → Bool
  | lte | gte => true
  | lt | gt => false

/-- The bound in the same direction that includes its end. -/
def widened : Bound → Bound
  | lt | lte => lte
  | gt | gte => gte

/-- The member that stands for a bound as a value. -/
def member (b : Bound) : Member := .text "Bound" b.name b.text

/-- The bound of a word. -/
def ofText? (s : String) : Option Bound := all.find? fun b => b.text == s

end Bound

end FieldQuery
