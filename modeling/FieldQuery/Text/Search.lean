/-!
# Occurrence

Whether a text occurs inside another.
-/

namespace FieldQuery.Text

/-- Whether `needle` occurs in a list of characters or code points. -/
def occursIn {α : Type} [BEq α] (needle : List α) : List α → Bool
  | [] => needle.isEmpty
  | c :: cs => needle.isPrefixOf (c :: cs) || occursIn needle cs

end FieldQuery.Text
