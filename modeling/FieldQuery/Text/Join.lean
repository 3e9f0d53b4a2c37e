/-!
# Joining

Texts put one after the other with a separator between them.
-/

namespace FieldQuery.Text

/-- The texts in order, with `separator` between each two. -/
def joined (separator : List Char) : List (List Char) → List Char
  | [] => []
  | [t] => t
  | t :: t' :: ts => t ++ separator ++ joined separator (t' :: ts)

end FieldQuery.Text
