import FieldQuery.Text.Quoted

/-!
# Members of declared families

A family is a closed set of named values. A plain member is nothing but its name and its code; a
text member also acts as its text, a numeric member also as its number, and a flag member is a union
of named bits.
-/

namespace FieldQuery

inductive Member where
  | plain (family name : String) (code : Int)
  | text (family name content : String)
  | number (family name : String) (n : Int)
  | flags (family : String) (parts : List (String × Nat))
deriving DecidableEq

namespace Member

def family : Member → String
  | plain family _ _ | text family _ _ | number family _ _ | flags family _ => family

/-- The name; a union is named by its parts, and the empty union has no name. -/
def name? : Member → Option String
  | plain _ name _ | text _ name _ | number _ name _ => some name
  | flags _ [] => none
  | flags _ parts => some ("|".intercalate (parts.map (·.1)))

/-- The sum of the bits of a union. -/
def mask (parts : List (String × Nat)) : Nat := parts.foldr (fun p rest => p.2 + rest) 0

/-- The text of what a member stands for. -/
def content : Member → String
  | plain _ _ code => String.ofList (Text.signed code)
  | text _ _ content => content
  | number _ _ n => String.ofList (Text.signed n)
  | flags _ parts => toString (mask parts)

/-- The form that shows family, name and content. -/
def inspect (m : Member) : String :=
  let content := match m with
    | text _ _ content => Text.quoted content
    | m => m.content
  match m.name? with
  | some name => "<" ++ m.family ++ "." ++ name ++ ": " ++ content ++ ">"
  | none => "<" ++ m.family ++ ": " ++ content ++ ">"

/-- The plain text of a member: a numeric member shows its number, any other its family and name. -/
def display (m : Member) : String :=
  match m with
  | number _ _ n => String.ofList (Text.signed n)
  | _ =>
    match m.name? with
    | some name => m.family ++ "." ++ name
    | none => m.family ++ "(0)"

end Member

end FieldQuery
