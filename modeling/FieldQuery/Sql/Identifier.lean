import FieldQuery.Failure
import FieldQuery.Text.Join

/-!
# SQL identifiers

A field path is cut at its dots, and every part is put between double quotes, with a quote inside a
part written twice.
-/

namespace FieldQuery.Sql

/-- The parts of a path between its dots; there is always at least one. -/
def pathParts : List Char → List (List Char)
  | [] => [[]]
  | c :: cs =>
    if c = '.' then [] :: pathParts cs
    else
      match pathParts cs with
      | [] => [[c]]
      | p :: ps => (c :: p) :: ps

/-- Writes a character twice wherever it occurs. -/
def doubled (mark : Char) : List Char → List Char
  | [] => []
  | c :: cs => if c = mark then mark :: mark :: doubled mark cs else c :: doubled mark cs

/-- A text between two marks, with every mark inside it written twice. -/
def enclosed (mark : Char) (cs : List Char) : List Char := mark :: doubled mark cs ++ [mark]

/-- The identifier of a field path. -/
def identifierChars (path : List Char) : List Char :=
  Text.joined ['.'] ((pathParts path).map (enclosed '"'))

def identifier (path : String) : String := String.ofList (identifierChars path.toList)

/-- The path of a field; only texts have one. -/
def fieldPath (v : Value) : Except Failure String :=
  match v.text? with
  | some s => .ok s
  | none =>
    match v with
    | .list _ | .tuple _ | .dict _ | .entity _ _ _ _ _ | .reference _ | .record _ _ _ =>
      .error .lacking
    | _ => .error .unfit

end FieldQuery.Sql
