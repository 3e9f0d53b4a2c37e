import FieldQuery.Item
import FieldQuery.Value.Clash
import FieldQuery.Value.HashKey

/-!
# Telling things apart

Equality and hashing of constraints, artifacts, references and plain values. Constraints are hashed
by kind and full description, artifacts by kind and the text of their node, references by their
identity. A set keeps one of several things that are equal and have equal keys.
-/

namespace FieldQuery

namespace Constraint

/-- The key of a constraint: its full description, which any value has. -/
def hashKey (c : Constraint) : HashKey := .described c.variant.name c.describe

end Constraint

namespace Artifact

/-- The key of an artifact: the text of its node. -/
def hashKey (a : Artifact) : HashKey := .described a.kindName a.text

end Artifact

namespace Item

/-- The key of the item at a place. A composite is told from others by its place alone. -/
def hashKey (place : Nat) : Item → Except Failure HashKey
  | value v => v.hashKey
  | artifact a => .ok a.hashKey
  | constraint c => .ok c.hashKey
  | composite c => .ok (.plain (.bundle c.text "" c.size place))

/-- Equality of two separately made things. Composites are equal only to themselves. -/
def same : Item → Item → Bool
  | value v, value w => v.same w
  | artifact a, artifact b => a.same b
  | constraint c, constraint d => c.same d
  | _, _ => false

/-- Whether two things cannot be compared. -/
def clashes : Item → Item → Bool
  | value v, value w => v.clashes w
  | artifact a, artifact b => a.asValue.clashes b.asValue
  | constraint c, constraint d => c.asValue.clashes d.asValue
  | _, _ => false

end Item

/-- What a comparison of items with each other finds. -/
structure Comparisons where
  /-- The pairs of places that hold equal items. -/
  equal : List (Nat × Nat)
  /-- The pairs of places whose items have equal keys. -/
  hashEqual : List (Nat × Nat)
  /-- The size of the set of all items. -/
  distinct : Nat

namespace Comparisons

/-- All pairs of a list's members with their places, the earlier first. -/
def pairs {α : Type} : (place : Nat) → List α → List ((Nat × α) × (Nat × α))
  | _, [] => []
  | i, x :: xs =>
    (xs.zipIdx (i + 1)).map (fun y => ((i, x), (y.2, y.1))) ++ pairs (i + 1) xs

/-- The members of a set, built by adding one after the other. -/
def insertAll (members : List (Item × HashKey)) :
    List (Item × HashKey) → List (Item × HashKey)
  | [] => members
  | x :: xs =>
    if members.any fun m => m.2.same x.2 && m.1.same x.1 then insertAll members xs
    else insertAll (members ++ [x]) xs

/-- Compares every item with every later one, if all can be compared and all have keys. -/
def ofItems (items : List Item) : Except Failure Comparisons :=
  if (pairs 0 items).any fun p => p.1.2.clashes p.2.2 then .error .signaling
  else
    match items.zipIdx.mapM fun x => x.1.hashKey x.2 with
    | .error e => .error e
    | .ok keys =>
      let keyed := items.zip keys
      let found := pairs 0 keyed
      .ok {
        equal := (found.filter fun p => p.1.2.1.same p.2.2.1).map fun p => (p.1.1, p.2.1)
        hashEqual := (found.filter fun p => p.1.2.2.same p.2.2.2).map fun p => (p.1.1, p.2.1)
        distinct := (insertAll [] keyed).length }

end Comparisons

end FieldQuery
