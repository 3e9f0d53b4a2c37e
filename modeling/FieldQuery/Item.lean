import FieldQuery.Composite
import FieldQuery.Condition

/-!
# Items

What the operations of the library take: a plain value, an artifact, a constraint or a composite.
-/

namespace FieldQuery

inductive Item where
  | value (v : Value)
  | artifact (a : Artifact)
  | constraint (c : Constraint)
  | composite (c : Composite)

namespace Item

/-- The node of an item: artifacts, composites and dicts have one. -/
def node : Item → Except Failure Value
  | artifact a => .ok a.node
  | composite c => .ok c.node
  | value v => v.node
  | constraint c => .error (.notANode c.variant.name)

end Item

end FieldQuery
