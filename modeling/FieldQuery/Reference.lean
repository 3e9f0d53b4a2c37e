import FieldQuery.Value.Basic

/-!
# Lazy references

A reference holds the identity of an entity. Asked for the entity, it asks its loader as long as it
holds none, and keeps the first entity that it is given; without an identity or without a loader it
never asks.
-/

namespace FieldQuery

/-- A reference to an entity of type `α`, whose loader has a state of type `σ`. -/
structure Reference (α σ : Type) where
  id : Value
  held : Option α
  loader : Option σ

namespace Reference

variable {α σ : Type}

/-- Whether the reference has an identity. -/
def isFilled (r : Reference α σ) : Bool :=
  match r.id with
  | .null => false
  | _ => true

/-- Whether the reference holds an entity. -/
def isLoaded (r : Reference α σ) : Bool := r.held.isSome

/-- The reference to an entity at hand. -/
def of (id : Value) (entity : Option α) : Reference α σ := ⟨id, entity, none⟩

/-- The entity, and the reference afterwards; `ask` is a loader's answer and what becomes of it. -/
def get (ask : σ → Value → Option α × σ) (r : Reference α σ) : Option α × Reference α σ :=
  match r.held, r.loader with
  | none, some l =>
    if r.isFilled then
      let (found, l') := ask l r.id
      (found, { r with held := found, loader := some l' })
    else (none, r)
  | held, _ => (held, r)

end Reference

end FieldQuery
