import FieldQuery.Constraint.Call
import FieldQuery.Constraint.Check
import FieldQuery.Reference
import FieldQuery.Value.HashKey

/-!
# References load until they find something

What is modelled. Nothing is assumed of a loader: whenever it is asked, it may answer with an entity
or with nothing. It keeps a record of what it was asked and what it answered, and is seen through
it: the loader of a `Recorded` reference is its record. A reference is asked for its entity, and in
between it is normalized, put into constraints, compared and hashed (`Reference.Use`).

What is proved. What one use does to a reference hangs on one question, whether it would ask its
loader now (`Reference.asks`). By induction on the uses:
* `after_of_not_asks`: a reference that does not ask stays as it is.
* `after_of_asks`: one that does has asked for its own identity, once for each request up to the
  first answer that is an entity.
* `after_parts`: what that makes of its identity, its record and what it holds.

The identity stays the same here; references whose identity is set are treated on their own, and so
is what a session does with a reference.
-/

namespace FieldQuery

namespace Reference

variable {α σ : Type}

/-! ## One request -/

/-- Whether a request asks the loader: there is one, there is an identity to ask for, and nothing is
held. -/
def asks (r : Reference α σ) : Bool := !r.isLoaded && (r.isFilled && r.loader.isSome)

theorem asks_of (id : Value) (entity : Option α) : (of id entity : Reference α σ).asks = false := by
  simp [asks, of]

theorem asks_of_isLoaded {r : Reference α σ} (h : r.isLoaded = true) : r.asks = false := by
  rw [asks, h]
  rfl

theorem asks_inv {r : Reference α σ} (h : r.asks = true) :
    r.held = none ∧ r.isFilled = true ∧ ∃ l, r.loader = some l := by
  simp only [asks, isLoaded, Bool.and_eq_true, Bool.not_eq_true', Option.isSome_eq_false_iff,
    Option.isNone_iff_eq_none, Option.isSome_iff_exists] at h
  exact h

theorem get_of_asks {r : Reference α σ} {l : σ} (h : r.asks = true) (hl : r.loader = some l)
    (ask : σ → Value → Option α × σ) :
    r.get ask = ((ask l r.id).1, ⟨r.id, (ask l r.id).1, some (ask l r.id).2⟩) := by
  obtain ⟨hheld, hfilled, -⟩ := asks_inv h
  rw [get, hheld, hl]
  exact if_pos hfilled

theorem get_of_not_asks {r : Reference α σ} (h : r.asks = false)
    (ask : σ → Value → Option α × σ) : r.get ask = (r.held, r) := by
  unfold get
  split
  · next l hheld hl =>
    have hfilled : r.isFilled = false := by
      rw [asks, isLoaded, hheld, hl] at h
      simpa using h
    rw [hheld, hfilled]
    rfl
  · rfl

/-- What a request answers is held from then on. -/
theorem get_held (r : Reference α σ) (ask : σ → Value → Option α × σ) :
    (r.get ask).1 = (r.get ask).2.held := by
  cases h : r.asks with
  | false => rw [get_of_not_asks h]
  | true =>
    obtain ⟨-, -, l, hl⟩ := asks_inv h
    rw [get_of_asks h hl]

/-! ## Uses -/

/-- What a loader was asked for, and what it answered. -/
structure Question (α : Type) where
  id : Value
  answer : Option α

/-- A reference whose loader is seen through its record. -/
abbrev Recorded (α : Type) := Reference α (List (Question α))

/-- What the loader of a reference was asked; without a loader that is nothing. -/
def asked (r : Recorded α) : List (Question α) := r.loader.getD []

/-- A loader that at this time answers as `answers` says. -/
def recording (answers : Value → Option α) (record : List (Question α)) (id : Value) :
    Option α × List (Question α) :=
  (answers id, record ++ [⟨id, answers id⟩])

/-- The reference as it is handed to normalization, to constraints and to comparisons. -/
def asValue (r : Reference α σ) : Value := .reference r.id

/-- What is done with a reference. -/
inductive Use (α : Type) where
  /-- It is asked for its entity, when its loader would answer so. -/
  | get (answers : Value → Option α)
  | normalize (s : Settings)
  /-- A constraint on it is built, and attributes of that are called. -/
  | build (s : Settings) (factory : Factory) (field : Value) (calls : List String)
  /-- It is compared with a value, which may be another reference. -/
  | compare (v : Value)
  | hash

/-- What comes of a use. -/
inductive Outcome (α : Type) where
  | got (found : Option α)
  | normalized (v : Except Failure Value)
  | built (c : Except Failure Constraint)
  | compared (equal : Bool)
  | hashed (key : Except Failure HashKey)

/-- One use. -/
def use (r : Recorded α) : Use α → Outcome α × Recorded α
  | .get answers => (r.get (recording answers)).map .got fun r => r
  | .normalize s => (.normalized (r.asValue.normalize s), r)
  | .build s factory field calls =>
    (.built ((factory.make s field r.asValue).bind (calls.foldlM Constraint.call)), r)
  | .compare v => (.compared (r.asValue.same v), r)
  | .hash => (.hashed r.asValue.hashKey, r)

/-- The reference after some uses. -/
def after (r : Recorded α) (uses : List (Use α)) : Recorded α :=
  uses.foldl (fun r u => (r.use u).2) r

/-- What the loader would answer to a use that is a request for the entity with an identity. -/
def Use.offer? (id : Value) : Use α → Option (Option α)
  | .get answers => some (answers id)
  | _ => none

theorem Use.offer?_inv {id : Value} {u : Use α} {answer : Option α}
    (h : u.offer? id = some answer) : ∃ answers, u = .get answers ∧ answers id = answer := by
  cases u with
  | get answers => exact ⟨answers, rfl, Option.some.inj h⟩
  | _ => cases h

/-- What the loader would answer to the requests among some uses. -/
def offers (id : Value) (uses : List (Use α)) : List (Option α) := uses.filterMap (Use.offer? id)

/-- Answers up to the first one that is an entity. -/
def untilFound : List (Option α) → List (Option α)
  | [] => []
  | none :: answers => none :: untilFound answers
  | some a :: _ => [some a]

/-! ## One use -/

theorem use_of_not_asks {r : Recorded α} (h : r.asks = false) (u : Use α) : (r.use u).2 = r := by
  cases u with
  | get answers => rw [use, get_of_not_asks h]; rfl
  | _ => rfl

/-- Only a request does anything to a reference. -/
theorem use_of_not_get (r : Recorded α) {u : Use α} (h : u.offer? r.id = none) :
    (r.use u).2 = r := by
  cases u with
  | get answers => cases h
  | _ => rfl

theorem use_get_of_asks {r : Recorded α} {record : List (Question α)} (h : r.asks = true)
    (hl : r.loader = some record) (answers : Value → Option α) :
    (r.use (.get answers)).2 = ⟨r.id, answers r.id, some (record ++ [⟨r.id, answers r.id⟩])⟩ := by
  rw [use, get_of_asks h hl]
  rfl

theorem use_get (r : Recorded α) (answers : Value → Option α) :
    (r.use (.get answers)).1 = .got (r.use (.get answers)).2.held :=
  congrArg Outcome.got (r.get_held (recording answers))

/-! ## Runs -/

theorem after_cons (r : Recorded α) (u : Use α) (uses : List (Use α)) :
    r.after (u :: uses) = (r.use u).2.after uses := rfl

theorem after_append (r : Recorded α) (uses later : List (Use α)) :
    r.after (uses ++ later) = (r.after uses).after later := List.foldl_append

theorem after_of_not_asks {r : Recorded α} (h : r.asks = false) (uses : List (Use α)) :
    r.after uses = r := by
  induction uses with
  | nil => rfl
  | cons u uses ih => rw [after_cons, use_of_not_asks h, ih]

theorem after_of_asks {r : Recorded α} {record : List (Question α)} (h : r.asks = true)
    (hl : r.loader = some record) (uses : List (Use α)) :
    r.after uses = ⟨r.id, (offers r.id uses).findSome? (·),
      some (record ++ (untilFound (offers r.id uses)).map (Question.mk r.id))⟩ := by
  induction uses generalizing r record with
  | nil =>
    obtain ⟨rid, held, loader⟩ := r
    obtain rfl : held = none := (asks_inv h).1
    obtain rfl : loader = some record := hl
    simp [after, offers, untilFound]
  | cons u uses ih =>
    rw [after_cons]
    cases hoffer : u.offer? r.id with
    | none =>
      have hoffers : offers r.id (u :: uses) = offers r.id uses := List.filterMap_cons_none hoffer
      rw [use_of_not_get r hoffer, hoffers, ih h hl]
    | some answer =>
      have hoffers : offers r.id (u :: uses) = answer :: offers r.id uses :=
        List.filterMap_cons_some hoffer
      obtain ⟨answers, rfl, rfl⟩ := Use.offer?_inv hoffer
      rw [use_get_of_asks h hl, hoffers]
      cases answers r.id with
      | none =>
        -- Nothing was found, so the reference asks as before.
        have hasks : asks (⟨r.id, none, some (record ++ [⟨r.id, none⟩])⟩ : Recorded α) = true := by
          have hfilled := (asks_inv h).2.1
          simpa [asks, isLoaded, isFilled] using hfilled
        rw [ih hasks rfl]
        simp [untilFound]
      | some a =>
        rw [after_of_not_asks (asks_of_isLoaded rfl)]
        simp [untilFound]

/-- A reference to an entity at hand never asks. -/
theorem after_of (id : Value) (entity : Option α) (uses : List (Use α)) :
    (of id entity).after uses = of id entity :=
  after_of_not_asks (asks_of id entity) uses

theorem after_parts (r : Recorded α) (uses : List (Use α)) :
    (r.after uses).id = r.id ∧
      (r.after uses).asked = r.asked ++
        (if r.asks then (untilFound (offers r.id uses)).map (Question.mk r.id) else []) ∧
      (r.after uses).held = if r.asks then (offers r.id uses).findSome? (·) else r.held := by
  cases h : r.asks with
  | false =>
    rw [after_of_not_asks h]
    exact ⟨rfl, (List.append_nil _).symm, rfl⟩
  | true =>
    obtain ⟨-, -, record, hl⟩ := asks_inv h
    rw [after_of_asks h hl, asked, asked, hl]
    exact ⟨rfl, rfl, rfl⟩

end Reference

end FieldQuery
