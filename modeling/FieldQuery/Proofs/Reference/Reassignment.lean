import FieldQuery.Entity
import FieldQuery.Normalize
import FieldQuery.Proofs.Reference.Loading
import FieldQuery.Session.Thing

/-!
# References whose identity changes

What is modelled. The identity of a reference can be set, and what it holds stays held. The loader
is a function of the identity here, and of the entity that it finds the identity can be told.

What is proved. A reference goes on with the entity that it found first, whatever identity it has
been given since, while normalization and comparisons go by the new one. Everything hangs on one
identity, the one that the first successful request was made under (`Reference.firstFound`).
* `changed_of_nothing`: what a run of requests and assignments makes of a reference that holds
  nothing.
* `get_changed`: requests are answered for the present identity exactly as long as it is that one,
  and only then does normalization give the identity of the entity that is held.
* `reassigned_answers_first`: two identities are enough to see it.

Setting the other attributes of a reference, the entity that it holds among them, is left out.
-/

namespace FieldQuery

namespace Reference

variable {α σ : Type}

/-! ## Changes -/

def setId (r : Reference α σ) (id : Value) : Reference α σ := { r with id := id }

/-- Setting the identity of a reference of a session does the same. -/
theorem assign_id (r : Session.TrackedReference) (id : Value) :
    r.assign "id" id = .ok { r with reference := r.reference.setId id } := rfl

/-- A loader that always answers as a function of the identity. -/
def lookUp (f : Value → Option α) (l : σ) (id : Value) : Option α × σ := (f id, l)

inductive Change where
  /-- The reference is asked for its entity. -/
  | get
  | assign (id : Value)

def change (f : Value → Option α) (r : Reference α Unit) : Change → Reference α Unit
  | .get => (r.get (lookUp f)).2
  | .assign id => r.setId id

/-- The reference after some changes. -/
def changed (f : Value → Option α) (r : Reference α Unit) (cs : List Change) : Reference α Unit :=
  cs.foldl (change f) r

/-- The identity after some changes. -/
def lastId (id : Value) : List Change → Value
  | [] => id
  | .get :: cs => lastId id cs
  | .assign id' :: cs => lastId id' cs

/-- What there is to be found under an identity; without one that is nothing. -/
def find? (f : Value → Option α) : Value → Option α
  | .null => none
  | id => f id

/-- The identity under which the first request was made that found an entity. -/
def firstFound (f : Value → Option α) (id : Value) : List Change → Option Value
  | [] => none
  | .get :: cs => if (find? f id).isSome then some id else firstFound f id cs
  | .assign id' :: cs => firstFound f id' cs

/-! ## What a request finds -/

theorem find?_of_isFilled {r : Reference α σ} (h : r.isFilled = true) (f : Value → Option α) :
    find? f r.id = f r.id := by
  unfold find?
  split
  · next hid =>
    rw [isFilled, hid] at h
    cases h
  · rfl

theorem find?_of_not_isFilled {r : Reference α σ} (h : r.isFilled = false) (f : Value → Option α) :
    find? f r.id = none := by
  unfold isFilled at h
  split at h
  · next hid => rw [hid, find?]
  · cases h

theorem get_of_held_none {r : Reference α Unit} (hheld : r.held = none) (hl : r.loader = some ())
    (f : Value → Option α) :
    r.get (lookUp f) = (find? f r.id, ⟨r.id, find? f r.id, some ()⟩) := by
  have hasks : r.asks = r.isFilled := by simp [asks, isLoaded, hheld, hl]
  cases h : r.isFilled with
  | false =>
    obtain ⟨id, held, loader⟩ := r
    obtain rfl : held = none := hheld
    obtain rfl : loader = some () := hl
    rw [get_of_not_asks (hasks.trans h), find?_of_not_isFilled h]
  | true =>
    rw [get_of_asks (hasks.trans h) hl, find?_of_isFilled h]
    rfl

theorem get_of_held (f : Value → Option α) (id : Value) (e : α) :
    (⟨id, some e, some ()⟩ : Reference α Unit).get (lookUp f) = (some e, ⟨id, some e, some ()⟩) :=
  get_of_not_asks (asks_of_isLoaded rfl) _

/-! ## Runs -/

theorem changed_cons (f : Value → Option α) (r : Reference α Unit) (c : Change) (cs : List Change) :
    changed f r (c :: cs) = changed f (change f r c) cs := rfl

theorem changed_of_held (f : Value → Option α) (id : Value) (e : α) (cs : List Change) :
    changed f ⟨id, some e, some ()⟩ cs = ⟨lastId id cs, some e, some ()⟩ := by
  induction cs generalizing id with
  | nil => rfl
  | cons c cs ih =>
    rw [changed_cons]
    cases c with
    | get => rw [change, get_of_held, ih, lastId]
    | assign id' => rw [change, setId, ih, lastId]

theorem changed_of_nothing (f : Value → Option α) (id : Value) (cs : List Change) :
    changed f ⟨id, none, some ()⟩ cs =
      ⟨lastId id cs, (firstFound f id cs).bind (find? f), some ()⟩ := by
  induction cs generalizing id with
  | nil => rfl
  | cons c cs ih =>
    rw [changed_cons]
    cases c with
    | assign id' => rw [change, setId, ih, lastId, firstFound]
    | get =>
      rw [change, get_of_held_none rfl rfl, lastId, firstFound]
      cases h : find? f id with
      | none => rw [ih]; rfl
      | some e =>
        rw [changed_of_held, if_pos Option.isSome_some, Option.bind_some, h]

theorem found_of_firstFound {f : Value → Option α} {id first : Value} {cs : List Change}
    (h : firstFound f id cs = some first) : ∃ e, find? f first = some e := by
  induction cs generalizing id with
  | nil => cases h
  | cons c cs ih =>
    cases c with
    | assign id' => exact ih h
    | get =>
      rw [firstFound] at h
      split at h
      · next hfound =>
        obtain rfl := Option.some.inj h
        exact Option.isSome_iff_exists.mp hfound
      · exact ih h

theorem eq_of_find? {f : Value → Option α} {id : Value} {e : α} (h : find? f id = some e) :
    f id = some e := by
  unfold find? at h
  split at h
  · cases h
  · exact h

theorem normalize_asValue {r : Reference α σ} (h : r.isFilled = true) (s : Settings) :
    r.asValue.normalize s = .ok r.id := by
  unfold isFilled at h
  split at h
  · cases h
  · next hid =>
    rw [asValue, Value.normalize]
    exact hid

/-- A reference is made with an identity and a loader that is a function of the identity, and is
asked and given other identities. While it has an identity, what it answers is what the loader has
for that one exactly if no request found an entity under another one before. Otherwise it answers
with the entity that was found first, and it is for this one's identity alone that the reference is
normalized to the identity of the entity that it holds. -/
theorem get_changed (f : Value → Option α) (idOf : α → Value)
    (hf : ∀ id e, f id = some e → idOf e = id) (id : Value) (cs : List Change)
    (hfilled : (changed f ⟨id, none, some ()⟩ cs).isFilled = true) :
    let r := changed f ⟨id, none, some ()⟩ cs
    r.id = lastId id cs ∧
      ((r.get (lookUp f)).1 = f r.id ↔ ∀ first, firstFound f id cs = some first → first = r.id) ∧
      ∀ first, firstFound f id cs = some first →
        ∃ e, f first = some e ∧ r.held = some e ∧ (r.get (lookUp f)).1 = some e ∧
          ∀ s : Settings, r.asValue.normalize s = .ok (idOf e) ↔ first = r.id := by
  intro r
  have hr : r = ⟨lastId id cs, (firstFound f id cs).bind (find? f), some ()⟩ :=
    changed_of_nothing f id cs
  refine ⟨by rw [hr], ?_⟩
  cases hfirst : firstFound f id cs with
  | none =>
    have hheld : r.held = none := by rw [hr, hfirst]; rfl
    have hl : r.loader = some () := by rw [hr]
    have hget : (r.get (lookUp f)).1 = f r.id := by
      rw [get_of_held_none hheld hl, find?_of_isFilled hfilled]
    exact ⟨iff_of_true hget nofun, nofun⟩
  | some first =>
    obtain ⟨e, he⟩ := found_of_firstFound hfirst
    have hheld : r.held = some e := by rw [hr, hfirst]; exact he
    have hget : (r.get (lookUp f)).1 = some e := by
      rw [get_of_not_asks (asks_of_isLoaded (by rw [isLoaded, hheld]; rfl)), hheld]
    have hfe := eq_of_find? he
    have hname := hf first e hfe
    refine ⟨⟨?_, fun h => ?_⟩, ?_⟩
    · rintro h _ ⟨⟩
      rw [← hname, hf r.id e (by rw [← h, hget])]
    · rw [hget, ← h first rfl, hfe]
    · rintro _ ⟨⟩
      refine ⟨e, hfe, hheld, hget, fun s => ?_⟩
      rw [normalize_asValue hfilled, hname, Except.ok.injEq, eq_comm]

/-- A reference to `a` that is asked, then given the identity `b` and asked again, still answers
with the first document, although it is now equal to a reference to the second one. -/
theorem reassigned_answers_first :
    let document (id : String) : Entity := ⟨"Product", .str id, [], [], []⟩
    let f : Value → Option Entity := fun | .str id => some (document id) | _ => none
    let r := changed f ⟨.str "a", none, some ()⟩ [.get, .assign (.str "b")]
    f r.id = some (document "b") ∧ (r.get (lookUp f)).1 = some (document "a") ∧
      (r.get (lookUp f)).1 ≠ f r.id ∧ ∀ s : Settings, r.asValue.normalize s = .ok (.str "b") := by
  intro document f r
  have hfound : f r.id = some (document "b") := rfl
  have hget : (r.get (lookUp f)).1 = some (document "a") := rfl
  refine ⟨hfound, hget, ?_, normalize_asValue rfl⟩
  rw [hget, hfound]
  simp [document]

/-- The same reference once it has been given its first identity again. -/
theorem get_changed_back :
    let document (id : String) : Entity := ⟨"Product", .str id, [], [], []⟩
    let f : Value → Option Entity := fun | .str id => some (document id) | _ => none
    let r := changed f ⟨.str "a", none, some ()⟩ [.get, .assign (.str "b"), .assign (.str "a")]
    (r.get (lookUp f)).1 = f r.id ∧ ∀ s : Settings, r.asValue.normalize s = .ok (.str "a") := by
  intro document f r
  have hf : ∀ id e, f id = some e → e.id = id := by
    intro id e h
    cases id <;> cases h
    rfl
  obtain ⟨-, hget, hheld⟩ := get_changed f Entity.id hf (.str "a")
    [.get, .assign (.str "b"), .assign (.str "a")] rfl
  obtain ⟨e, he, -, -, hnormal⟩ := hheld (.str "a") rfl
  have hname := hf (.str "a") e he
  refine ⟨hget.mpr ?_, fun s => ?_⟩
  · rintro _ ⟨⟩
    rfl
  · rw [(hnormal s).mpr rfl, hname]

end Reference

end FieldQuery
