import FieldQuery.Proofs.Constraint.Meaning
import FieldQuery.Proofs.Session.Expansion
import FieldQuery.Session.Step
import Mathlib.Data.List.Forall2

/-!
# Twin sessions

What is modelled. Two sessions are twins when they differ in nothing but the values of their
constraints, and each value is there in one exactly if it is there in the other (`Twins`). Values
may hold things of their session, but only earlier ones than the thing that is made of them. The
relations carry this as a bound on the numbers, which keeps every thing readable.

What is proved. Two computations run in twins are coupled when they end in twins, fail alike, and
give related results (`Coupled`). Couplings compose along sequences and lists (`Coupled.bind`,
`Coupled.mapM`), so an operation is handled by handling the few primitives that it is made of:
reading and changing the session, finding a thing by its name, keeping one, and reporting. What
alike constraints report is the same (`Constraint.Alike.renderReport`,
`Constraint.Alike.combineEntries`), since reports are filled from redacted descriptions.

Entities and references are not related by twins, so a session that keeps one has no twin.
-/

namespace FieldQuery

/-! ## Constraints -/

/-- Constraints that differ at most in a value, which is there in both or in neither, and which
holds things of numbers below `n` only. -/
inductive Constraint.Alike (n : Nat) : Constraint → Constraint → Prop
  | mk (field : String) {v v' : Value} (asFilter : Bool) (k : Comparison)
      (presence : v.isAbsent = v'.isAbsent) (below : v.Below n) (below' : v'.Below n) :
      Alike n ⟨field, v, asFilter, k⟩ ⟨field, v', asFilter, k⟩

namespace Constraint.Alike

variable {n m : Nat} {c c' : Constraint}

theorem symm (h : Alike n c c') : Alike n c' c := by
  obtain ⟨field, asFilter, k, presence, below, below'⟩ := h
  exact ⟨field, asFilter, k, presence.symm, below', below⟩

theorem mono (h : Alike n c c') (hle : n ≤ m) : Alike m c c' := by
  obtain ⟨field, asFilter, k, presence, below, below'⟩ := h
  exact ⟨field, asFilter, k, presence, below.mono hle, below'.mono hle⟩

theorem value_below (h : Alike n c c') : c.value.Below n := by
  obtain ⟨field, asFilter, k, presence, below, below'⟩ := h
  exact below

theorem redacted (h : Alike n c c') (s : Settings) : c.redacted s = c'.redacted s := by
  obtain ⟨field, asFilter, k, presence, below, below'⟩ := h
  rfl

/-- For each use both render to the same kind of artifact, or both to none: what decides are the
flags and whether there is a value. -/
theorem kinds (h : Alike n c c') (mode : Mode) :
    (c.artifact? mode).map Artifact.kind = (c'.artifact? mode).map Artifact.kind := by
  obtain @⟨field, v, v', asFilter, k, presence, below, below'⟩ := h
  cases hv : v'.isAbsent <;> rw [hv] at presence <;> cases mode <;> cases asFilter <;>
    rcases k with ⟨_ | _⟩ | ⟨bound, _ | _⟩ <;>
    simp only [artifact?, query?, filter?, hasValue, presence, hv] <;> rfl

/-- Rendering tells the kind of the artifact and the redacted description. -/
theorem renderReport_eq (s : Settings) (c : Constraint) (mode : Mode) :
    c.renderReport s mode = ⟨"constraintkit.constraints.base",
      if ((c.artifact? mode).map Artifact.kind).isSome then "Rendered %s %s for %s"
      else "No %s for %s",
      ((c.artifact? mode).map Artifact.kind).toList ++ [mode.text, c.redacted s]⟩ := by
  unfold renderReport
  cases c.artifact? mode <;> rfl

theorem renderReport (h : Alike n c c') (s : Settings) (mode : Mode) :
    c.renderReport s mode = c'.renderReport s mode := by
  rw [renderReport_eq, renderReport_eq, h.kinds, h.redacted]

theorem renderEntries (h : Alike n c c') (s : Settings) :
    c.renderEntries s = c'.renderEntries s := by
  rw [Constraint.renderEntries, Constraint.renderEntries, h.renderReport, h.renderReport]

theorem skipReport (h : Alike n c c') (s : Settings) : c.skipReport s = c'.skipReport s := by
  rw [Constraint.skipReport, Constraint.skipReport, h.redacted]

/-- Both are skipped, or neither. -/
theorem skipped (h : Alike n c c') :
    (c.query?.isNone && c.filter?.isNone) = (c'.query?.isNone && c'.filter?.isNone) := by
  have hnone : ∀ mode, (c.artifact? mode).isNone = (c'.artifact? mode).isNone := by
    intro mode
    rw [← Option.isNone_map (f := Artifact.kind), h.kinds, Option.isNone_map]
  rw [show c.query?.isNone = c'.query?.isNone from hnone .query,
    show c.filter?.isNone = c'.filter?.isNone from hnone .filter]

theorem combineEntries {cs cs' : List Constraint} (h : List.Forall₂ (Alike n) cs cs')
    (s : Settings) : Composite.combineEntries s cs = Composite.combineEntries s cs' := by
  induction h with
  | nil => rfl
  | cons hc _ ih =>
    unfold Composite.combineEntries at ih ⊢
    rw [List.flatMap_cons, List.flatMap_cons, ih, hc.renderEntries, hc.skipped, hc.skipReport]

theorem map_redacted {cs cs' : List Constraint} (h : List.Forall₂ (Alike n) cs cs')
    (s : Settings) : cs.map (Constraint.redacted s) = cs'.map (Constraint.redacted s) := by
  induction h with
  | nil => rfl
  | cons hc _ ih => rw [List.map_cons, List.map_cons, hc.redacted, ih]

/-- The relation is symmetric on lists as well. -/
theorem symm_all {cs cs' : List Constraint} (h : List.Forall₂ (Alike n) cs cs') :
    List.Forall₂ (Alike n) cs' cs := (h.imp fun _ _ hc => hc.symm).flip

theorem all_below {cs cs' : List Constraint} (h : List.Forall₂ (Alike n) cs cs') :
    ∀ c ∈ cs, c.value.Below n := by
  induction h with
  | nil => exact nofun
  | cons hc _ ih => exact List.forall_mem_cons.mpr ⟨hc.value_below, ih⟩

end Constraint.Alike

/-- The fields of an artifact depend on its kind alone. -/
theorem Artifact.fieldNames_of_kind {a b : Artifact} (h : a.kind = b.kind) :
    a.fieldNames = b.fieldNames := by
  cases a <;> cases b <;> first | rfl | exact absurd h (by simp [kind])

namespace Session

/-! ## Things -/

/-- Things that differ at most in the values of their constraints: constraints, what two of them
render to for one use, composites of them, and nothing. -/
inductive Thing.Alike (n : Nat) : Thing → Thing → Prop
  | constraint {c c' : Constraint} (h : c.Alike n c') : Alike n (.constraint c) (.constraint c')
  | artifact {c c' : Constraint} {mode : Constraint.Mode} {a a' : Artifact} (h : c.Alike n c')
      (ha : c.artifact? mode = some a) (ha' : c'.artifact? mode = some a') :
      Alike n (.artifact a) (.artifact a')
  | composite {cs cs' : List Constraint} (h : List.Forall₂ (Constraint.Alike n) cs cs') :
      Alike n (.composite (.ofComposite (.combine cs))) (.composite (.ofComposite (.combine cs')))
  | nothing : Alike n .nothing .nothing

namespace Thing.Alike

variable {n m : Nat} {t t' : Thing}

theorem symm (h : Thing.Alike n t t') : Thing.Alike n t' t := by
  cases h with
  | constraint h => exact .constraint h.symm
  | artifact h ha ha' => exact .artifact h.symm ha' ha
  | composite h => exact .composite (Constraint.Alike.symm_all h)
  | nothing => exact .nothing

theorem mono (h : Thing.Alike n t t') (hle : n ≤ m) : Thing.Alike m t t' := by
  cases h with
  | constraint h => exact .constraint (h.mono hle)
  | artifact h ha ha' => exact .artifact (h.mono hle) ha ha'
  | composite h => exact .composite (h.imp fun _ _ hc => hc.mono hle)
  | nothing => exact .nothing

/-- What is called on both is of as little use to both, unless both are constraints. -/
theorem callRefusal (h : Thing.Alike n t t') (name : String) :
    t.callRefusal name = t'.callRefusal name := by
  cases h with
  | constraint h =>
    obtain ⟨field, asFilter, k, presence, below, below'⟩ := h
    rfl
  | @artifact c c' mode a a' h ha ha' =>
    have hkind : a.kind = a'.kind := by
      have := h.kinds mode
      rw [ha, ha'] at this
      exact Option.some.inj this
    simp only [Thing.callRefusal, Thing.hasUncallable, Artifact.fieldNames_of_kind hkind]
    rfl
  | composite h => rfl
  | nothing => rfl

/-- A thing can be shown once the things in its values can be read. -/
theorem value (h : Thing.Alike n t t') (s : Settings) {read : Nat → Except Failure Value}
    (hread : ∀ k < n, ∃ v, read k = .ok v) : ∃ v, t.value s read n = .ok v := by
  have hexpand : ∀ v : Value, v.Below n → ∃ w, v.expand read = .ok w := by
    intro v hv
    obtain ⟨w, hw, -⟩ := v.exists_expand fun k hk => hread k (hv k hk)
    exact ⟨w, hw⟩
  cases h with
  | constraint h =>
    obtain ⟨d, hd, -⟩ := Constraint.exists_expand (hexpand _ h.value_below)
    exact ⟨d.asValue, by rw [Thing.value, hd]; rfl⟩
  | artifact h ha ha' =>
    obtain ⟨b, hb, -⟩ := Constraint.exists_expand_artifact (hexpand _ h.value_below) ha
    exact ⟨b.asValue, by rw [Thing.value, hb]; rfl⟩
  | @composite cs cs' h =>
    obtain ⟨d, hd, -⟩ := Composite.exists_expand_combine fun c hc =>
      hexpand _ (Constraint.Alike.all_below h c hc)
    refine ⟨d.asValue s n, ?_⟩
    have hshown : Thing.value s read n (.composite (.ofComposite (.combine cs))) =
        ((Composite.combine cs).expand read).map fun c => c.asValue s n := rfl
    rw [hshown, hd]
    rfl
  | nothing => exact ⟨.null, rfl⟩

end Thing.Alike

/-- Sessions that differ at most in the values of their constraints. -/
structure Twins (s s' : Session) : Prop where
  settings : s.settings = s'.settings
  logging : s.logging = s'.logging
  logged : s.logged = s'.logged
  names : s.names = s'.names
  size : s.things.length = s'.things.length
  things : ∀ number t t', s.things[number]? = some t → s'.things[number]? = some t' →
    Thing.Alike number t t'

namespace Twins

variable {s s' : Session}

theorem symm (h : Twins s s') : Twins s' s where
  settings := h.settings.symm
  logging := h.logging.symm
  logged := h.logged.symm
  names := h.names.symm
  size := h.size.symm
  things number t t' ht ht' := (h.things number t' t ht' ht).symm

/-- A session without things is its own twin. -/
theorem of_empty (h : s.things = []) : Twins s s where
  settings := rfl
  logging := rfl
  logged := rfl
  names := rfl
  size := rfl
  things number t _ ht _ := by simp [h] at ht

/-- Under every number there is a thing in both or in neither. -/
theorem thing (h : Twins s s') (number : Nat) :
    (s.things[number]? = none ∧ s'.things[number]? = none) ∨
      ∃ t t', s.things[number]? = some t ∧ s'.things[number]? = some t' ∧
        Thing.Alike s.things.length t t' := by
  by_cases hlt : number < s.things.length
  · have ht := List.getElem?_eq_getElem hlt
    have ht' := List.getElem?_eq_getElem (h.size ▸ hlt)
    exact .inr ⟨_, _, ht, ht', (h.things number _ _ ht ht').mono (Nat.le_of_lt hlt)⟩
  · have hge : s.things.length ≤ number := Nat.le_of_not_lt hlt
    exact .inl ⟨List.getElem?_eq_none hge, List.getElem?_eq_none (h.size ▸ hge)⟩

theorem grounded (h : Twins s s') : s.Grounded := by
  intro number t ht read hread
  obtain ⟨hnone, -⟩ | ⟨t₀, t', ht₀, ht', -⟩ := h.thing number
  · rw [hnone] at ht
    cases ht
  · exact (h.things number t t' ht ht').value s.settings hread

/-- In both of two twins the values of alike constraints can be expanded. -/
theorem expand (h : Twins s s') {c c' : Constraint} (hc : c.Alike s.things.length c') :
    (∃ v, c.value.expand s.read = .ok v) ∧ ∃ v, c'.value.expand s'.read = .ok v :=
  ⟨h.grounded.expand hc.value_below, h.symm.grounded.expand (h.size ▸ hc.symm.value_below)⟩

theorem expand_all (h : Twins s s') {cs cs' : List Constraint}
    (hcs : List.Forall₂ (Constraint.Alike s.things.length) cs cs') :
    (∀ c ∈ cs, ∃ v, c.value.expand s.read = .ok v) ∧
      ∀ c ∈ cs', ∃ v, c.value.expand s'.read = .ok v := by
  have hbelow := Constraint.Alike.all_below hcs
  have hbelow' := Constraint.Alike.all_below (Constraint.Alike.symm_all hcs)
  exact ⟨fun c hc => h.grounded.expand (hbelow c hc),
    fun c hc => h.symm.grounded.expand (h.size ▸ hbelow' c hc)⟩

/-- Twins keep no entity and no reference, so normalization looks at every value itself. -/
theorem reveal (h : Twins s s') (v : Value) : s.reveal v = v := by
  unfold Session.reveal
  split
  · next number =>
    obtain ⟨ht, -⟩ | ⟨t, t', ht, -, halike⟩ := h.thing number
    · rw [ht]
    · rw [ht]
      cases halike <;> rfl
  · rfl

/-- Twins stay twins when alike things are kept in both. -/
theorem place (h : Twins s s') {t t' : Thing} (ht : Thing.Alike s.things.length t t') :
    Twins { s with things := s.things ++ [t] } { s' with things := s'.things ++ [t'] } where
  settings := h.settings
  logging := h.logging
  logged := h.logged
  names := h.names
  size := by simp [h.size]
  things number u u' hu hu' := by
    dsimp only at hu hu'
    by_cases hlt : number < s.things.length
    · rw [List.getElem?_append_left hlt] at hu
      rw [List.getElem?_append_left (h.size ▸ hlt)] at hu'
      exact h.things number u u' hu hu'
    · have hle : number < (s.things ++ [t]).length := (List.getElem?_eq_some_iff.mp hu).1
      obtain rfl : number = s.things.length := by
        simp only [List.length_append, List.length_singleton] at hle
        omega
      obtain rfl : t = u := by simpa using hu
      obtain rfl : t' = u' := by simpa [h.size] using hu'
      exact ht

end Twins

/-! ## Coupled computations -/

/-- The same failure, or related results. -/
inductive Outcomes {α : Type} (R : α → α → Prop) : Except Failure α → Except Failure α → Prop
  | ok {a a' : α} (h : R a a') : Outcomes R (.ok a) (.ok a')
  | error (e : Failure) : Outcomes R (.error e) (.error e)

theorem Outcomes.bind {α β : Type} {R : α → α → Prop} {Q : β → β → Prop} {r r' : Except Failure α}
    {f f' : α → Except Failure β} (hr : Outcomes R r r')
    (hf : ∀ a a', R a a' → Outcomes Q (f a) (f' a')) : Outcomes Q (r >>= f) (r' >>= f') := by
  cases hr with
  | ok ha => exact hf _ _ ha
  | error e => exact .error e

theorem Outcomes.map_eq {α γ : Type} {R : α → α → Prop} {r r' : Except Failure α} {f : α → γ}
    (hr : Outcomes R r r') (hf : ∀ a a', R a a' → f a = f a') : r.map f = r'.map f := by
  cases hr with
  | ok ha => exact congrArg Except.ok (hf _ _ ha)
  | error e => rfl

/-- What a computation comes to in a session. -/
def Run.from {α : Type} (s : Session) (x : Run α) : Except Failure α × Session := x.run.run s

/-- In the sessions `s` and `s'` two computations end in twins, in which no thing was dropped, and
both fail alike, or their results are related. The relation may depend on the number of things. -/
structure Coupled {α : Type} (R : Nat → α → α → Prop) (s s' : Session) (x x' : Run α) : Prop where
  twins : Twins (x.from s).2 (x'.from s').2
  grows : s.things.length ≤ (x.from s).2.things.length
  outcomes : Outcomes (R (x.from s).2.things.length) (x.from s).1 (x'.from s').1

namespace Coupled

variable {α β : Type} {R : Nat → α → α → Prop} {Q : Nat → β → β → Prop} {s s' : Session}

theorem lift (h : Twins s s') {r r' : Except Failure α} (hr : Outcomes (R s.things.length) r r') :
    Coupled R s s' (Session.lift r) (Session.lift r') := by
  cases hr with
  | ok ha => exact ⟨h, Nat.le_refl _, .ok ha⟩
  | error e => exact ⟨h, Nat.le_refl _, .error e⟩

theorem pure (h : Twins s s') {a a' : α} (ha : R s.things.length a a') :
    Coupled R s s' (Pure.pure a) (Pure.pure a') := lift h (.ok ha)

theorem throw (h : Twins s s') (e : Failure) :
    Coupled R s s' (MonadExcept.throw e) (MonadExcept.throw e) := lift h (.error e)

theorem from_bind (x : Run α) (f : α → Run β) (s : Session) :
    (x >>= f).from s = match x.from s with
      | (.ok a, t) => (f a).from t
      | (.error e, t) => (.error e, t) := by
  have hbind : (x >>= f).from s = (ExceptT.bindCont f (x.from s).1).run (x.from s).2 := rfl
  rw [hbind]
  rcases x.from s with ⟨_ | _, t⟩ <;> rfl

/-- Coupled computations may be followed by computations that are coupled in all twins that they can
end in, for all results that they can have. -/
theorem bind {x x' : Run α} {f f' : α → Run β} (hx : Coupled R s s' x x')
    (hf : ∀ t t' a a', Twins t t' → s.things.length ≤ t.things.length →
      R t.things.length a a' → Coupled Q t t' (f a) (f' a')) :
    Coupled Q s s' (x >>= f) (x' >>= f') := by
  obtain ⟨htwins, hgrows, houtcomes⟩ := hx
  have hfrom := from_bind x f s
  have hfrom' := from_bind x' f' s'
  rcases hr : x.from s with ⟨r, t⟩
  rcases hr' : x'.from s' with ⟨r', t'⟩
  rw [hr] at htwins hgrows houtcomes hfrom
  rw [hr'] at htwins houtcomes hfrom'
  cases houtcomes with
  | error e =>
    refine ⟨?_, ?_, ?_⟩ <;> simp only [hfrom, hfrom']
    · exact htwins
    · exact hgrows
    · exact .error e
  | @ok a a' ha =>
    obtain ⟨htwins', hgrows', houtcomes'⟩ := hf t t' a a' htwins hgrows ha
    refine ⟨?_, ?_, ?_⟩ <;> simp only [hfrom, hfrom']
    · exact htwins'
    · exact Nat.le_trans hgrows hgrows'
    · exact houtcomes'

/-- Results that are there in both are handed on, and nothing has happened yet. -/
theorem bind_ok {r r' : Except Failure α} {a a' : α} {f f' : α → Run β} (hr : r = .ok a)
    (hr' : r' = .ok a') (h : Coupled Q s s' (f a) (f' a')) :
    Coupled Q s s' (Session.lift r >>= f) (Session.lift r' >>= f') := by
  rw [hr, hr']
  exact ⟨h.twins, h.grows, h.outcomes⟩

/-- What reads its session reads a twin in the other. -/
theorem get {f f' : Session → Run β} (h : Coupled Q s s' (f s) (f' s')) :
    Coupled Q s s' (MonadState.get >>= f) (MonadState.get >>= f') :=
  ⟨h.twins, h.grows, h.outcomes⟩

theorem modify {g g' : Session → Session} (h : Twins (g s) (g' s'))
    (hgrows : s.things.length ≤ (g s).things.length) :
    Coupled (fun _ _ _ => True) s s' (modify g) (modify g') :=
  ⟨h, hgrows, .ok trivial⟩

/-- The same computation for each member of a list. -/
theorem mapM {γ : Type} {f : γ → Run α} (h : Twins s s')
    (hf : ∀ x t t', Twins t t' → Coupled R t t' (f x) (f x))
    (hR : ∀ n m a a', n ≤ m → R n a a' → R m a a') (xs : List γ) :
    Coupled (fun n => List.Forall₂ (R n)) s s' (xs.mapM f) (xs.mapM f) := by
  induction xs generalizing s s' with
  | nil => exact pure h .nil
  | cons x xs ih =>
    rw [List.mapM_cons]
    refine bind (hf x s s' h) fun t t' a a' ht hle ha => ?_
    refine bind (ih ht) fun u u' as as' hu hle' has => ?_
    exact pure hu (.cons (hR _ _ _ _ hle' ha) has)

/-! ### Primitives -/

/-- What is reported is the same, so it is logged in both or in neither. -/
theorem report (h : Twins s s') (es : List Logging.Entry) :
    Coupled (fun _ _ _ => True) s s' (Session.report es) (Session.report es) := by
  refine modify ?_ (Nat.le_refl _)
  exact { h with logged := by rw [h.logged, h.logging] }

theorem bindName (h : Twins s s') (name : String) {t t' : Thing}
    (ht : Thing.Alike s.things.length t t') :
    Coupled (fun _ _ _ => True) s s' (Session.bindName name t) (Session.bindName name t') := by
  refine ⟨?_, ?_, .ok trivial⟩
  · exact { h.place ht with
      names := congrArg₂ (fun number (names : List (String × Nat)) =>
        (name, number) :: names.filter fun n => n.1 != name) h.size h.names }
  · change s.things.length ≤ (s.things ++ [t]).length
    rw [List.length_append]
    exact Nat.le_add_right _ _

/-- A name stands for alike things under the same number, or for nothing in both. -/
theorem find (h : Twins s s') (name : String) :
    Coupled (fun n p p' => p.1 = p'.1 ∧ Thing.Alike n p.2 p'.2) s s' (Session.find name)
      (Session.find name) := by
  refine get ?_
  rw [h.names]
  cases s'.names.lookup name with
  | none => exact throw h _
  | some number =>
    refine pure h ⟨rfl, ?_⟩
    obtain ⟨ht, ht'⟩ | ⟨t, t', ht, ht', halike⟩ := h.thing number
    · simp only [ht, ht']
      exact .nothing
    · simp only [ht, ht']
      exact halike

end Coupled

end Session

end FieldQuery
