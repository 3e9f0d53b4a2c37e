import FieldQuery.Proofs.Reference.Loading
import FieldQuery.Proofs.Session.Twins

/-!
# What a session does to a thing

What is modelled. A session hands the things themselves to normalization, to constraints and to
comparisons. A step handles a thing when it asks it or sets one of its attributes (`Step.Handles`).

What is proved. No step changes a thing that it does not handle: computations are followed through
their parts, each of which leaves the thing under a number as it is (`Keeps`), and so are scripts
(`run_keeps`). Asking a reference is a request to it (`ask_reference`), so a reference in a session
is loaded by being asked, and in no other way. Together with the account of one reference and its
loader, that is `Reference.loads_until_found`.

Scripts that set attributes of the reference are left out here.
-/

namespace FieldQuery

namespace Session

variable {α β : Type} {number : Nat}

/-! ## Computations that keep a thing -/

/-- The thing under a number is the same after a computation as before, if there is one. -/
def Keeps (number : Nat) (x : Run α) : Prop :=
  ∀ (s : Session) (thing : Thing), s.things[number]? = some thing →
    (x.from s).2.things[number]? = some thing

namespace Keeps

theorem bind {x : Run α} {f : α → Run β} (hx : Keeps number x) (hf : ∀ a, Keeps number (f a)) :
    Keeps number (x >>= f) := by
  intro s thing h
  have hkept := hx s thing h
  rw [Coupled.from_bind]
  split
  · next a t heq =>
    rw [heq] at hkept
    exact hf a t thing hkept
  · next e t heq =>
    rw [heq] at hkept
    exact hkept

theorem pure (a : α) : Keeps number (Pure.pure a) := fun _ _ h => h

theorem throw (e : Failure) : Keeps number (MonadExcept.throw e : Run α) := fun _ _ h => h

theorem get : Keeps number (MonadState.get : Run Session) := fun _ _ h => h

theorem lift (r : Except Failure α) : Keeps number (Session.lift r) := by
  cases r with
  | ok a => exact pure a
  | error e => exact throw e

theorem modify {g : Session → Session} (h : ∀ s, (g s).things = s.things) :
    Keeps number (modify g) := by
  intro s thing hthing
  change (g s).things[number]? = some thing
  rw [h, hthing]

theorem mapM {f : α → Run β} (h : ∀ a, Keeps number (f a)) (xs : List α) :
    Keeps number (xs.mapM f) := by
  induction xs with
  | nil => exact pure []
  | cons x xs ih =>
    rw [List.mapM_cons]
    exact (h x).bind fun y => ih.bind fun ys => pure (y :: ys)

theorem foldlM {f : β → α → Run β} (h : ∀ b a, Keeps number (f b a)) (xs : List α) (b : β) :
    Keeps number (xs.foldlM f b) := by
  induction xs generalizing b with
  | nil => exact pure b
  | cons x xs ih =>
    rw [List.foldlM_cons]
    exact (h b x).bind ih

/-! ### Primitives -/

theorem find (name : String) : Keeps number (Session.find name) := by
  refine get.bind fun s => ?_
  cases s.names.lookup name with
  | none => exact throw _
  | some k => exact pure _

theorem report (entries : List Logging.Entry) : Keeps number (Session.report entries) :=
  modify fun _ => rfl

theorem resolve (v : Value) : Keeps number (Session.resolve v) := get.bind fun _ => lift _

/-- New things come behind the others. -/
theorem bindName (name : String) (thing : Thing) : Keeps number (Session.bindName name thing) := by
  intro s other h
  have hlt := (List.getElem?_eq_some_iff.mp h).1
  change (s.things ++ [thing])[number]? = some other
  rw [List.getElem?_append_left hlt, h]

theorem replace {other : Nat} (h : other ≠ number) (thing : Thing) :
    Keeps number (Session.replace other thing) := by
  intro s kept hkept
  change (s.things.set other thing)[number]? = some kept
  rw [List.getElem?_set_ne h, hkept]

/-! ### Constraints and artifacts -/

theorem present (c : Constraint) : Keeps number (Session.present c) :=
  get.bind fun _ => (report _).bind fun _ => (lift _).bind fun _ => pure _

theorem keep (name : String) (c : Constraint) : Keeps number (Session.keep name c) :=
  (present c).bind fun _ => (bindName name _).bind fun _ => pure _

theorem callConstraint (c : Constraint) (method : String) :
    Keeps number (Session.callConstraint c method) := by
  have hanswer (s : Session) : Keeps number (do
      let answer ← Session.lift (c.call method)
      if method = "__deepcopy__" then Session.lift (answer.expand s.read)
      else Pure.pure answer) := by
    refine (lift _).bind fun answer => ?_
    split
    · exact lift _
    · exact pure _
  refine get.bind fun s => ?_
  cases renderedBy? method with
  | none => exact hanswer s
  | some mode => exact (report _).bind fun _ => hanswer s

theorem build (factory : Factory) (field value : Value) (calls : List String) :
    Keeps number (Session.build factory field value calls) :=
  get.bind fun _ => (lift _).bind fun c => foldlM callConstraint calls c

theorem render (on : String) (mode : Constraint.Mode) (name : String) :
    Keeps number (Session.render on mode name) := by
  refine (find on).bind fun found => ?_
  split
  · refine get.bind fun s => (report _).bind fun _ => ?_
    split
    · exact (lift _).bind fun _ => (bindName _ _).bind fun _ => pure _
    · exact (bindName _ _).bind fun _ => pure _
  · exact throw _

/-! ### Composites -/

theorem presentComposite (k : Assembly) : Keeps number (Session.presentComposite k) :=
  (lift _).bind fun _ => get.bind fun _ => (lift _).bind fun _ => pure _

theorem commit (name : String) (c : Composite) : Keeps number (Session.commit name c) :=
  get.bind fun _ => (report _).bind fun _ => (presentComposite _).bind fun _ =>
    (bindName _ _).bind fun _ => pure _

theorem failToCombine (cs : List Constraint) : Keeps number (Session.failToCombine cs) :=
  get.bind fun _ => (report _).bind fun _ => throw _

theorem combine (name : String) (members : List String) :
    Keeps number (Session.combine name members) := by
  refine (mapM (fun m => (find m).bind fun _ => pure _) members).bind fun things => ?_
  split
  · exact commit _ _
  · exact failToCombine _

theorem and (name left : String) (right : Value) : Keeps number (Session.and name left right) := by
  refine (find left).bind fun found => ?_
  split
  · refine (lift _).bind fun cs => ?_
    split
    · refine get.bind fun s => ?_
      split
      · exact (lift _).bind fun _ => commit _ _
      · exact commit _ _
      · exact failToCombine _
    · exact failToCombine _
  · exact throw _

/-! ### Entities and references -/

theorem newReference (name : String) (r : TrackedReference) :
    Keeps number (Session.newReference name r) :=
  (get.bind fun _ => (lift _).bind fun _ => pure _).bind fun _ =>
    (bindName _ _).bind fun _ => pure _

theorem newReferenceTo (name : String) (other : Nat) (thing : Thing) :
    Keeps number (Session.newReferenceTo name other thing) := by
  unfold Session.newReferenceTo
  split
  · exact newReference _ _
  · exact (lift _).bind fun _ => newReference _ _
  · exact throw _

theorem changeSetting (setting : String) (v : Value) :
    Keeps number (Session.changeSetting setting v) := by
  unfold Session.changeSetting
  split
  · refine (resolve v).bind fun _ => bind (modify ?_) fun _ => pure _
    exact fun _ => rfl
  · split
    · exact (lift _).bind fun _ => pure _
    · split
      · exact throw _
      · exact throw _

theorem setLevel (logger : String) (level : Int) :
    Keeps number (Session.setLevel logger level) := by
  refine bind (modify ?_) fun _ => pure _
  exact fun _ => rfl

end Keeps

/-! ## Steps -/

/-- A step asks the thing under a number for what it refers to, or sets one of its attributes. -/
def Step.Handles (s : Session) (number : Nat) : Step → Prop
  | .get on | .assign on _ _ => s.names.lookup on = some number
  | .call _ on method => s.names.lookup on = some number ∧ method = "get"
  | _ => False

theorem from_find (s : Session) (name : String) :
    (find name).from s = match s.names.lookup name with
      | some k => (.ok (k, (s.things[k]?).getD .nothing), s)
      | none => (.error .unbound, s) := by
  rw [find, Run.from]
  change (match s.names.lookup name with
    | some k => (Pure.pure (k, (s.things[k]?).getD .nothing) : Run (Nat × Thing))
    | none => throw Failure.unbound).run.run s = _
  cases s.names.lookup name <;> rfl

/-- What goes on with a named thing leaves another one as it is. -/
theorem keeps_find_bind {s : Session} {name : String} {f : Nat × Thing → Run β} {thing : Thing}
    (h : s.things[number]? = some thing)
    (hf : ∀ k found, s.names.lookup name = some k → Keeps number (f (k, found))) :
    ((find name >>= f).from s).2.things[number]? = some thing := by
  rw [Coupled.from_bind, from_find]
  cases hname : s.names.lookup name with
  | none => exact h
  | some k => exact hf k _ hname s thing h

section

variable {s : Session} {thing : Thing} (h : s.things[number]? = some thing)

include h

theorem ask_keeps {on : String} (hname : s.names.lookup on ≠ some number) :
    ((ask on).from s).2.things[number]? = some thing := by
  refine keeps_find_bind h fun k found hfound => ?_
  have hne : k ≠ number := fun heq => hname (heq ▸ hfound)
  split
  · next k' r heq =>
    obtain ⟨rfl, rfl⟩ := Prod.mk.inj heq
    exact .bind .get fun _ => .bind (.lift _) fun _ => .bind (.replace hne _) fun _ =>
      .bind .get fun _ => .bind (.lift _) fun _ => .bind (.resolve _) fun _ => .pure _
  · exact .throw _

theorem call_keeps (name : String) {on method : String}
    (hname : ¬(s.names.lookup on = some number ∧ method = "get")) :
    ((call name on method).from s).2.things[number]? = some thing := by
  refine keeps_find_bind h fun k found hfound => ?_
  have hne (hget : method = "get") : k ≠ number := fun heq => hname ⟨heq ▸ hfound, hget⟩
  split
  · exact .bind (.callConstraint _ _) fun _ => .keep _ _
  · next k' r heq =>
    obtain ⟨rfl, rfl⟩ := Prod.mk.inj heq
    split
    · next hget =>
      exact .bind .get fun _ => .bind (.lift _) fun _ => .bind (.replace (hne hget) _) fun _ =>
        .throw _
    · exact .throw _
  · exact .throw _

theorem assign_keeps {on : String} (hname : s.names.lookup on ≠ some number) (name : String)
    (v : Value) : ((assign on name v).from s).2.things[number]? = some thing := by
  refine keeps_find_bind h fun k found hfound => ?_
  have hne : k ≠ number := fun heq => hname (heq ▸ hfound)
  have hfrozen : Keeps number (do
      if Attribute.isHidden name then lift (Attribute.setHidden name v)
      else throw (Failure.fault [name] .frozen)
      pure Answer.done) := by
    split
    · exact .bind (.lift _) fun _ => .pure _
    · exact .throw _
  cases found with
  | constraint _ => exact hfrozen
  | artifact _ => exact hfrozen
  | composite _ =>
    exact .bind .get fun _ => .bind (.lift _) fun _ => .bind (.replace hne _) fun _ => .pure _
  | entity _ => exact .bind (.lift _) fun _ => .bind (.replace hne _) fun _ => .pure _
  | reference _ => exact .bind (.lift _) fun _ => .bind (.replace hne _) fun _ => .pure _
  | nothing => exact .throw _

/-- A step that does not handle a thing leaves it as it is. -/
theorem step_keeps {t : Step} (ht : ¬ t.Handles s number) :
    ((step t).from s).2.things[number]? = some thing := by
  have of_keeps (hkeeps : Keeps number (step t)) :
      ((step t).from s).2.things[number]? = some thing := hkeeps s thing h
  cases t with
  | get on => exact ask_keeps h ht
  | call name on method => exact call_keeps h name ht
  | assign on name v => exact assign_keeps h ht name v
  | logs => exact h
  | make name factory field value calls =>
    exact of_keeps (.bind (.build _ _ _ _) fun _ => .keep _ _)
  | state on =>
    refine of_keeps (.bind (.find _) fun found => ?_)
    split
    · exact .present _
    · exact .throw _
  | set setting v => exact of_keeps (.changeSetting _ _)
  | normalize v =>
    exact of_keeps (.bind .get fun _ => .bind (.lift _) fun _ => .bind (.resolve _) fun _ =>
      .pure _)
  | combine name members => exact of_keeps (.combine _ _)
  | and name left right => exact of_keeps (.and _ _ _)
  | composite on =>
    refine of_keeps (.bind (.find _) fun found => ?_)
    split
    · exact .presentComposite _
    · exact .throw _
  | render on mode name => exact of_keeps (.render _ _ _)
  | artifact on =>
    refine of_keeps (.bind (.find _) fun found => ?_)
    split
    · exact .bind .get fun _ => .bind (.lift _) fun _ => .pure _
    · exact .throw _
  | equal left right =>
    exact of_keeps (.bind (.find _) fun _ => .bind (.find _) fun _ => .bind .get fun _ =>
      .bind (.lift _) fun _ => .pure _)
  | debug on => exact of_keeps (.setLevel _ _)
  | level logger n => exact of_keeps (.setLevel _ _)
  | entity name e =>
    exact of_keeps (.bind (.resolve _) fun _ => .bind (.bindName _ _) fun _ => .pure _)
  | reference name id loads =>
    cases loads with
    | none => exact of_keeps (.newReference _ _)
    | some entries => exact of_keeps (.bind (.lift _) fun _ => .newReference _ _)
  | referenceOf name entity =>
    cases entity with
    | none => exact of_keeps (.newReference _ _)
    | some on => exact of_keeps (.bind (.find _) fun _ => .newReferenceTo _ _ _)
  | referenceTo name on =>
    refine of_keeps (.bind (.find _) fun found => ?_)
    split
    · split
      · exact .throw _
      · exact .newReferenceTo _ _ _
    · exact .throw _
  | referenceState on =>
    refine of_keeps (.bind (.find _) fun found => ?_)
    split
    · exact .bind .get fun _ => .bind (.lift _) fun _ => .pure _
    · exact .throw _

end

theorem TrackedReference.get_of_refusal {named : String → Option Value} {r : TrackedReference}
    {e : Failure} (h : r.refusal? named = some e) : r.get named = .error e := by
  rw [TrackedReference.get, h]

theorem TrackedReference.get_of_not_refused {named : String → Option Value} {r : TrackedReference}
    (h : r.refusal? named = none) : ∃ found r', r.get named = .ok (found, r') ∧
      r'.reference = (r.reference.get (ask named)).2 := by
  rw [TrackedReference.get, h]
  exact ⟨_, _, rfl, rfl⟩

/-- Asking a reference is a request to it, with what the names now stand for; if that is refused the
reference stays as it is. -/
theorem ask_reference {s : Session} {on : String} {r : TrackedReference}
    (hname : s.names.lookup on = some number) (h : s.things[number]? = some (.reference r)) :
    ∃ r', ((ask on).from s).2.things[number]? = some (.reference r') ∧
      r'.reference = if (r.refusal? s.named).isSome then r.reference
        else (r.reference.get (TrackedReference.ask s.named)).2 := by
  rw [ask, Coupled.from_bind, from_find, hname]
  dsimp only
  rw [h]
  change ∃ r', ((lift (r.get s.named) >>= _).from s).2.things[number]? = _ ∧ _
  rw [Coupled.from_bind]
  cases hrefusal : r.refusal? s.named with
  | some e =>
    rw [TrackedReference.get_of_refusal hrefusal]
    exact ⟨r, h, rfl⟩
  | none =>
    obtain ⟨found, r', hget, hreference⟩ := TrackedReference.get_of_not_refused hrefusal
    rw [hget]
    refine ⟨r', ?_, hreference⟩
    have hreplaced : ((replace number (.reference r')).from s).2.things[number]? =
        some (.reference r') := by
      change (s.things.set number (.reference r'))[number]? = _
      rw [List.getElem?_set_self (List.getElem?_eq_some_iff.mp h).1]
    change ((replace number (.reference r') >>= _).from s).2.things[number]? = _
    rw [Coupled.from_bind]
    exact Keeps.bind .get (fun _ => .bind (.lift _) fun _ => .bind (.resolve _) fun _ => .pure _)
      _ _ hreplaced

/-! ## Runs -/

/-- No step of a list handles the thing under a number when its turn comes. -/
def Untouched (number : Nat) : Session → List Step → Prop
  | _, [] => True
  | s, t :: ts => ¬ t.Handles s number ∧ Untouched number ((step t).from s).2 ts

theorem run_keeps {s : Session} {thing : Thing} (h : s.things[number]? = some thing)
    {ts : List Step} (hts : Untouched number s ts) :
    (run s ts).2.things[number]? = some thing := by
  induction ts generalizing s with
  | nil => exact h
  | cons t ts ih => exact ih (step_keeps h hts.1) hts.2

end Session

namespace Reference

/-- Whatever is done with a reference, its loader is asked for its own identity, once for each
request up to the first answer that is an entity, and that entity is held and answered from then on.
Only a request does anything to a reference, and only while it has an identity and a loader and
holds nothing. In a session, too, no step changes it but those that ask it or set its attributes,
and asking it is such a request unless it is refused. -/
theorem loads_until_found {α : Type} (r : Recorded α) (uses : List (Use α)) :
    (r.after uses).id = r.id ∧
      (r.after uses).asked = r.asked ++
        (if r.asks then (untilFound (offers r.id uses)).map (Question.mk r.id) else []) ∧
      (r.after uses).held = (if r.asks then (offers r.id uses).findSome? (·) else r.held) ∧
      (∀ u, u.offer? r.id = none → r.after (uses ++ [u]) = r.after uses) ∧
      (∀ answers, ((r.after uses).use (.get answers)).1 =
        .got (r.after (uses ++ [.get answers])).held) ∧
      ((r.after uses).asks = false → ∀ later, r.after (uses ++ later) = r.after uses) ∧
      ∀ (s : Session) (number : Nat) (tracked : Session.TrackedReference),
        s.things[number]? = some (.reference tracked) →
          (∀ ts : List Session.Step, Session.Untouched number s ts →
            (Session.run s ts).2.things[number]? = some (.reference tracked)) ∧
          ∀ on : String, s.names.lookup on = some number → ∃ tracked',
            ((Session.step (.get on)).from s).2.things[number]? = some (.reference tracked') ∧
              tracked'.reference = if (tracked.refusal? s.named).isSome then tracked.reference
                else (tracked.reference.get (Session.TrackedReference.ask s.named)).2 := by
  have hlast (u : Use α) : r.after (uses ++ [u]) = ((r.after uses).use u).2 :=
    after_append r uses [u]
  obtain ⟨hid, hasked, hheld⟩ := after_parts r uses
  refine ⟨hid, hasked, hheld, fun u hu => ?_, fun answers => ?_, fun hasks later => ?_, ?_⟩
  · rw [hlast, use_of_not_get _ (by rw [hid, hu])]
  · rw [hlast, use_get]
  · rw [after_append, after_of_not_asks hasks]
  · intro s number tracked hthing
    exact ⟨fun ts hts => Session.run_keeps hthing hts,
      fun on hon => Session.ask_reference hon hthing⟩

/-- A first request finds nothing and a second one finds an entity, which a third one answers with
although the loader would answer differently; comparing in a session loads nothing. -/
theorem loads_until_found_at_second_request :
    let r : Recorded String := ⟨.str "a", none, some []⟩
    let uses : List (Use String) :=
      [.hash, .get fun _ => none, .normalize {}, .get fun _ => some "first", .compare (.str "a")]
    let s : Session :=
      { things := [.reference ⟨⟨.str "a", none, some (.table [], [])⟩, [], true⟩]
        names := [("r", 0)] }
    (r.after uses).asked = [⟨.str "a", none⟩, ⟨.str "a", some "first"⟩] ∧
      r.after (uses ++ [.get fun _ => some "second"]) = r.after uses ∧
      ((r.after uses).use (.get fun _ => some "second")).1 = .got (some "first") ∧
      (Session.run s [.equal "r" "r", .normalize (.shared 0)]).2.things[0]? =
        some (.reference ⟨⟨.str "a", none, some (.table [], [])⟩, [], true⟩) := by
  intro r uses s
  obtain ⟨-, hasked, hheld, -, hget, hstays, hsession⟩ := loads_until_found r uses
  have hloaded : (r.after uses).asks = false := asks_of_isLoaded (by rw [isLoaded, hheld]; rfl)
  have huntouched : Session.Untouched 0 s [.equal "r" "r", .normalize (.shared 0)] :=
    ⟨not_false, not_false, trivial⟩
  refine ⟨hasked, hstays hloaded _, ?_, (hsession s 0 _ rfl).1 _ huntouched⟩
  rw [hget, hstays hloaded, hheld]
  rfl

end Reference

end FieldQuery
