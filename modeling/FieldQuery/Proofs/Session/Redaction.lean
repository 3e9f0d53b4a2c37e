import FieldQuery.Proofs.Session.Twins

/-!
# Values stay out of logs and redacted texts

What is modelled. Two scripts that differ in nothing but the values given to factories are run in
the same session. Each value normalizes, and is there exactly if the other one is. An answer is seen
with values kept back (`View`): redacted descriptions, what composites show of themselves, and the
kinds of artifacts.

What is proved. The two runs log the same entries and give the same answers as far as answers keep
values back (`Session.run_redacted`). Every operation on the way is coupled with itself in twin
sessions, so every step leads from twins to twins (`Step.Paired.answering`), and so does a run
(`Paired.run`), by induction on the scripts. That what is logged depends on the redacted description
alone rests on the fact that a template is filled with texts that the two runs share; percent signs
in fields and in the redacted value do no harm.

Left out are steps that show or compare values by design, and those that keep other things in the
session, entities and references.
-/

namespace FieldQuery

open Session (Outcomes)

/-! ## Making and refining -/

namespace Constraint

/-- Checks that differ at most in a value that normalizes end alike. -/
theorem check_congr {s : Settings} {variant : Variant} {get other : String → Option Value}
    {n : Nat} {w w' : Value} (hget : ∀ name, name ≠ "value" → get name = other name)
    (hvalue : checkValue s (get "value") = .ok w) (hvalue' : checkValue s (other "value") = .ok w')
    (presence : w.isAbsent = w'.isAbsent) (below : w.Below n) (below' : w'.Below n) :
    Outcomes (Alike n) (check s variant get) (check s variant other) := by
  have hcomparison : checkComparison variant get = checkComparison variant other := by
    cases variant <;>
      simp only [checkComparison, hget "ignore_absent" (by decide), hget "bound" (by decide),
        hget "match_if_absent" (by decide)]
  unfold check
  rw [hvalue, hvalue', hcomparison, hget "field" (by decide), hget "as_filter_mode" (by decide),
    hget "kind" (by decide)]
  cases checkField s variant (other "field") with
  | error e => exact .error e
  | ok field =>
    dsimp only
    split
    · exact .ok ⟨_, _, _, presence, below, below'⟩
    · exact .error _

theorem Alike.refine {n : Nat} {c c' : Constraint} (h : Alike n c c') (call : Refinement) :
    Outcomes (Alike n) (c.refine call) (c'.refine call) := by
  obtain ⟨field, asFilter, k, presence, below, below'⟩ := h
  cases call <;> cases k <;>
    first
    | exact .ok ⟨_, _, _, presence, below, below'⟩
    | exact .error _

theorem Alike.refineAll {n : Nat} {c c' : Constraint} (h : Alike n c c')
    (calls : List Refinement) : Outcomes (Alike n) (c.refineAll calls) (c'.refineAll calls) := by
  induction calls generalizing c c' with
  | nil => exact .ok h
  | cons call calls ih =>
    rw [refineAll_cons, refineAll_cons]
    exact (h.refine call).bind fun _ _ h' => ih h'

end Constraint

/-- What a factory makes of two values that normalize differs at most in the value. -/
theorem Factory.make_alike (f : Factory) {s : Settings} (field : Value) {n : Nat}
    {v v' w w' : Value} (hv : v.normalize s = .ok w) (hv' : v'.normalize s = .ok w')
    (presence : w.isAbsent = w'.isAbsent) (below : v.Below n) (below' : v'.Below n) :
    Outcomes (Constraint.Alike n) (f.make s field v) (f.make s field v') := by
  have hgiven : ∀ (front : List (String × Value)) (name : String), name ≠ "value" →
      Constraint.given (front ++ [("value", v)]) name =
        Constraint.given (front ++ [("value", v')]) name := by
    intro front name hname
    simp only [Constraint.given, List.find?_append, List.find?_singleton,
      beq_eq_false_iff_ne.mpr hname.symm]
    rfl
  have hbelow := Value.normalize_below hv below
  have hbelow' := Value.normalize_below hv' below'
  cases f with
  | equal =>
    exact Constraint.check_congr (hgiven [("field", field)]) hv hv' presence hbelow hbelow'
  | lessThan =>
    exact Constraint.check_congr (hgiven [("field", field), ("bound", .member Bound.lt.member)])
      hv hv' presence hbelow hbelow'
  | greaterThan =>
    exact Constraint.check_congr (hgiven [("field", field), ("bound", .member Bound.gt.member)])
      hv hv' presence hbelow hbelow'

namespace Session

/-- Called by its name, a refinement is the refinement. -/
theorem callConstraint_text (c : Constraint) (r : Refinement) :
    callConstraint c r.text = lift (c.refine r) := by
  have hcall : callConstraint c r.text = lift (c.refine r) >>= pure := by
    cases r <;> rfl
  rw [hcall, bind_pure]

theorem foldlM_callConstraint (c : Constraint) (calls : List Refinement) :
    (calls.map Refinement.text).foldlM callConstraint c = lift (c.refineAll calls) := by
  induction calls generalizing c with
  | nil => rfl
  | cons call calls ih =>
    rw [List.map_cons, List.foldlM_cons, callConstraint_text, Constraint.refineAll_cons]
    cases c.refine call with
    | ok d => exact ih d
    | error e => rfl

/-! ## Answers with values kept back -/

/-- What an answer tells with values kept back. -/
inductive View where
  | constraint (described : String)
  | composite (described inspected : String)
  | rendered (kind : Option String)
  | entries (es : List Logging.Entry)
  | done
  | other

/-- An answer with values kept back, under some settings. -/
def Answer.view (s : Settings) : Answer → View
  | constraint c => .constraint (c.redacted s)
  | composite c _ => .composite (c.redacted s) (c.inspect s)
  | rendered a => .rendered (a.map Artifact.kind)
  | entries es => .entries es
  | done => .done
  | _ => .other

/-- Answers that tell the same under all settings. -/
def Answer.Alike (a a' : Answer) : Prop := ∀ s, a.view s = a'.view s

/-- Computations that answer alike. -/
abbrev Answering (s s' : Session) (x x' : Run Answer) : Prop :=
  Coupled (fun _ => Answer.Alike) s s' x x'

/-! ## Operations -/

namespace Answering

variable {s s' : Session}

theorem present (h : Twins s s') {c c' : Constraint} (hc : c.Alike s.things.length c') :
    Answering s s' (Session.present c) (Session.present c') := by
  refine .get ?_
  rw [← h.settings, ← hc.renderEntries]
  obtain ⟨hv, hv'⟩ := h.expand hc
  obtain ⟨d, hd, hshown⟩ := Constraint.exists_expand hv
  obtain ⟨d', hd', hshown'⟩ := Constraint.exists_expand hv'
  refine .bind (.report h _) fun t t' _ _ ht _ _ => ?_
  refine .bind_ok hd hd' (.pure ht fun settings => ?_)
  rw [Answer.view, Answer.view, hshown, hshown', hc.redacted]

theorem keep (h : Twins s s') (name : String) {c c' : Constraint}
    (hc : c.Alike s.things.length c') :
    Answering s s' (Session.keep name c) (Session.keep name c') := by
  refine .bind (present h hc) fun t t' a a' ht hle ha => ?_
  refine .bind (.bindName ht name (.constraint (hc.mono hle))) fun u u' _ _ hu _ _ => ?_
  exact .pure hu ha

/-- Of the value a factory lets nothing decide but whether it is there. -/
theorem build (h : Twins s s') (factory : Factory) (field : Value) {v v' w w' : Value}
    (calls : List Refinement) (hv : v.normalize s.settings = .ok w)
    (hv' : v'.normalize s'.settings = .ok w') (presence : w.isAbsent = w'.isAbsent)
    (below : v.Below s.things.length) (below' : v'.Below s.things.length) :
    Coupled Constraint.Alike s s' (Session.build factory field v (calls.map Refinement.text))
      (Session.build factory field v' (calls.map Refinement.text)) := by
  refine .get ?_
  rw [h.reveal, h.symm.reveal, ← h.settings]
  rw [← h.settings] at hv'
  refine .bind (.lift h (factory.make_alike field hv hv' presence below below')) ?_
  intro t t' c c' ht _ hc
  rw [foldlM_callConstraint, foldlM_callConstraint]
  exact .lift ht (hc.refineAll calls)

/-- What is no constraint refuses a refinement for the same reason in both. -/
theorem call (h : Twins s s') (name on : String) (r : Refinement) :
    Answering s s' (Session.call name on r.text) (Session.call name on r.text) := by
  refine .bind (.find h on) ?_
  rintro t t' ⟨number, thing⟩ ⟨number', thing'⟩ ht _ ⟨hnumber, halike⟩
  obtain rfl : number = number' := hnumber
  cases halike with
  | constraint hc =>
    dsimp only
    rw [callConstraint_text, callConstraint_text]
    exact .bind (.lift ht (hc.refine r)) fun u u' d d' hu _ hd => keep hu name hd
  | artifact hc ha ha' =>
    have halike := Thing.Alike.artifact hc ha ha'
    dsimp only
    rw [halike.callRefusal]
    exact .throw ht _
  | composite hcs => exact .throw ht _
  | nothing => exact .throw ht _

theorem state (h : Twins s s') (on : String) :
    Answering s s' (step (.state on)) (step (.state on)) := by
  refine .bind (.find h on) ?_
  rintro t t' ⟨number, thing⟩ ⟨number', thing'⟩ ht _ ⟨-, halike⟩
  cases halike with
  | constraint hc => exact present ht hc
  | artifact _ _ _ | composite _ | nothing => exact .throw ht _

theorem render (h : Twins s s') (on : String) (mode : Constraint.Mode) (name : String) :
    Answering s s' (Session.render on mode name) (Session.render on mode name) := by
  refine .bind (.find h on) ?_
  rintro t t' ⟨number, thing⟩ ⟨number', thing'⟩ ht _ ⟨-, halike⟩
  cases halike with
  | artifact _ _ _ | composite _ | nothing => exact .throw ht _
  | @constraint c c' hc =>
    refine .get ?_
    rw [← ht.settings, ← hc.renderReport]
    refine .bind (.report ht _) fun u u' _ _ hu hle _ => ?_
    -- either both render to nothing, or both to an artifact, of one kind
    have hkinds := hc.kinds mode
    cases ha : c.artifact? mode with
    | none =>
      have ha' : c'.artifact? mode = none := by
        rw [ha] at hkinds
        exact Option.map_eq_none_iff.mp hkinds.symm
      simp only [ha']
      exact .bind (.bindName hu name .nothing) fun w w' _ _ hw _ _ => .pure hw fun _ => rfl
    | some a =>
      obtain ⟨a', ha', hkind⟩ : ∃ a', c'.artifact? mode = some a' ∧ a'.kind = a.kind := by
        rw [ha] at hkinds
        exact Option.map_eq_some_iff.mp hkinds.symm
      obtain ⟨hv, hv'⟩ := ht.expand hc
      obtain ⟨b, hb, hbkind⟩ := Constraint.exists_expand_artifact hv ha
      obtain ⟨b', hb', hbkind'⟩ := Constraint.exists_expand_artifact hv' ha'
      simp only [ha']
      have halike := Thing.Alike.artifact (hc.mono hle) ha ha'
      refine .bind_ok hb hb' ?_
      refine .bind (.bindName hu name halike) fun w w' _ _ hw _ _ => .pure hw fun _ => ?_
      simp only [Answer.view, Option.map_some, hbkind, hbkind', hkind]

theorem presentComposite (h : Twins s s') {cs cs' : List Constraint}
    (hcs : List.Forall₂ (Constraint.Alike s.things.length) cs cs') :
    Answering s s' (Session.presentComposite (.ofComposite (.combine cs)))
      (Session.presentComposite (.ofComposite (.combine cs'))) := by
  refine .bind_ok rfl rfl (.get ?_)
  obtain ⟨hvs, hvs'⟩ := h.expand_all hcs
  obtain ⟨d, hd, hshown⟩ := Composite.exists_expand_combine hvs
  obtain ⟨d', hd', hshown'⟩ := Composite.exists_expand_combine hvs'
  refine .bind_ok hd hd' (.pure h fun settings => ?_)
  have hredacted : d.redacted settings = d'.redacted settings := by
    rw [hshown, hshown', Composite.redacted, Composite.redacted]
    exact congrArg (" AND ".intercalate ·) (Constraint.Alike.map_redacted hcs settings)
  simp only [Answer.view, Composite.inspect, hredacted]

theorem commit (h : Twins s s') (name : String) {cs cs' : List Constraint}
    (hcs : List.Forall₂ (Constraint.Alike s.things.length) cs cs') :
    Answering s s' (Session.commit name (.combine cs)) (Session.commit name (.combine cs')) := by
  refine .get ?_
  have hentries : Composite.combineEntries s'.settings (Composite.combine cs').constraints =
      Composite.combineEntries s.settings (Composite.combine cs).constraints := by
    rw [← h.settings]
    exact (Constraint.Alike.combineEntries hcs s.settings).symm
  rw [hentries]
  refine .bind (.report h _) fun t t' _ _ ht hle _ => ?_
  have hcs' := hcs.imp fun _ _ hc => hc.mono hle
  refine .bind (presentComposite ht hcs') fun u u' a a' hu hle' ha => ?_
  have hcs'' := hcs'.imp fun _ _ hc => hc.mono hle'
  exact .bind (.bindName hu name (.composite hcs'')) fun w w' _ _ hw _ _ => .pure hw ha

theorem failToCombine (h : Twins s s') {cs cs' : List Constraint}
    (hcs : List.Forall₂ (Constraint.Alike s.things.length) cs cs') :
    Answering s s' (Session.failToCombine cs) (Session.failToCombine cs') := by
  refine .get ?_
  rw [← h.settings, ← Constraint.Alike.combineEntries hcs]
  exact .bind (.report h _) fun t t' _ _ ht _ _ => .throw ht _

theorem leadingConstraints_alike {n : Nat} {ts ts' : List Thing}
    (h : List.Forall₂ (Thing.Alike n) ts ts') :
    List.Forall₂ (Constraint.Alike n) (leadingConstraints ts).1 (leadingConstraints ts').1 ∧
      (leadingConstraints ts).2 = (leadingConstraints ts').2 := by
  induction h with
  | nil => exact ⟨.nil, rfl⟩
  | cons ht _ ih =>
    cases ht with
    | constraint hc => exact ⟨.cons hc ih.1, ih.2⟩
    | artifact _ _ _ | composite _ | nothing => exact ⟨.nil, rfl⟩

theorem combine (h : Twins s s') (name : String) (members : List String) :
    Answering s s' (Session.combine name members) (Session.combine name members) := by
  have hmember : ∀ m t t', Twins t t' →
      Coupled Thing.Alike t t' (do return (← find m).2) (do return (← find m).2) := by
    intro m t t' ht
    exact .bind (.find ht m) fun u u' p p' hu _ hp => .pure hu hp.2
  refine .bind (.mapM h hmember (fun _ _ _ _ hle ht => ht.mono hle) members) ?_
  intro t t' things things' ht _ hthings
  obtain ⟨hcs, hall⟩ := leadingConstraints_alike hthings
  rcases hl : leadingConstraints things with ⟨cs, all⟩
  rcases hl' : leadingConstraints things' with ⟨cs', all'⟩
  rw [hl, hl'] at hcs hall
  obtain rfl : all = all' := hall
  cases all with
  | true => exact commit ht name hcs
  | false => exact failToCombine ht hcs

theorem and (h : Twins s s') (name left : String) (right : Value) :
    Answering s s' (Session.and name left right) (Session.and name left right) := by
  refine .bind (.find h left) ?_
  rintro t t' ⟨number, thing⟩ ⟨number', thing'⟩ ht _ ⟨-, halike⟩
  cases halike with
  | constraint _ | artifact _ _ _ | nothing => exact .throw ht _
  | @composite cs cs' hcs =>
    refine .bind_ok rfl rfl ?_
    cases right with
    | shared number =>
      refine .get ?_
      obtain ⟨hr, hr'⟩ | ⟨r, r', hr, hr', halike⟩ := ht.thing number
      · rw [hr, hr']
        exact failToCombine ht hcs
      · rw [hr, hr']
        cases halike with
        | constraint hd => exact commit ht name (List.rel_append hcs (.cons hd .nil))
        | composite hds => exact .bind_ok rfl rfl (commit ht name (List.rel_append hcs hds))
        | artifact _ _ _ | nothing => exact failToCombine ht hcs
    | _ => exact failToCombine ht hcs

/-- A setting is the same value in both, as no thing has to be read for it. -/
theorem changeSetting (h : Twins s s') (setting : String) {v : Value} (hv : v.things = []) :
    Answering s s' (Session.changeSetting setting v) (Session.changeSetting setting v) := by
  unfold Session.changeSetting
  cases Settings.Name.named? setting with
  | some name =>
    refine .bind (R := fun _ w w' => v = w ∧ v = w') ?_ ?_
    · refine .get ?_
      rw [Value.expand_closed hv, Value.expand_closed hv]
      exact .lift h (.ok ⟨rfl, rfl⟩)
    · rintro t t' _ _ ht _ ⟨rfl, rfl⟩
      refine .bind (.modify ?_ (Nat.le_refl _)) fun u u' _ _ hu _ _ => .pure hu fun _ => rfl
      exact { ht with settings := by rw [ht.settings] }
  | none =>
    dsimp only
    split
    · refine .bind (R := fun _ _ _ => True) (.lift h ?_) fun t t' _ _ ht _ _ =>
        .pure ht fun _ => rfl
      cases Attribute.setHidden setting v with
      | ok _ => exact .ok trivial
      | error e => exact .error e
    · split <;> exact .throw h _

/-- Setting a level changes nothing but logging. -/
theorem setLevel (h : Twins s s') (logger : String) (level : Int) :
    Answering s s' (Session.setLevel logger level) (Session.setLevel logger level) := by
  refine .bind (.modify ?_ (Nat.le_refl _)) fun t t' _ _ ht _ _ => .pure ht fun _ => rfl
  exact { h with logging := by rw [h.logging] }

theorem composite (h : Twins s s') (on : String) :
    Answering s s' (step (.composite on)) (step (.composite on)) := by
  refine .bind (.find h on) ?_
  rintro t t' ⟨number, thing⟩ ⟨number', thing'⟩ ht _ ⟨-, halike⟩
  cases halike with
  | composite hcs => exact presentComposite ht hcs
  | constraint _ | artifact _ _ _ | nothing => exact .throw ht _

theorem logs (h : Twins s s') : Answering s s' (step .logs) (step .logs) := by
  refine ⟨{ h with logged := rfl }, Nat.le_refl _, .ok fun settings => ?_⟩
  exact congrArg View.entries h.logged

end Answering

/-! ## Steps -/

/-- The steps of a script in which no constraint is made: refinements, descriptions, renderings,
composites, settings, and levels of loggers. A setting is given no thing of the session. -/
inductive Step.Common : Step → Prop
  | call (name on : String) (r : Refinement) : Common (.call name on r.text)
  | state (on : String) : Common (.state on)
  | render (on : String) (mode : Constraint.Mode) (name : String) : Common (.render on mode name)
  | combine (name : String) (members : List String) : Common (.combine name members)
  | and (name left : String) (right : Value) : Common (.and name left right)
  | composite (on : String) : Common (.composite on)
  | set (setting : String) {v : Value} (closed : v.things = []) : Common (.set setting v)
  | debug (on : Bool) : Common (.debug on)
  | level (logger : String) (number : Int) : Common (.level logger number)
  | logs : Common .logs

/-- Steps that are the same, or that make a constraint in the same way of two values. Both values
hold only things that are there, they normalize, and both are absent or neither is. -/
inductive Step.Paired (s s' : Session) : Step → Step → Prop
  | common {t : Step} (h : t.Common) : Paired s s' t t
  | make (name : String) (factory : Factory) (field : Value) (calls : List Refinement)
      {v v' w w' : Value} (normal : v.normalize s.settings = .ok w)
      (normal' : v'.normalize s'.settings = .ok w') (presence : w.isAbsent = w'.isAbsent)
      (below : v.Below s.things.length) (below' : v'.Below s'.things.length) :
      Paired s s' (.make name factory field v (calls.map Refinement.text))
        (.make name factory field v' (calls.map Refinement.text))

theorem Step.Common.answering {s s' : Session} (h : Twins s s') {t : Step} (ht : t.Common) :
    Answering s s' (step t) (step t) := by
  cases ht with
  | call name on r => exact .call h name on r
  | state on => exact .state h on
  | render on mode name => exact .render h on mode name
  | combine name members => exact .combine h name members
  | and name left right => exact .and h name left right
  | composite on => exact .composite h on
  | set setting closed => exact .changeSetting h setting closed
  | debug on => exact .setLevel h _ _
  | level logger number => exact .setLevel h logger number
  | logs => exact .logs h

/-- Paired steps answer alike in twins, and lead to twins. -/
theorem Step.Paired.answering {s s' : Session} (h : Twins s s') {t t' : Step}
    (ht : Step.Paired s s' t t') : Answering s s' (step t) (step t') := by
  cases ht with
  | common ht => exact ht.answering h
  | make name factory field calls normal normal' presence below below' =>
    have hbuild := Answering.build h factory field calls normal normal' presence below
      (h.size ▸ below')
    exact .bind hbuild fun u u' c c' hu _ hc => Answering.keep hu name hc

/-! ## Runs -/

/-- Scripts whose steps are paired in the sessions that the two runs have come to. -/
inductive Paired : Session → Session → List Step → List Step → Prop
  | nil (s s' : Session) : Paired s s' [] []
  | cons {s s' : Session} {t t' : Step} {ts ts' : List Step} (h : Step.Paired s s' t t')
      (hs : Paired ((step t).from s).2 ((step t').from s').2 ts ts') :
      Paired s s' (t :: ts) (t' :: ts')

/-- The answers of a run with values kept back. -/
def views (settings : Settings) (answers : List (Except Failure Answer)) :
    List (Except Failure View) := answers.map (Except.map (Answer.view settings))

/-- Paired scripts answer alike in twins, and lead to twins. -/
theorem Paired.run {s s' : Session} {ts ts' : List Step} (h : Paired s s' ts ts')
    (htwins : Twins s s') : Twins (run s ts).2 (run s' ts').2 ∧
      ∀ settings, views settings (run s ts).1 = views settings (run s' ts').1 := by
  induction h with
  | nil s s' => exact ⟨htwins, fun _ => rfl⟩
  | @cons s s' t t' ts ts' ht hts ih =>
    obtain ⟨hnext, -, houtcomes⟩ := ht.answering htwins
    obtain ⟨hlast, hviews⟩ := ih hnext
    refine ⟨hlast, fun settings => ?_⟩
    have hview : Except.map (Answer.view settings) ((step t).from s).1 =
        Except.map (Answer.view settings) ((step t').from s').1 :=
      houtcomes.map_eq fun _ _ halike => halike settings
    exact congrArg₂ List.cons hview (hviews settings)

/-- Two scripts that differ only in values given to factories, run in a session that keeps nothing
yet, log the same and answer the same as far as values are kept back, whatever the settings. -/
theorem run_redacted {s : Session} {ts ts' : List Step} (hempty : s.things = [])
    (h : Paired s s ts ts') : (run s ts).2.logged = (run s ts').2.logged ∧
      ∀ settings, views settings (run s ts).1 = views settings (run s ts').1 := by
  obtain ⟨htwins, hviews⟩ := h.run (.of_empty hempty)
  exact ⟨htwins.logged, hviews⟩

/-- The statement at fields and a redacted text with percent signs, at values of different kinds,
one of which holds a constraint of the session, and at two forms of no value: what was logged is the
same text for both runs. -/
theorem run_redacted_percent :
    let s : Session := { logging := {} }
    let script (u v w : Value) : List Step := [.level "root" 10, .set "REDACTED_VALUE" (.str "%s"),
      .make "a" .equal (.str "100%d") u [Refinement.asFilter.text], .render "a" .query "q",
      .make "b" .lessThan (.str "n") v [],
      .make "c" .equal (.str "m") w [Refinement.ignoreAbsentValues.text],
      .combine "all" ["b", "c"], .composite "all"]
    let ts := script (.str "secret") (.list [.shared 0, .null]) .null
    let ts' := script (.int 7) (.bool false) .absent
    (run s ts).2.logged = (run s ts').2.logged ∧
      (∀ settings, views settings (run s ts).1 = views settings (run s ts').1) ∧
      (run s ts').2.logged.map (·.message) = [
        "No query for 100%d = '%s'", "Rendered term filter for 100%d = '%s'",
        "No query for 100%d = '%s'",
        "Rendered range query for n LT '%s'", "No filter for n LT '%s'",
        "No query for m = '%s'", "No filter for m = '%s'",
        "Rendered range query for n LT '%s'", "No filter for n LT '%s'",
        "No query for m = '%s'", "No filter for m = '%s'",
        "Skipping constraint without artifacts: m = '%s'"] := by
  intro s script ts ts'
  have hpaired : Paired s s ts ts' := by
    refine .cons (.common (.level _ _)) (.cons (.common (.set _ rfl)) (.cons ?_ ?_))
    · exact .make "a" .equal _ [.asFilter] rfl rfl rfl (Value.below_of_closed rfl _)
        (Value.below_of_closed rfl _)
    refine .cons (.common (.render _ _ _)) (.cons ?_ (.cons ?_ ?_))
    · refine .make "b" .lessThan _ [] rfl rfl rfl ?_ (Value.below_of_closed rfl _)
      -- the thing that the value holds is the constraint that was made first
      intro k hk
      obtain rfl : k = 0 := by simpa [Value.things, Value.thingsAll] using hk
      decide +kernel
    · exact .make "c" .equal _ [.ignoreAbsentValues] rfl rfl rfl (Value.below_of_closed rfl _)
        (Value.below_of_closed rfl _)
    exact .cons (.common (.combine _ _)) (.cons (.common (.composite _)) (.nil _ _))
  obtain ⟨hlogged, hviews⟩ := run_redacted rfl hpaired
  exact ⟨hlogged, hviews, by decide +kernel⟩

end Session

end FieldQuery
