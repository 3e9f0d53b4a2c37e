import FieldQuery.Logging.Run

/-!
# Logging is configured once

What is modelled. What a run does to the root is the work of one event: the first setup, request for
a logger or message. It configures a root that has no handler yet: the root is given one handler and
the level that the event names, or that the level setting has then, upper-cased, and INFO where this
is no level. A root that has handlers already is left as it is. Events are ordinary when levels are
texts and only the levels of other loggers are set.

What is proved. The step lemmas say of a single event that one that configures settles the root
(`Root.settled`), which does nothing to a root that is configured, and that one that does not
configure leaves it alone. The run lemmas follow by induction on the events.
* `root_settled_by_first`: a root without handlers is as it was before the first event that
  configures, and settled by it for all time after.
* `root_kept_with_handlers`: a root that came with handlers keeps these and its level throughout.

Handlers that are added or taken away by others during the run are left out, and so are levels that
are numbers.
-/

namespace FieldQuery

namespace LogLevel

/-- A text in upper case, as far as level names need it. -/
def upperText (s : String) : String := String.ofList (s.toList.map upper)

/-- A text names a level by its name in any case, and `info` if no level has that name. -/
def IsNamedBy (l : LogLevel) (s : String) : Prop :=
  l.name = upperText s ∨ l = info ∧ ∀ k : LogLevel, k.name ≠ upperText s

theorem mem_all (l : LogLevel) : l ∈ all := by
  cases l <;> decide

theorem eq_of_name_eq {l k : LogLevel} (h : l.name = k.name) : l = k := by
  have hall : ∀ l ∈ all, ∀ k ∈ all, l.name = k.name → l = k := by decide
  exact hall l l.mem_all k k.mem_all h

/-- No text names two levels. -/
theorem IsNamedBy.unique {l k : LogLevel} {s : String} (hl : l.IsNamedBy s) (hk : k.IsNamedBy s) :
    l = k := by
  obtain hl | ⟨rfl, hl⟩ := hl
  · obtain hk | ⟨-, hk⟩ := hk
    · exact eq_of_name_eq (hl.trans hk.symm)
    · exact absurd hl (hk l)
  · obtain hk | ⟨rfl, -⟩ := hk
    · exact absurd hk (hl k)
    · rfl

theorem isNamedBy_named (s : String) : (named s).IsNamedBy s := by
  have hnamed : named s = (all.find? fun l => l.name == upperText s).getD info := rfl
  cases h : all.find? fun l => l.name == upperText s with
  | some l =>
    have hname := List.find?_some h
    rw [hnamed, h]
    exact .inl (eq_of_beq hname)
  | none =>
    have hnone := List.find?_eq_none.mp h
    rw [hnamed, h]
    refine .inr ⟨rfl, fun k hk => hnone k k.mem_all ?_⟩
    rw [hk, beq_self_eq_true]

end LogLevel

namespace Logging

/-! ## The root -/

/-- What is said of the root: whether it was configured, its handlers and its level. -/
structure Root where
  configured : Bool
  handlers : Nat
  level : Int

/-- The root of the tree. -/
def root (l : Logging) : Root := ⟨l.configured, l.handlers, l.rootLevel⟩

/-- The root after logging has been configured at the level that a text names, unless it was: only a
root without handlers is changed. -/
def Root.settled (root : Root) (s : String) : Root :=
  if root.configured then root
  else if root.handlers = 0 then ⟨true, 1, (LogLevel.named s).number⟩
  else { root with configured := true }

theorem Root.settled_of_configured {root : Root} (h : root.configured = true) (s : String) :
    root.settled s = root := if_pos h

theorem Root.settled_of_handlers {root : Root} (h : root.handlers ≠ 0) (s : String) :
    (root.settled s).handlers = root.handlers ∧ (root.settled s).level = root.level := by
  rw [settled]
  split
  · exact ⟨rfl, rfl⟩
  · exact ⟨rfl, rfl⟩

@[simp]
theorem root_add (l : Logging) (name : String) : (l.add name).root = l.root := by
  unfold add
  split <;> rfl

@[simp]
theorem root_modify (l : Logging) (name : String) (f : Logger → Logger) :
    (l.modify name f).root = l.root := rfl

theorem root_setLevel (l : Logging) {name : String} (level : Int) (h : isRoot name = false) :
    (l.setLevel name level).root = l.root := by
  have hforget : root { l.add name with loggers := (l.add name).loggers.map Logger.forget } =
      (l.add name).root := rfl
  unfold setLevel
  rw [if_neg (by rw [h]; exact Bool.false_ne_true), root_modify, hforget, root_add]

@[simp]
theorem root_ask (l : Logging) (name : String) (level : LogLevel) :
    (l.ask name level).2.root = l.root := rfl

@[simp]
theorem root_emit (l : Logging) (name : String) (level : LogLevel) (message : String)
    (args : List Value) : (l.emit name level message args).2.root = l.root := by
  have hask := l.root_ask name level
  unfold emit
  split
  · next heq =>
    rw [heq] at hask
    exact hask
  · next heq =>
    rw [heq] at hask
    exact hask

theorem setup_of_text {level : Value} {s : String} (h : level.text? = some s) (l : Logging) :
    ∃ l', l.setup level = .ok l' ∧ l'.root = l.root.settled s := by
  have hnamed : namedLevel level = .ok (LogLevel.named s) := by
    unfold namedLevel
    rw [h]
  unfold setup
  cases hc : l.configured with
  | true => exact ⟨l, rfl, (Root.settled_of_configured hc s).symm⟩
  | false =>
    refine ⟨_, congrArg (Except.map _) hnamed, ?_⟩
    have hroot : ¬ l.root.configured = true := by rw [root, hc]; exact Bool.false_ne_true
    rw [Root.settled, if_neg hroot]
    dsimp only
    by_cases hhandlers : l.handlers = 0
    · rw [if_pos hhandlers, if_pos (c := l.root.handlers = 0) hhandlers]
      rfl
    · rw [if_neg hhandlers, if_neg (c := l.root.handlers = 0) hhandlers]
      rfl

/-- A name that is none configures logging as well. -/
theorem root_getLogger {level : Value} {s : String} (h : level.text? = some s) (l : Logging)
    (name : Value) : (l.getLogger level name).2.root = l.root.settled s := by
  obtain ⟨l', hsetup, hroot⟩ := setup_of_text h l
  unfold getLogger
  rw [hsetup]
  dsimp only
  cases requested name with
  | error e => exact hroot
  | ok name => exact (root_add l' name).trans hroot

/-- The root is not configured before the first event. -/
theorem root_fresh : fresh.root = ⟨false, 0, LogLevel.warning.number⟩ := by
  rw [fresh, loggersOfLibrary, List.foldl_cons, List.foldl_cons, List.foldl_nil, root_add, root_add]
  rfl

/-! ## Events -/

namespace Event

/-- Setups, requests and messages configure logging, unless that was done. -/
def configures : Event → Bool
  | .setup _ | .get _ | .emit .. => true
  | .assignLevel _ | .setLevel .. => false

/-- The text that an event names a level by when the level setting is `current`. -/
def levelName? (current : Value) : Event → Option String
  | .setup level => level.text?
  | .get _ | .emit .. => current.text?
  | .assignLevel _ | .setLevel .. => none

/-- Levels are given by texts, and the level of the root is not set. -/
def Ordinary : Event → Prop
  | .setup level | .assignLevel level => level.text?.isSome
  | .setLevel name _ => ∀ s, Run.named name = .ok s → isRoot s = false
  | .get _ | .emit .. => True

/-- The level setting after an event, if it was `current` before. -/
def setting (current : Value) : Event → Value
  | .assignLevel level => level
  | _ => current

theorem exists_levelName {e : Event} {current : Value} (he : e.Ordinary)
    (hcurrent : current.text?.isSome) (h : e.configures = true) :
    ∃ s, e.levelName? current = some s := by
  cases e with
  | setup level => exact Option.isSome_iff_exists.mp he
  | get _ | emit _ _ _ _ => exact Option.isSome_iff_exists.mp hcurrent
  | assignLevel _ | setLevel _ _ => cases h

theorem Ordinary.isSome_setting {e : Event} (he : e.Ordinary) {current : Value}
    (hcurrent : current.text?.isSome) : (e.setting current).text?.isSome := by
  cases e with
  | assignLevel level => exact he
  | _ => exact hcurrent

end Event

namespace Run

/-! ## One event -/

theorem root_step_of_not_configures (r : Run) {e : Event} (he : e.Ordinary)
    (h : e.configures = false) : (r.step e).2.logging.root = r.logging.root := by
  cases e with
  | setup _ | get _ | emit _ _ _ _ => cases h
  | assignLevel level => rfl
  | setLevel name level =>
    rw [step]
    split
    · rfl
    · next s hname =>
      split
      · exact root_add r.logging s
      · exact (root_setLevel _ _ (he s hname)).trans (root_add r.logging s)

theorem root_step_of_levelName (r : Run) {e : Event} {s : String}
    (h : e.levelName? r.level = some s) :
    (r.step e).2.logging.root = r.logging.root.settled s := by
  cases e with
  | assignLevel _ | setLevel _ _ => cases h
  | setup level =>
    obtain ⟨l, hsetup, hroot⟩ := setup_of_text h r.logging
    rw [step, hsetup]
    exact hroot
  | get name =>
    have hroot := root_getLogger h r.logging name
    rw [step]
    split
    · next hget => rwa [hget] at hroot
    · next hget => rwa [hget] at hroot
  | emit name method message args =>
    have hroot := root_getLogger h r.logging name
    rw [step]
    split
    · next hget => rwa [hget] at hroot
    · next l hget =>
      rw [hget] at hroot
      split
      · exact hroot
      · exact (root_emit l _ _ message args).trans hroot

theorem level_step (r : Run) (e : Event) : (r.step e).2.level = e.setting r.level := by
  cases e with
  | assignLevel level => rfl
  | setup level =>
    rw [step]
    split <;> rfl
  | get name =>
    rw [step]
    split <;> rfl
  | setLevel name level =>
    rw [step]
    split
    · rfl
    · dsimp only
      split <;> rfl
  | emit name method message args =>
    rw [step]
    split
    · rfl
    · split <;> rfl

/-- The level setting stays a text. -/
theorem isSome_level_step {r : Run} (hr : r.level.text?.isSome) {e : Event} (he : e.Ordinary) :
    (r.step e).2.level.text?.isSome := by
  rw [level_step]
  exact he.isSome_setting hr

/-! ## Runs -/

theorem after_cons (r : Run) (e : Event) (events : List Event) :
    r.after (e :: events) = (r.step e).2.after events := rfl

theorem after_append (r : Run) (events later : List Event) :
    r.after (events ++ later) = (r.after events).after later := List.foldl_append

theorem isSome_level_after {events : List Event} (hevents : ∀ e ∈ events, e.Ordinary) {r : Run}
    (hr : r.level.text?.isSome) : (r.after events).level.text?.isSome := by
  induction events generalizing r with
  | nil => exact hr
  | cons e events ih =>
    obtain ⟨he, hevents⟩ := List.forall_mem_cons.mp hevents
    rw [after_cons]
    exact ih hevents (isSome_level_step hr he)

theorem root_after_of_not_configures {events : List Event}
    (hevents : ∀ e ∈ events, e.Ordinary ∧ e.configures = false) (r : Run) :
    (r.after events).logging.root = r.logging.root := by
  induction events generalizing r with
  | nil => rfl
  | cons e events ih =>
    obtain ⟨⟨he, hquiet⟩, hevents⟩ := List.forall_mem_cons.mp hevents
    rw [after_cons, ih hevents, root_step_of_not_configures r he hquiet]

/-- Once logging is configured, no event touches the root. -/
theorem root_after_of_configured {events : List Event} (hevents : ∀ e ∈ events, e.Ordinary)
    {r : Run} (hr : r.level.text?.isSome) (hroot : r.logging.root.configured = true) :
    (r.after events).logging.root = r.logging.root := by
  induction events generalizing r with
  | nil => rfl
  | cons e events ih =>
    obtain ⟨he, hevents⟩ := List.forall_mem_cons.mp hevents
    have hstep : (r.step e).2.logging.root = r.logging.root := by
      cases h : e.configures with
      | false => exact root_step_of_not_configures r he h
      | true =>
        obtain ⟨s, hs⟩ := Event.exists_levelName he hr h
        rw [root_step_of_levelName r hs, Root.settled_of_configured hroot]
    rw [after_cons, ih hevents (isSome_level_step hr he) (by rw [hstep, hroot]), hstep]

/-- Before the first event that configures logging the root is as it was. That event gives it one
handler and the level that it names, or the level setting does at that time, in any case of the
letters, and `info` if no level has that name. However the run goes on, the root stays so. -/
theorem root_settled_by_first {r : Run} {level : Int} (hroot : r.logging.root = ⟨false, 0, level⟩)
    (hr : r.level.text?.isSome) {before : List Event}
    (hbefore : ∀ e ∈ before, e.Ordinary ∧ e.configures = false) :
    (r.after before).logging.root = ⟨false, 0, level⟩ ∧
      ∀ first : Event, first.Ordinary → first.configures = true →
        ∃ (s : String) (l : LogLevel),
          first.levelName? (r.after before).level = some s ∧ l.IsNamedBy s ∧
            ∀ later : List Event, (∀ e ∈ later, e.Ordinary) →
              (r.after (before ++ first :: later)).logging.root = ⟨true, 1, l.number⟩ := by
  have hquiet := (root_after_of_not_configures hbefore r).trans hroot
  have hlevel := isSome_level_after (fun e he => (hbefore e he).1) hr
  refine ⟨hquiet, fun first hfirst hconfigures => ?_⟩
  obtain ⟨s, hs⟩ := Event.exists_levelName hfirst hlevel hconfigures
  refine ⟨s, LogLevel.named s, hs, LogLevel.isNamedBy_named s, fun later hlater => ?_⟩
  have hsettled : ((r.after before).step first).2.logging.root =
      ⟨true, 1, (LogLevel.named s).number⟩ := by
    rw [root_step_of_levelName _ hs, hquiet]
    rfl
  rw [after_append, after_cons, root_after_of_configured hlater (isSome_level_step hlevel hfirst)
    (by rw [hsettled]), hsettled]

/-- A root that has handlers from the start keeps them and its level, whatever happens. -/
theorem root_kept_with_handlers {events : List Event} (hevents : ∀ e ∈ events, e.Ordinary)
    {r : Run} (hr : r.level.text?.isSome) (hroot : r.logging.root.handlers ≠ 0) :
    (r.after events).logging.root.handlers = r.logging.root.handlers ∧
      (r.after events).logging.root.level = r.logging.root.level := by
  induction events generalizing r with
  | nil => exact ⟨rfl, rfl⟩
  | cons e events ih =>
    obtain ⟨he, hevents⟩ := List.forall_mem_cons.mp hevents
    have hstep : (r.step e).2.logging.root.handlers = r.logging.root.handlers ∧
        (r.step e).2.logging.root.level = r.logging.root.level := by
      cases h : e.configures with
      | false =>
        rw [root_step_of_not_configures r he h]
        exact ⟨rfl, rfl⟩
      | true =>
        obtain ⟨s, hs⟩ := Event.exists_levelName he hr h
        rw [root_step_of_levelName r hs]
        exact Root.settled_of_handlers hroot s
    have hrest := ih hevents (isSome_level_step hr he) (by rw [hstep.1]; exact hroot)
    rw [after_cons]
    exact ⟨hrest.1.trans hstep.1, hrest.2.trans hstep.2⟩

/-- The level setting counts as it stands at the first request; a later setup comes too late. -/
theorem root_settled_by_first_request :
    (({} : Run).after ([.assignLevel (.str "ınfo"), .assignLevel (.str "Debug"),
      .setLevel (.str "search") (.int 40)] ++ .get (.str "search.node") ::
        [.setup (.str "CRITICAL"), .assignLevel (.str "ERROR"), .emit .null "info" "" []])
      ).logging.root = ⟨true, 1, 10⟩ := by
  have hbefore : ∀ e ∈ [Event.assignLevel (.str "ınfo"), .assignLevel (.str "Debug"),
      .setLevel (.str "search") (.int 40)], e.Ordinary ∧ e.configures = false := by
    simp [Event.Ordinary, Event.configures, Value.text?, named, requested, Value.truthy, isRoot]
  have hlater : ∀ e ∈ [Event.setup (.str "CRITICAL"), .assignLevel (.str "ERROR"),
      .emit .null "info" "" []], e.Ordinary := by
    simp [Event.Ordinary, Value.text?]
  obtain ⟨s, l, hs, hl, h⟩ := (root_settled_by_first (r := {}) root_fresh rfl hbefore).2
    (.get (.str "search.node")) trivial rfl
  obtain rfl : "Debug" = s := Option.some.inj hs
  have hdebug : LogLevel.debug.IsNamedBy "Debug" := .inl (by decide)
  rw [h _ hlater, hl.unique hdebug]
  rfl

end Run

end Logging

end FieldQuery
