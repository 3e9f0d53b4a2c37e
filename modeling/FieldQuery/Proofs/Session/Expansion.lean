import FieldQuery.Session.Basic

/-!
# Expanding values

What is modelled. A value may hold things of its session by their numbers. To show it, these are
read and put in their places; a thing is read with a bound on how deep things may hold each other,
which no chain of different things reaches.

What is proved. A value can be expanded as soon as the things in it can be read
(`Value.exists_expand`), and a value that holds no thing is its own expansion
(`Value.expand_closed`). The same goes for constraints, for what they render to and for composites.
In a session in which every thing is made only of earlier ones nothing comes back to itself, so
every thing can be read (`Session.Grounded.read`) and every value of such things expanded
(`Session.Grounded.expand`).

Normalization does not add any thing to a value (`Value.normalize_below`). What an expansion looks
like is not described, only that there is one.
-/

namespace FieldQuery

namespace Value

mutual

/-- The numbers of the things that a value holds. -/
def things : Value → List Nat
  | shared number => [number]
  | list xs => thingsAll xs
  | tuple xs => thingsAll xs
  | dict entries => thingsEntries entries
  | entity _ id declared masking further =>
    things id ++ (thingsFields declared ++ (thingsFields masking ++ thingsFields further))
  | reference id => things id
  | _ => []
termination_by structural v => v

def thingsAll : List Value → List Nat
  | [] => []
  | x :: xs => things x ++ thingsAll xs
termination_by structural xs => xs

def thingsEntries : List (Value × Value) → List Nat
  | [] => []
  | (k, v) :: entries => things k ++ (things v ++ thingsEntries entries)
termination_by structural entries => entries

def thingsFields : List (String × Value) → List Nat
  | [] => []
  | (_, v) :: fields => things v ++ thingsFields fields
termination_by structural fields => fields

end

/-- All things that a value holds have smaller numbers. -/
def Below (n : Nat) (v : Value) : Prop := ∀ k ∈ v.things, k < n

theorem Below.mono {n m : Nat} {v : Value} (h : v.Below n) (hle : n ≤ m) : v.Below m :=
  fun k hk => Nat.lt_of_lt_of_le (h k hk) hle

section

variable {read : Nat → Except Failure Value}

/-- Whether the things of the given numbers can be read. -/
def Readable (read : Nat → Except Failure Value) (numbers : List Nat) : Prop :=
  ∀ k ∈ numbers, ∃ v, read k = .ok v

theorem readable_append {ns ms : List Nat} :
    Readable read (ns ++ ms) ↔ Readable read ns ∧ Readable read ms :=
  List.forall_mem_append

mutual

/-- A value whose things can be read can be expanded, and if it holds none, it stays what it is. -/
theorem exists_expand (v : Value) (h : Readable read v.things) :
    ∃ w, v.expand read = .ok w ∧ (v.things = [] → w = v) := by
  match v with
  | shared number =>
    obtain ⟨w, hw⟩ := h number List.mem_cons_self
    exact ⟨w, hw, nofun⟩
  | list xs =>
    obtain ⟨ys, hys, hclosed⟩ := exists_expandAll xs h
    exact ⟨list ys, by rw [expand, hys]; rfl, fun he => congrArg list (hclosed he)⟩
  | tuple xs =>
    obtain ⟨ys, hys, hclosed⟩ := exists_expandAll xs h
    exact ⟨tuple ys, by rw [expand, hys]; rfl, fun he => congrArg tuple (hclosed he)⟩
  | dict entries =>
    obtain ⟨es, hes, hclosed⟩ := exists_expandEntries entries h
    exact ⟨dict es, by rw [expand, hes]; rfl, fun he => congrArg dict (hclosed he)⟩
  | entity kind id declared masking further =>
    simp only [things, readable_append] at h
    obtain ⟨hid, hdeclared, hmasking, hfurther⟩ := h
    obtain ⟨i, hi, hi'⟩ := exists_expand id hid
    obtain ⟨ds, hds, hds'⟩ := exists_expandFields declared hdeclared
    obtain ⟨ms, hms, hms'⟩ := exists_expandFields masking hmasking
    obtain ⟨fs, hfs, hfs'⟩ := exists_expandFields further hfurther
    refine ⟨entity kind i ds ms fs, by rw [expand, hi, hds, hms, hfs], fun he => ?_⟩
    simp only [things, List.append_eq_nil_iff] at he
    rw [hi' he.1, hds' he.2.1, hms' he.2.2.1, hfs' he.2.2.2]
  | reference id =>
    obtain ⟨i, hi, hclosed⟩ := exists_expand id h
    exact ⟨reference i, by rw [expand, hi]; rfl, fun he => congrArg reference (hclosed he)⟩
  | null | absent | bool _ | int _ | float _ | decimal _ | fraction _ | str _ | bytes _ | uuid _
  | date _ | time _ _ | moment _ | member _ | record _ _ _ | bundle _ _ _ _ =>
    exact ⟨_, rfl, fun _ => rfl⟩
termination_by structural v

theorem exists_expandAll (xs : List Value) (h : Readable read (thingsAll xs)) :
    ∃ ys, expandAll read xs = .ok ys ∧ (thingsAll xs = [] → ys = xs) := by
  match xs with
  | [] => exact ⟨[], rfl, fun _ => rfl⟩
  | x :: xs =>
    obtain ⟨hx, hxs⟩ := readable_append.mp h
    obtain ⟨y, hy, hy'⟩ := exists_expand x hx
    obtain ⟨ys, hys, hys'⟩ := exists_expandAll xs hxs
    refine ⟨y :: ys, by rw [expandAll, hy, hys]; rfl, fun he => ?_⟩
    obtain ⟨hex, hexs⟩ := List.append_eq_nil_iff.mp he
    rw [hy' hex, hys' hexs]
termination_by structural xs

theorem exists_expandEntries (entries : List (Value × Value))
    (h : Readable read (thingsEntries entries)) :
    ∃ es, expandEntries read entries = .ok es ∧ (thingsEntries entries = [] → es = entries) := by
  match entries with
  | [] => exact ⟨[], rfl, fun _ => rfl⟩
  | (k, v) :: entries =>
    simp only [thingsEntries, readable_append] at h
    obtain ⟨hk, hv, hentries⟩ := h
    obtain ⟨k', hk', hkc⟩ := exists_expand k hk
    obtain ⟨w, hw, hwc⟩ := exists_expand v hv
    obtain ⟨es, hes, hesc⟩ := exists_expandEntries entries hentries
    refine ⟨(k', w) :: es, by rw [expandEntries, hk', hw, hes]; rfl, fun he => ?_⟩
    simp only [thingsEntries, List.append_eq_nil_iff] at he
    rw [hkc he.1, hwc he.2.1, hesc he.2.2]
termination_by structural entries

theorem exists_expandFields (fields : List (String × Value))
    (h : Readable read (thingsFields fields)) :
    ∃ fs, expandFields read fields = .ok fs ∧ (thingsFields fields = [] → fs = fields) := by
  match fields with
  | [] => exact ⟨[], rfl, fun _ => rfl⟩
  | (name, v) :: fields =>
    obtain ⟨hv, hfields⟩ := readable_append.mp h
    obtain ⟨w, hw, hwc⟩ := exists_expand v hv
    obtain ⟨fs, hfs, hfsc⟩ := exists_expandFields fields hfields
    refine ⟨(name, w) :: fs, by rw [expandFields, hw, hfs]; rfl, fun he => ?_⟩
    obtain ⟨hev, hefs⟩ := List.append_eq_nil_iff.mp he
    rw [hwc hev, hfsc hefs]
termination_by structural fields

end

/-- A value that holds no thing is its own expansion. -/
theorem expand_closed {v : Value} (h : v.things = []) : v.expand read = .ok v := by
  have hreadable : Readable read v.things := by
    rw [h]
    exact nofun
  obtain ⟨w, hw, hclosed⟩ := exists_expand v hreadable
  rw [hw, hclosed h]

end

theorem below_of_closed {v : Value} (h : v.things = []) (n : Nat) : v.Below n := by
  rw [Below, h]
  exact nofun

/-- Normalization brings no thing into a value. -/
theorem normalize_below {s : Settings} {v w : Value} {n : Nat} (h : v.normalize s = .ok w)
    (hv : v.Below n) : w.Below n := by
  unfold normalize at h
  split at h
  · cases h
    exact below_of_closed rfl n
  · cases h
    exact below_of_closed rfl n
  · split at h <;> cases h <;> exact below_of_closed rfl n
  · cases h
    exact below_of_closed rfl n
  · cases h
    exact below_of_closed rfl n
  · next id _ _ _ _ =>
    obtain rfl : id = w := Except.ok.inj h
    exact fun k hk => hv k (List.mem_append_left _ hk)
  · next id _ =>
    obtain rfl : id = w := Except.ok.inj h
    exact hv
  · next m =>
    cases hm : m.normalText s with
    | error e =>
      rw [hm] at h
      cases h
    | ok text =>
      rw [hm] at h
      cases h
      exact below_of_closed rfl n
  · cases h
    exact below_of_closed rfl n
  · obtain rfl := Except.ok.inj h
    exact hv

end Value

/-! ## What is made of values -/

section

variable {read : Nat → Except Failure Value}

theorem Artifact.exists_expandAll {as : List Artifact}
    (h : ∀ a ∈ as, ∃ b, a.expand read = .ok b) : ∃ bs, expandAll read as = .ok bs := by
  induction as with
  | nil => exact ⟨[], rfl⟩
  | cons a as ih =>
    obtain ⟨ha, has⟩ := List.forall_mem_cons.mp h
    obtain ⟨b, hb⟩ := ha
    obtain ⟨bs, hbs⟩ := ih has
    exact ⟨b :: bs, by rw [expandAll, hb, hbs]; rfl⟩

namespace Constraint

/-- An expanded constraint has the same redacted descriptions: only the value is another. -/
theorem exists_expand {c : Constraint} (h : ∃ v, c.value.expand read = .ok v) :
    ∃ d, c.expand read = .ok d ∧ ∀ s, d.redacted s = c.redacted s := by
  obtain ⟨v, hv⟩ := h
  exact ⟨{ c with value := v }, by rw [expand, hv]; rfl, fun _ => rfl⟩

/-- An artifact holds no other value than its constraint. -/
theorem exists_expand_artifact {c : Constraint} {mode : Mode} {a : Artifact}
    (h : ∃ v, c.value.expand read = .ok v) (ha : c.artifact? mode = some a) :
    ∃ b, a.expand read = .ok b ∧ b.kind = a.kind := by
  obtain ⟨v, hv⟩ := h
  have hterm : (Artifact.term c.field c.value).expand read = .ok (.term c.field v) := by
    rw [Artifact.expand, hv]
    rfl
  have hrange : ∀ bound, (Artifact.range c.field bound c.value).expand read =
      .ok (.range c.field bound v) := by
    intro bound
    rw [Artifact.expand, hv]
    rfl
  have hmissing : (Artifact.missing c.field).expand read = .ok (.missing c.field) := rfl
  have hanyOf : ∀ bound, (Artifact.anyOf [.range c.field bound c.value, .missing c.field]).expand
      read = .ok (.anyOf [.range c.field bound v, .missing c.field]) := by
    intro bound
    simp only [Artifact.expand, Artifact.expandAll, hv]
    rfl
  cases mode with
  | query =>
    simp only [artifact?, query?] at ha
    repeat' split at ha
    all_goals cases ha
    · exact ⟨_, hterm, rfl⟩
    · exact ⟨_, hrange _, rfl⟩
  | filter =>
    simp only [artifact?, filter?] at ha
    repeat' split at ha
    all_goals cases ha
    · exact ⟨_, hmissing, rfl⟩
    · exact ⟨_, hterm, rfl⟩
    · exact ⟨_, hanyOf _, rfl⟩
    · exact ⟨_, hrange _, rfl⟩

theorem exists_mapM_expand {cs : List Constraint} (h : ∀ c ∈ cs, ∃ v, c.value.expand read = .ok v) :
    ∃ ds, cs.mapM (expand read) = .ok ds ∧
      ∀ s, ds.map (redacted s) = cs.map (redacted s) := by
  induction cs with
  | nil => exact ⟨[], rfl, fun _ => rfl⟩
  | cons c cs ih =>
    obtain ⟨hc, hcs⟩ := List.forall_mem_cons.mp h
    obtain ⟨d, hd, hshown⟩ := exists_expand hc
    obtain ⟨ds, hds, hshowns⟩ := ih hcs
    refine ⟨d :: ds, ?_, fun s => ?_⟩
    · rw [List.mapM_cons, hd, hds]
      rfl
    · rw [List.map_cons, List.map_cons, hshown, hshowns]

end Constraint

/-- An expanded composite has the same redacted descriptions. -/
theorem Composite.exists_expand_combine {cs : List Constraint}
    (h : ∀ c ∈ cs, ∃ v, c.value.expand read = .ok v) :
    ∃ d, (combine cs).expand read = .ok d ∧ ∀ s, d.redacted s = (combine cs).redacted s := by
  have hartifacts : ∀ mode, ∃ bs,
      Artifact.expandAll read (cs.filterMap (Constraint.artifact? · mode)) = .ok bs := by
    intro mode
    refine Artifact.exists_expandAll fun a ha => ?_
    obtain ⟨c, hc, hca⟩ := List.mem_filterMap.mp ha
    obtain ⟨b, hb, -⟩ := Constraint.exists_expand_artifact (h c hc) hca
    exact ⟨b, hb⟩
  have hqueries : ∃ bs, Artifact.expandAll read (combine cs).queries = .ok bs := hartifacts .query
  have hfilters : ∃ bs, Artifact.expandAll read (combine cs).filters = .ok bs := hartifacts .filter
  obtain ⟨queries, hqueries⟩ := hqueries
  obtain ⟨filters, hfilters⟩ := hfilters
  obtain ⟨ds, hds, hshown⟩ := Constraint.exists_mapM_expand h
  have hconstraints : (combine cs).constraints.mapM (Constraint.expand read) = .ok ds := hds
  refine ⟨⟨ds, queries, filters⟩, ?_, fun s => congrArg (" AND ".intercalate ·) (hshown s)⟩
  rw [expand, hqueries, hfilters, hconstraints]

end

/-! ## Sessions -/

namespace Session

/-- Every thing can be shown once those of smaller numbers can be read. -/
def Grounded (s : Session) : Prop :=
  ∀ number thing, s.things[number]? = some thing → ∀ read : Nat → Except Failure Value,
    (∀ k < number, ∃ v, read k = .ok v) → ∃ v, thing.value s.settings read number = .ok v

theorem Grounded.valueWithin {s : Session} (h : s.Grounded) {depth number : Nat}
    (hdepth : number < depth) : ∃ v, s.valueWithin depth number = .ok v := by
  induction depth generalizing number with
  | zero => exact absurd hdepth (Nat.not_lt_zero _)
  | succ depth ih =>
    unfold Session.valueWithin
    cases hthing : s.things[number]? with
    | none => exact ⟨.null, rfl⟩
    | some thing =>
      exact h number thing hthing _ fun k hk => ih (by omega)

/-- In a grounded session every thing can be read. -/
theorem Grounded.read {s : Session} (h : s.Grounded) {number : Nat}
    (hnumber : number < s.things.length) : ∃ v, s.read number = .ok v :=
  h.valueWithin (by omega)

/-- In a grounded session every value can be expanded that holds only things of the session. -/
theorem Grounded.expand {s : Session} (h : s.Grounded) {v : Value}
    (hv : v.Below s.things.length) : ∃ w, v.expand s.read = .ok w := by
  obtain ⟨w, hw, -⟩ := v.exists_expand fun k hk => h.read (hv k hk)
  exact ⟨w, hw⟩

end Session

end FieldQuery
