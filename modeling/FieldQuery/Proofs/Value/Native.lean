import FieldQuery.Constraint.Dump

/-!
# Native values

The values that written data has itself: nothing, truth values, whole numbers, texts, lists, and
dicts with texts for keys (`Native`). Some statements hold only of those native values whose numbers
and texts have a property; `NativeOf` is the same notion with that property as a parameter, and what
is proved here is proved for all properties at once.

Two kinds of facts follow. A native value equals itself, and entries with different texts for keys
are put into a dict as they are; this holds whatever texts a value may hold. Whatever is done to
values on their way into written data and back leaves a native value as it is: normalization, unless
there is no value, and both forms of dumping; these are operations on values with Unicode texts.

Floating point numbers are left out: written data has them, but not all of them come back as they
were. So are tuples, which come back as lists, and all values that are written as texts.
-/

namespace FieldQuery.Value

variable {texts : Texts}

/-- Whether a value is a text itself. -/
def IsString : Value texts → Prop
  | str _ | surrogates _ _ => True
  | _ => False

/-- Native values, of which all numbers and texts have the property `P`. The keys of a dict are
different texts. -/
inductive NativeOf (P : Value texts → Prop) : Value texts → Prop
  | null : NativeOf P .null
  | bool (b : Bool) : NativeOf P (.bool b)
  | int {n : Int} (h : P (.int n)) : NativeOf P (.int n)
  | str {s : String} (h : P (.str s)) : NativeOf P (.str s)
  | surrogates {allowed : texts = .codePoints} {t : SurrogateText}
      (h : P (.surrogates allowed t)) : NativeOf P (.surrogates allowed t)
  | list {xs : List (Value texts)} (h : ∀ x ∈ xs, NativeOf P x) : NativeOf P (.list xs)
  | dict {entries : List (Value texts × Value texts)}
      (keys : ∀ e ∈ entries, IsString e.1 ∧ P e.1) (names : (entries.map Prod.fst).Nodup)
      (h : ∀ e ∈ entries, NativeOf P e.2) : NativeOf P (.dict entries)

/-- Native values. -/
abbrev Native (v : Value texts) : Prop := NativeOf (fun _ => True) v

/-- A field as an entry of a dict. -/
def entryOf (f : String × Value texts) : Value texts × Value texts := (.str f.1, f.2)

theorem object_eq (fields : List (String × Value texts)) :
    object fields = .dict (fields.map entryOf) := rfl

variable {P : Value texts → Prop}

/-- A dict of named values is native if these are. -/
theorem NativeOf.object {fields : List (String × Value texts)} (words : ∀ s, P (.str s))
    (names : (fields.map Prod.fst).Nodup) (h : ∀ f ∈ fields, NativeOf P f.2) :
    NativeOf P (.object fields) := by
  refine .dict (fun e he => ?_) ?_ fun e he => ?_
  · obtain ⟨f, -, rfl⟩ := List.mem_map.mp he
    exact ⟨trivial, words f.1⟩
  · rw [List.map_map]
    refine List.pairwise_map.mpr ((List.pairwise_map.mp names).imp fun hne heq => hne ?_)
    exact str.inj heq
  · obtain ⟨f, hf, rfl⟩ := List.mem_map.mp he
    exact h f hf

namespace Native

theorem int (n : Int) : Native (.int n : Value texts) := NativeOf.int trivial

theorem str (s : String) : Native (.str s : Value texts) := NativeOf.str trivial

theorem object {fields : List (String × Value texts)} (names : (fields.map Prod.fst).Nodup)
    (h : ∀ f ∈ fields, Native f.2) : Native (.object fields) :=
  NativeOf.object (fun _ => trivial) names h

end Native

/-! ## Equality -/

theorem same_iff_of_isString {a b : Value texts} (ha : IsString a) (hb : IsString b) :
    same a b = true ↔ a = b := by
  cases a with
  | str s =>
    cases b with
    | str t => exact beq_iff_eq.trans ⟨congrArg Value.str, str.inj⟩
    | surrogates _ _ => exact ⟨nofun, nofun⟩
    | _ => cases hb
  | surrogates _ t =>
    cases b with
    | str _ => exact ⟨nofun, nofun⟩
    | surrogates _ u =>
      exact decide_eq_true_iff.trans ⟨fun h => by rw [h], fun h => (surrogates.inj h)⟩
    | _ => cases hb
  | _ => cases ha

theorem sameAll_self (xs : List (Value texts)) (h : ∀ x ∈ xs, same x x = true) :
    sameAll xs xs = true := by
  induction xs with
  | nil => rfl
  | cons x xs ih =>
    rw [sameAll, h x List.mem_cons_self, ih fun y hy => h y (List.mem_cons_of_mem _ hy)]
    rfl

/-- Every entry of a dict is its own partner. -/
theorem sameEntries_subset (es fs : List (Value texts × Value texts)) (hsub : ∀ e ∈ es, e ∈ fs)
    (h : ∀ e ∈ es, same e.1 e.1 = true ∧ same e.2 e.2 = true) : sameEntries es fs = true := by
  induction es with
  | nil => rfl
  | cons e es ih =>
    rw [sameEntries, ih (fun e he => hsub e (List.mem_cons_of_mem _ he))
      (fun e he => h e (List.mem_cons_of_mem _ he)), Bool.and_true, List.any_eq_true]
    obtain ⟨hkey, hvalue⟩ := h e List.mem_cons_self
    exact ⟨e, hsub e List.mem_cons_self, by rw [hkey, hvalue]; rfl⟩

theorem NativeOf.same_self {v : Value texts} (h : NativeOf P v) : same v v = true := by
  induction h with
  | null => rfl
  | bool b => cases b <;> rfl
  | int _ => exact decide_eq_true rfl
  | str _ => exact beq_self_eq_true _
  | surrogates _ => exact decide_eq_true rfl
  | list _ ih => exact sameAll_self _ ih
  | dict keys _ _ ih =>
    rw [same, beq_self_eq_true, Bool.true_and]
    refine sameEntries_subset _ _ (fun _ he => he) fun e he => ⟨?_, ih e he⟩
    exact (same_iff_of_isString (keys e he).1 (keys e he).1).mpr rfl

/-! ## Putting entries into a dict -/

/-- Entries with different texts for keys are put into a dict as they are. -/
theorem foldl_putEntry (done entries : List (Value texts × Value texts))
    (keys : ∀ e ∈ done ++ entries, IsString e.1) (names : ((done ++ entries).map Prod.fst).Nodup) :
    entries.foldl (fun es e => putEntry es e.1 e.2) done = done ++ entries := by
  induction entries generalizing done with
  | nil => rw [List.append_nil]; rfl
  | cons e entries ih =>
    have hnew : (done.any fun g => same g.1 e.1) = false := by
      rw [List.any_eq_false]
      intro g hg heq
      have hkey : g.1 = e.1 := (same_iff_of_isString (keys g (List.mem_append_left _ hg))
        (keys e (List.mem_append_right _ List.mem_cons_self))).mp heq
      rw [List.map_append, List.nodup_append] at names
      exact names.2.2 g.1 (List.mem_map_of_mem hg) e.1 List.mem_cons_self hkey
    have hput : putEntry done e.1 e.2 = done ++ [e] := by
      rw [putEntry, hnew]
      rfl
    have happend : done ++ e :: entries = (done ++ [e]) ++ entries := by
      rw [List.append_assoc, List.singleton_append]
    rw [happend] at keys names ⊢
    rw [List.foldl_cons, hput, ih _ keys names]

theorem dictOf_entries {entries : List (Value texts × Value texts)}
    (keys : ∀ e ∈ entries, IsString e.1) (names : (entries.map Prod.fst).Nodup) :
    dictOf entries = .dict entries :=
  congrArg dict (foldl_putEntry [] entries keys names)

/-! ## Normalization -/

section

variable {P : Value → Prop} {v : Value}

theorem NativeOf.normalize (h : NativeOf P v) (s : Settings) (hv : v ≠ .null) :
    v.normalize s = .ok v := by
  cases h with
  | null => exact absurd rfl hv
  | _ => rfl

theorem NativeOf.isAbsent (h : NativeOf P v) (hv : v ≠ .null) : v.isAbsent = false := by
  cases h with
  | null => exact absurd rfl hv
  | _ => rfl

/-! ## Dumping -/

theorem dumpedAll_eq_self (xs : List Value) (h : ∀ x ∈ xs, dumped x = x) : dumpedAll xs = xs := by
  induction xs with
  | nil => rfl
  | cons x xs ih =>
    rw [dumpedAll, h x List.mem_cons_self, ih fun y hy => h y (List.mem_cons_of_mem _ hy)]

theorem dumpedEntries_eq_self (entries : List (Value × Value))
    (h : ∀ e ∈ entries, dumped e.2 = e.2) : dumpedEntries entries = entries := by
  induction entries with
  | nil => rfl
  | cons e entries ih =>
    obtain ⟨k, v⟩ := e
    have hv : dumped v = v := h (k, v) List.mem_cons_self
    rw [dumpedEntries, hv, ih fun f hf => h f (List.mem_cons_of_mem _ hf)]

theorem NativeOf.dumped (h : NativeOf P v) : v.dumped = v := by
  induction h with
  | list _ ih => rw [Value.dumped, dumpedAll_eq_self _ ih]
  | dict _ _ _ ih => rw [Value.dumped, dumpedEntries_eq_self _ ih]
  | _ => rfl

theorem plainAll_eq (xs : List Value) (h : ∀ x ∈ xs, plain x = .ok x) : plainAll xs = .ok xs := by
  induction xs with
  | nil => rfl
  | cons x xs ih =>
    rw [plainAll, h x List.mem_cons_self, ih fun y hy => h y (List.mem_cons_of_mem _ hy)]

theorem exists_str_of_isString {k : Value} (h : IsString k) : ∃ s, k = .str s := by
  cases k with
  | str s => exact ⟨s, rfl⟩
  | surrogates allowed _ => cases allowed
  | _ => cases h

theorem plainEntries_eq (entries : List (Value × Value)) (keys : ∀ e ∈ entries, IsString e.1)
    (h : ∀ e ∈ entries, plain e.2 = .ok e.2) : plainEntries entries = .ok entries := by
  induction entries with
  | nil => rfl
  | cons e entries ih =>
    obtain ⟨k, v⟩ := e
    obtain ⟨s, rfl⟩ := exists_str_of_isString (keys _ List.mem_cons_self)
    have hv : plain v = .ok v := h (.str s, v) List.mem_cons_self
    rw [plainEntries, jsonKey, hv, ih (fun f hf => keys f (List.mem_cons_of_mem _ hf))
      fun f hf => h f (List.mem_cons_of_mem _ hf)]

theorem NativeOf.plain (h : NativeOf P v) : v.plain = .ok v := by
  induction h with
  | list _ ih =>
    rw [Value.plain, plainAll_eq _ ih]
    rfl
  | dict keys names _ ih =>
    have hkeys := fun e he => (keys e he).1
    rw [Value.plain, plainEntries_eq _ hkeys ih]
    exact congrArg Except.ok (dictOf_entries hkeys names)
  | @surrogates allowed => cases allowed
  | _ => rfl

end

end FieldQuery.Value
