import FieldQuery.Proofs.Constraint.Meaning
import FieldQuery.Proofs.Value.Native

/-!
# Constraints come back from their dumps

What is modelled. A constraint is dumped as a value, with its bound as a member, or plain, as data
that can be written. A dump is validated like any other data, so everything that made the constraint
is done a second time: the field is checked and mapped, the value normalized, the flags and the
bound read.

What is proved. What makes this harmless, part by part: a field that was mapped to the identity
field is mapped to it again or left alone (`Constraint.checkField_again`), a native value is its own
normal form, an absent value is dumped as nothing, which is normalized to the marker, and flags,
bound and kind are read as what they are. So a constraint that a factory made, refined in any way,
comes back from both forms of its dump, and from any JSON text that writes the plain one
(`Constraint.comes_back`).

The identity field is taken not to be empty: the check would refuse it. Left out are values that
written data cannot carry as they are, such as tuples, members and moments.
-/

namespace FieldQuery

namespace Constraint

/-! ## Fields -/

theorem mapIdentity_again {s : Settings} {variant : Variant} {field name : String}
    (h : mapIdentity s variant field = .ok name) : mapIdentity s variant name = .ok name := by
  cases variant with
  | range => rfl
  | equal =>
    unfold mapIdentity at h ⊢
    cases hentity : s.entityIdField with
    | none => simp [hentity] at h
    | some entityId =>
      simp only [hentity] at h ⊢
      split at h
      · -- the field was mapped: its new name is the identity field, whether that maps or not
        cases hid : s.idField with
        | none => simp [hid] at h
        | some id =>
          simp only [hid] at h ⊢
          obtain rfl : id = name := Except.ok.inj h
          split <;> rfl
      · next hother =>
        obtain rfl : field = name := Except.ok.inj h
        rw [if_neg hother]

theorem mapIdentity_ne_empty {s : Settings} {variant : Variant} {field name : String}
    (hid : s.idField ≠ some "") (hfield : field ≠ "")
    (h : mapIdentity s variant field = .ok name) : name ≠ "" := by
  cases variant with
  | range => exact Except.ok.inj h ▸ hfield
  | equal =>
    unfold mapIdentity at h
    cases hentity : s.entityIdField with
    | none => simp [hentity] at h
    | some entityId =>
      simp only [hentity] at h
      split at h
      · cases hs : s.idField with
        | none => simp [hs] at h
        | some id =>
          simp only [hs] at h
          obtain rfl : id = name := Except.ok.inj h
          intro hempty
          exact hid (by rw [hs, hempty])
      · exact Except.ok.inj h ▸ hfield

theorem checkField_str (s : Settings) (variant : Variant) {name : String} (h : name ≠ "") :
    checkField s variant (some (.str name)) = (mapIdentity s variant name).map .ok := by
  have htext : Checked.text (.str name) = .ok name := rfl
  simp only [checkField, htext, if_neg h]

/-- What a field was mapped to is taken for a field again, and stays what it is. -/
theorem checkField_again {s : Settings} {variant : Variant} {field : Option Value} {name : String}
    (hid : s.idField ≠ some "") (h : checkField s variant field = .ok (.ok name)) :
    checkField s variant (some (.str name)) = .ok (.ok name) := by
  unfold checkField at h
  cases field with
  | none => simp at h
  | some v =>
    cases htext : Checked.text v with
    | error fault => simp [htext] at h
    | ok given =>
      simp only [htext] at h
      split at h
      · cases h
      · next hgiven =>
        cases hmap : mapIdentity s variant given with
        | error e =>
          rw [hmap] at h
          cases h
        | ok mapped =>
          rw [hmap] at h
          obtain rfl : mapped = name := Except.ok.inj (Except.ok.inj h)
          rw [checkField_str s variant (mapIdentity_ne_empty hid hgiven hmap),
            mapIdentity_again hmap]
          rfl

/-! ## Making and refining -/

theorem checkComparison_variant {variant : Variant} {get : String → Option Value} {k : Comparison}
    (h : checkComparison variant get = .ok k) (field : String) (value : Value) (asFilter : Bool) :
    (Constraint.mk field value asFilter k).variant = variant := by
  cases variant <;> simp only [checkComparison] at h <;> split at h <;> cases h <;> rfl

/-- The field and the kind of a constraint are what its check found. -/
theorem check_inv {s : Settings} {variant : Variant} {get : String → Option Value}
    {c : Constraint} (h : check s variant get = .ok c) :
    c.variant = variant ∧ checkField s variant (get "field") = .ok (.ok c.field) := by
  unfold check at h
  cases hfield : checkField s variant (get "field") with
  | error e => simp [hfield] at h
  | ok field =>
    cases hvalue : checkValue s (get "value") with
    | error e => simp [hfield, hvalue] at h
    | ok value =>
      simp only [hfield, hvalue] at h
      split at h
      · next name asFilter k _ _ hk =>
        obtain rfl := Except.ok.inj h
        exact ⟨checkComparison_variant hk _ _ _, rfl⟩
      · cases h

theorem refine_inv {c c' : Constraint} {call : Refinement} (h : c.refine call = .ok c') :
    c'.field = c.field ∧ c'.variant = c.variant := by
  obtain ⟨field, value, asFilter, k⟩ := c
  cases call <;> cases k <;> cases h <;> exact ⟨rfl, rfl⟩

theorem refineAll_inv {c c' : Constraint} {calls : List Refinement}
    (h : c.refineAll calls = .ok c') : c'.field = c.field ∧ c'.variant = c.variant := by
  induction calls generalizing c with
  | nil =>
    obtain rfl : c = c' := Except.ok.inj h
    exact ⟨rfl, rfl⟩
  | cons call calls ih =>
    rw [refineAll_cons] at h
    cases hcall : c.refine call with
    | error e =>
      rw [hcall] at h
      cases h
    | ok c₁ =>
      rw [hcall] at h
      obtain ⟨hfield, hvariant⟩ := ih h
      obtain ⟨hfield₁, hvariant₁⟩ := refine_inv hcall
      exact ⟨hfield.trans hfield₁, hvariant.trans hvariant₁⟩

end Constraint

/-- A constraint that a factory made, however refined, has a field that is taken for a field again
and stays what it is. -/
theorem Factory.field_again {f : Factory} {s : Settings} {field value : Value} {c₀ c : Constraint}
    {calls : List Refinement} (hid : s.idField ≠ some "") (hmake : f.make s field value = .ok c₀)
    (hcalls : c₀.refineAll calls = .ok c) :
    Constraint.checkField s c.variant (some (.str c.field)) = .ok (.ok c.field) := by
  have hmade : ∃ variant get, Constraint.check s variant get = .ok c₀ := by
    cases f <;> exact ⟨_, _, hmake⟩
  obtain ⟨variant, get, hcheck⟩ := hmade
  obtain ⟨hvariant, hfield⟩ := Constraint.check_inv hcheck
  obtain ⟨hfield', hvariant'⟩ := Constraint.refineAll_inv hcalls
  rw [hfield', hvariant', hvariant]
  exact Constraint.checkField_again hid hfield

namespace Constraint

/-! ## Dumps -/

/-- Data that gives every part of a constraint is checked into that constraint. -/
theorem check_given {s : Settings} {get : String → Option Value} {c : Constraint}
    (hfield : checkField s c.variant (get "field") = .ok (.ok c.field))
    (hvalue : checkValue s (get "value") = .ok c.value)
    (hmode : get "as_filter_mode" = some (.bool c.asFilter))
    (hkind : get "kind" = some (.str c.variant.tag))
    (hcomparison : checkComparison c.variant get = .ok c.comparison) :
    check s c.variant get = .ok c := by
  have hflag : Checked.flag (some (.bool c.asFilter)) = .ok c.asFilter := rfl
  have htag : Checked.tag c.variant (some (.str c.variant.tag)) = .ok () := if_pos rfl
  simp only [check, hfield, hvalue, hmode, hkind, hcomparison, hflag, htag]

/-- Looking a text up in a dict of named values finds what is given under that name. -/
theorem lookupText_object (fields : List (String × Value)) (name : String) :
    Value.lookupText name (fields.map Value.entryOf) = given fields name := by
  unfold Value.lookupText given
  rw [List.find?_map, Option.map_map]
  rfl

/-- A dict of named values is checked as the kind that it gives. -/
theorem ofTaggedValue_object (s : Settings) (fields : List (String × Value)) :
    ofTaggedValue s (.object fields) =
      ofTag (given fields "kind") fun variant => check s variant (given fields) := by
  have hlookup : (fun name => Value.lookupText name (fields.map Value.entryOf)) = given fields :=
    funext (lookupText_object fields)
  rw [Value.object_eq, ofTaggedValue, lookupText_object]
  simp only [ofEntries, hlookup]

theorem checkComparison_range {get : String → Option Value} {v : Value} {b : Bound} {flag : Bool}
    (hbound : get "bound" = some v) (hv : Checked.bound (some v) = .ok b)
    (hflag : get "match_if_absent" = some (.bool flag)) :
    checkComparison .range get = .ok (.range b flag) := by
  have hread : Checked.flag (some (.bool flag)) = .ok flag := rfl
  simp only [checkComparison, hbound, hv, hflag, hread]

/-- A dump comes back as its constraint, in whatever form the value and the bound stand in it, as
long as they are read as what they are. -/
theorem ofTaggedValue_dumpWith {s : Settings} {c : Constraint} {value : Value}
    {bound : Bound → Value}
    (hfield : checkField s c.variant (some (.str c.field)) = .ok (.ok c.field))
    (hvalue : value.normalize s = .ok c.value)
    (hbound : ∀ b, Checked.bound (some (bound b)) = .ok b) :
    ofTaggedValue s (c.dumpWith value bound) = .ok c := by
  have hvalue' : checkValue s (some value) = .ok c.value := hvalue
  obtain ⟨field, v, asFilter, k⟩ := c
  rw [dumpWith, ofTaggedValue_object]
  cases k with
  | equal ignoreAbsent =>
    exact congrArg (underTag .equal)
      (check_given (c := ⟨field, v, asFilter, .equal ignoreAbsent⟩) hfield hvalue' rfl rfl rfl)
  | range b matchIfAbsent =>
    exact congrArg (underTag .range)
      (check_given (c := ⟨field, v, asFilter, .range b matchIfAbsent⟩) hfield hvalue' rfl rfl
        (checkComparison_range rfl (hbound b) rfl))

theorem bound_member (b : Bound) : Checked.bound (some (.member b.member)) = .ok b := by
  cases b <;> rfl

theorem bound_text (b : Bound) : Checked.bound (some (.str b.text)) = .ok b := by
  cases b <;> rfl

/-- Whether written data can carry the value of a constraint: it is absent, or native and there. -/
def Portable (c : Constraint) : Prop := c.value = .absent ∨ c.value.Native ∧ c.value ≠ .null

/-- The value as both dumps write it is normalized to the value. -/
theorem Portable.written {c : Constraint} (h : c.Portable) : ∃ v : Value,
    c.dump = c.dumpWith v (fun b => .member b.member) ∧
    c.dumpPlain = .ok (c.dumpWith v fun b => .str b.text) ∧
    ∀ s, v.normalize s = .ok c.value := by
  unfold dump dumpPlain
  obtain habsent | ⟨hnative, hthere⟩ := h
  · exact ⟨.null, by rw [habsent]; rfl, by rw [habsent]; rfl, fun _ => by rw [habsent]; rfl⟩
  · rw [hnative.isAbsent hthere]
    refine ⟨c.value, ?_, ?_, fun s => hnative.normalize s hthere⟩
    · rw [hnative.dumped]
      rfl
    · rw [hnative.plain]
      rfl

theorem Portable.same_self {c : Constraint} (h : c.Portable) : c.same c = true := by
  have hvalue : c.value.same c.value = true := by
    obtain habsent | ⟨hnative, -⟩ := h
    · rw [habsent]
      rfl
    · exact hnative.same_self
  simp only [same, hvalue, beq_self_eq_true, Bool.and_self]

/-- The plain form of a constraint is a dict, so it is validated by the kind that it gives. -/
theorem restore_dumpWith (s : Settings) (c : Constraint) (value : Value) (bound : Bound → Value) :
    restore s (c.dumpWith value bound) = ofTaggedValue s (c.dumpWith value bound) := rfl

/-- A constraint that a factory made and that was then refined in any way comes back from its dump
of values and from its plain dump, and so from any text that writes the latter. What comes back is
the constraint itself: its kind, its field, its value, its bound and its flags. -/
theorem comes_back {s : Settings} {f : Factory} {field value : Value} {c₀ c : Constraint}
    {calls : List Refinement} (hid : s.idField ≠ some "") (hmake : f.make s field value = .ok c₀)
    (hcalls : c₀.refineAll calls = .ok c) (hvalue : c.Portable) :
    c.same c = true ∧ revive s c.dump = .ok c ∧
      ∃ plain, c.dumpPlain = .ok plain ∧ restore s plain = .ok c ∧
        ∀ text, Json.parse text = some plain → validateJson s none text = .ok c := by
  have hfield := Factory.field_again hid hmake hcalls
  obtain ⟨v, hdump, hplain, hnormal⟩ := hvalue.written
  have hrestore : restore s (c.dumpWith v fun b => .str b.text) = .ok c := by
    rw [restore_dumpWith]
    exact ofTaggedValue_dumpWith hfield (hnormal s) bound_text
  refine ⟨hvalue.same_self, ?_, _, hplain, hrestore, fun text hparse => ?_⟩
  · rw [revive, hdump]
    exact ofTaggedValue_dumpWith hfield (hnormal s) bound_member
  · rw [validateJson, hparse]
    exact hrestore

/-- The statement at two attributes that are equal but for the case of their letters, so that the
field is mapped to the identity field when the constraint is made and again when it comes back, and
at a range over an absent value. -/
theorem comes_back_mapped :
    let s : Settings := { idField := some "ID", entityIdField := some "iD" }
    let value : Value := .list [.null, .object [("b", .bool true), ("a", .int (-1))]]
    let c : Constraint := ⟨"ID", value, true, .equal true⟩
    let d : Constraint := ⟨"n", .absent, true, .range .lte true⟩
    Factory.equal.make s (.str "id") value = .ok ⟨"ID", value, false, .equal false⟩ ∧
      revive s c.dump = .ok c ∧
      validateJson s none ("\x7b\"field\":\"ID\",\"value\":[null,\x7b\"b\":true,\"a\":-1\x7d]," ++
        "\"as_filter_mode\":true,\"kind\":\"equal\",\"ignore_absent\":true\x7d") = .ok c ∧
      revive s d.dump = .ok d := by
  intro s value c d
  have hid : s.idField ≠ some "" := by decide
  have hmake : Factory.equal.make s (.str "id") value =
      .ok ⟨"ID", value, false, .equal false⟩ := rfl
  have hnative : value.Native := by
    refine .list fun x hx => ?_
    obtain rfl | rfl : x = .null ∨ x = _ := by simpa [value] using hx
    · exact .null
    · refine Value.Native.object (by decide) fun f hf => ?_
      obtain rfl | rfl : f = _ ∨ f = _ := by simpa using hf
      · exact .bool true
      · exact Value.Native.int (-1)
  have hcalls : refineAll ⟨"ID", value, false, .equal false⟩ [.asFilter, .ignoreAbsentValues] =
      .ok c := rfl
  obtain ⟨-, hrevive, plain, hplain, -, hjson⟩ :=
    comes_back hid hmake hcalls (.inr ⟨hnative, nofun⟩)
  obtain rfl : plain = _ := (Except.ok.inj hplain).symm
  have hmake' : Factory.lessThan.make s (.str "n") .null =
      .ok ⟨"n", .absent, false, .range .lt false⟩ := rfl
  have hcalls' : refineAll ⟨"n", .absent, false, .range .lt false⟩
      [.orEmpty, .including, .including] = .ok d := rfl
  obtain ⟨-, hrange, -⟩ := comes_back hid hmake' hcalls' (.inl rfl)
  refine ⟨hmake, hrevive, hjson _ ?_, hrange⟩
  simp only [Json.parse, String.reduceToList, String.reduceAppend]
  rfl

end Constraint

end FieldQuery
