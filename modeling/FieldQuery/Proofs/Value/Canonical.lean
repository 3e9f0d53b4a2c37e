import FieldQuery.Proofs.Number.Exact
import FieldQuery.Proofs.Value.Native
import Mathlib.Data.List.Sort
import Mathlib.Data.String.Basic

/-!
# Values with one spelling

What is modelled. Equality looks through the spelling of a value: numbers of all formats are equal
when they are the same number, a dict's entries may stand in any order, a member may act as its
text, and a moment may be tied to the line of time in another way. A canonical value leaves equality
nothing to look through (`Value.Canonical`). All its numbers are of one kind, in which every number
is written in one way, and dicts are sorted by their keys.

What is proved. Equal canonical values are identical (`Value.Canonical.eq_of_same`). Numbers are the
base of the induction: within one kind a number is known by its value. For dicts, two sorted lists
of entries that hold the same entries are the same list.

There are as many ways to be canonical as there are kinds of numbers; which one it is does not
matter as long as it is the same for all values that are compared. What is no number equals nothing,
and the negative zero equals the other one; both are left out.
-/

namespace FieldQuery

/-! ## Kinds of numbers -/

/-- The formats that numbers come in. Decimals are told apart by their exponent, as amounts with so
many places are. -/
inductive NumberKind where
  | truth
  | whole
  | binary
  | fraction
  | decimal (exponent : Int)

/-- A number of the kind; what is no number and the negative zero are left out. -/
inductive NumberKind.Has : NumberKind → Value → Prop
  | truth (b : Bool) : Has .truth (.bool b)
  | whole (n : Int) : Has .whole (.int n)
  | binary {x : Binary64} (number : x.isNaN = false)
      (unsigned : x.isZero = true → x.negative = false) : Has .binary (.float x)
  | fraction (q : Rat) : Has .fraction (.fraction q)
  | decimal {exponent : Int} {x : Numeral} (places : x.exponent = exponent)
      (unsigned : x.coefficient = 0 → x.negative = false) :
      Has (.decimal exponent) (.decimal (.finite x))

theorem Binary64.eq_of_ofBinary_eq {x y : Binary64} (hx : x.isNaN = false) (hy : y.isNaN = false)
    (hxz : x.isZero = true → x.negative = false) (hyz : y.isZero = true → y.negative = false)
    (h : Quantity.ofBinary x = Quantity.ofBinary y) : x = y := by
  unfold Quantity.ofBinary at h
  rw [hx, hy] at h
  simp only [Bool.false_eq_true, if_false] at h
  split at h <;> split at h
  · next hxi hyi =>
    rw [eq_infinity_of_isInfinite hxi, eq_infinity_of_isInfinite hyi, Quantity.infinite.inj h]
  · cases h
  · cases h
  · exact eq_of_toRat_eq hxz hyz (Quantity.exact.inj h)

namespace NumberKind.Has

variable {κ : NumberKind} {v w : Value}

theorem quantity (h : κ.Has v) : ∃ q, v.quantity? = some q := by
  cases h <;> exact ⟨_, rfl⟩

/-- Within one kind a number has one spelling. -/
theorem eq_of_quantity_eq (hv : κ.Has v) (hw : κ.Has w) (h : v.quantity? = w.quantity?) :
    v = w := by
  cases hv with
  | truth b =>
    cases hw with
    | truth c =>
      have h : (if b then (1 : Rat) else 0) = if c then 1 else 0 :=
        Quantity.exact.inj (Option.some.inj h)
      cases b <;> cases c <;> simp at h ⊢
  | whole n =>
    cases hw with
    | whole m =>
      have h : (n : Rat) = m := Quantity.exact.inj (Option.some.inj h)
      rw [Rat.intCast_inj.mp h]
  | binary number unsigned =>
    cases hw with
    | binary number' unsigned' =>
      rw [Binary64.eq_of_ofBinary_eq number number' unsigned unsigned' (Option.some.inj h)]
  | fraction q =>
    cases hw with
    | fraction r =>
      rw [Quantity.exact.inj (Option.some.inj h)]
  | decimal places unsigned =>
    cases hw with
    | decimal places' unsigned' =>
      have h := Quantity.exact.inj (Option.some.inj h)
      rw [Decimal.eq_of_ratOfNumeral_eq (places.trans places'.symm) unsigned unsigned' h]

end NumberKind.Has

namespace Value

/-! ## Canonical values -/

/-- Numbers are of the given kind, members neither texts nor numbers, times and moments bare of any
offset, and dicts have texts for keys, in their order. -/
inductive Canonical (κ : NumberKind) : Value → Prop
  | null : Canonical κ .null
  | absent : Canonical κ .absent
  | number {v : Value} (h : κ.Has v) : Canonical κ v
  | str (s : String) : Canonical κ (.str s)
  | bytes (bs : List UInt8) : Canonical κ (.bytes bs)
  | uuid (u : Uuid) : Canonical κ (.uuid u)
  | date (d : Date) : Canonical κ (.date d)
  | time (t : TimeOfDay) : Canonical κ (.time t none)
  | moment (c : Civil) : Canonical κ (.moment ⟨c, false, .none⟩)
  | member {m : Member} (quantity : (Value.member m : Value).quantity? = none)
      (text : (Value.member m : Value).text? = none) : Canonical κ (.member m)
  | list {xs : List Value} (h : ∀ x ∈ xs, Canonical κ x) : Canonical κ (.list xs)
  | tuple {xs : List Value} (h : ∀ x ∈ xs, Canonical κ x) : Canonical κ (.tuple xs)
  | object {fields : List (String × Value)} (sorted : fields.Pairwise fun f g => f.1 < g.1)
      (h : ∀ f ∈ fields, Canonical κ f.2) : Canonical κ (.object fields)
  | reference {id : Value} (h : Canonical κ id) : Canonical κ (.reference id)

namespace Canonical

variable {κ : NumberKind} {v w : Value}

theorem has_of_quantity {q : Quantity} (h : Canonical κ v) (hq : v.quantity? = some q) :
    κ.Has v := by
  cases h with
  | number h => exact h
  | member quantity _ =>
    rw [quantity] at hq
    cases hq
  | _ => cases hq

theorem eq_str_of_text {s : String} (h : Canonical κ v) (ht : v.text? = some s) : v = .str s := by
  cases h with
  | number h => cases h <;> cases ht
  | str t => rw [Option.some.inj ht]
  | member _ text =>
    rw [text] at ht
    cases ht
  | _ => cases ht

theorem time_offset {t : TimeOfDay} {o : Option Int} (h : Canonical κ (.time t o)) : o = none := by
  cases h with
  | number h => cases h
  | time _ => rfl

theorem moment_civil {m : Moment} (h : Canonical κ (.moment m)) :
    ∃ c, m = ⟨c, false, .none⟩ := by
  cases h with
  | number h => cases h
  | moment c => exact ⟨c, rfl⟩

theorem of_list {xs : List Value} (h : Canonical κ (.list xs)) : ∀ x ∈ xs, Canonical κ x := by
  cases h with
  | number h => cases h
  | list h => exact h

theorem of_tuple {xs : List Value} (h : Canonical κ (.tuple xs)) : ∀ x ∈ xs, Canonical κ x := by
  cases h with
  | number h => cases h
  | tuple h => exact h

theorem of_reference {id : Value} (h : Canonical κ (.reference id)) : Canonical κ id := by
  cases h with
  | number h => cases h
  | reference h => exact h

theorem of_dict {entries : List (Value × Value)} (h : Canonical κ (.dict entries)) :
    ∃ fields : List (String × Value), entries = fields.map entryOf ∧
      (fields.Pairwise fun f g => f.1 < g.1) ∧ ∀ f ∈ fields, Canonical κ f.2 := by
  generalize hentries : Value.dict entries = v at h
  cases h with
  | number h => cases h <;> cases hentries
  | object sorted h => exact ⟨_, Value.dict.inj hentries, sorted, h⟩
  | _ => cases hentries

/-- What is left of equality among canonical values without members of their own. -/
theorem eq_of_sameScalar (hv : Canonical κ v) (hw : Canonical κ w) (h : sameScalar v w = true) :
    v = w := by
  unfold sameScalar at h
  split at h
  · next p q hp hq =>
    have hpq : p = q := of_decide_eq_true h
    exact (hv.has_of_quantity hp).eq_of_quantity_eq (hw.has_of_quantity hq)
      (hp.trans (hpq ▸ hq.symm))
  · cases h
  · cases h
  · split at h
    · next s t hs ht =>
      rw [hv.eq_str_of_text hs, hw.eq_str_of_text ht, eq_of_beq h]
    · cases h
    · cases h
    · -- two of one kind, in the order of the kinds in `sameScalar`
      split at h
      · rfl
      · rfl
      · cases ‹Texts.unicode = .codePoints›
      · rw [eq_of_beq h]
      · rw [of_decide_eq_true h]
      · rw [of_decide_eq_true h]
      · next t o t' o' _ _ _ _ =>
        obtain rfl := hv.time_offset
        obtain rfl := hw.time_offset
        have ht : t = t' := of_decide_eq_true h
        rw [ht]
      · next m n _ _ _ _ =>
        obtain ⟨c, rfl⟩ := hv.moment_civil
        obtain ⟨d, rfl⟩ := hw.moment_civil
        have hcd : c = d := of_decide_eq_true h
        rw [hcd]
      · rw [of_decide_eq_true h]
      · cases hv with
        | number h => cases h
      · cases hv with
        | number h => cases h
      · cases h

/-! ## Containers -/

theorem eq_of_sameAll {xs ys : List Value} (hys : ∀ y ∈ ys, Canonical κ y)
    (h : ∀ x ∈ xs, ∀ y, Canonical κ y → same x y = true → x = y) (hsame : sameAll xs ys = true) :
    xs = ys := by
  induction xs generalizing ys with
  | nil => exact (List.isEmpty_iff.mp hsame).symm
  | cons x xs ih =>
    cases ys with
    | nil => cases hsame
    | cons y ys =>
      rw [sameAll, Bool.and_eq_true] at hsame
      obtain ⟨hy, hys⟩ := List.forall_mem_cons.mp hys
      obtain ⟨hx, hxs⟩ := List.forall_mem_cons.mp h
      rw [hx y hy hsame.1, ih hys hxs hsame.2]

/-- The partner of an entry with a text for its key has that key. -/
theorem partner_of_sameEntries {fields fields' : List (String × Value)}
    (hsame : sameEntries (fields.map entryOf) (fields'.map entryOf) = true) :
    ∀ f ∈ fields, ∃ g ∈ fields', f.1 = g.1 ∧ same f.2 g.2 = true := by
  induction fields with
  | nil =>
    intro f hf
    exact absurd hf List.not_mem_nil
  | cons f fields ih =>
    rw [List.map_cons, entryOf, sameEntries, Bool.and_eq_true, List.any_map, List.any_eq_true]
      at hsame
    obtain ⟨⟨g, hg, hfg⟩, hrest⟩ := hsame
    refine List.forall_mem_cons.mpr ⟨⟨g, hg, ?_⟩, ih hrest⟩
    have hfg : ((f.1 == g.1) && same f.2 g.2) = true := hfg
    rw [Bool.and_eq_true, beq_iff_eq] at hfg
    exact hfg

/-- As many fields, all of them among the others, are the others when both are in order. -/
theorem eq_of_sorted {fields fields' : List (String × Value)}
    (sorted : fields.Pairwise fun f g => f.1 < g.1)
    (sorted' : fields'.Pairwise fun f g => f.1 < g.1)
    (hlength : fields.length = fields'.length) (hsub : fields ⊆ fields') : fields = fields' := by
  have hnodup : fields.Nodup := by
    refine sorted.imp fun hlt heq => ?_
    rw [heq] at hlt
    exact lt_irrefl _ hlt
  have hperm : fields.Perm fields' :=
    (List.subperm_of_subset hnodup hsub).perm_of_length_le hlength.ge
  refine hperm.eq_of_pairwise (fun f g _ _ hfg hgf => ?_) sorted sorted'
  exact absurd (hfg.trans hgf) (lt_irrefl _)

/-- Equal canonical values are identical. -/
theorem eq_of_same (hv : Canonical κ v) (hw : Canonical κ w) (h : same v w = true) : v = w := by
  induction hv generalizing w with
  | list hxs ih =>
    cases w with
    | list ys => rw [eq_of_sameAll hw.of_list (fun x hx y hy => ih x hx hy) h]
    | _ => cases h
  | tuple hxs ih =>
    cases w with
    | tuple ys => rw [eq_of_sameAll hw.of_tuple (fun x hx y hy => ih x hx hy) h]
    | _ => cases h
  | @object fields sorted hfields ih =>
    cases w with
    | dict entries =>
      obtain ⟨fields', rfl, sorted', hfields'⟩ := hw.of_dict
      rw [object_eq, same, Bool.and_eq_true, List.length_map, List.length_map, beq_iff_eq] at h
      obtain ⟨hlength, hentries⟩ := h
      -- the partner of a field has its name and, by induction, its value, so it is the field
      have hsub : fields ⊆ fields' := by
        intro f hf
        obtain ⟨g, hg, hname, hvalue⟩ := partner_of_sameEntries hentries f hf
        have hfg : f = g := Prod.ext hname (ih f hf (hfields' g hg) hvalue)
        rwa [hfg]
      rw [object_eq, eq_of_sorted sorted sorted' hlength hsub]
    | _ => cases h
  | reference hid ih =>
    cases w with
    | reference id => rw [ih hw.of_reference h]
    | _ => cases h
  | @number x hx =>
    have hscalar : same x w = sameScalar x w := by cases hx <;> rfl
    exact eq_of_sameScalar (.number hx) hw (hscalar ▸ h)
  | null => exact eq_of_sameScalar .null hw h
  | absent => exact eq_of_sameScalar .absent hw h
  | str s => exact eq_of_sameScalar (.str s) hw h
  | bytes bs => exact eq_of_sameScalar (.bytes bs) hw h
  | uuid u => exact eq_of_sameScalar (.uuid u) hw h
  | date d => exact eq_of_sameScalar (.date d) hw h
  | time t => exact eq_of_sameScalar (.time t) hw h
  | moment c => exact eq_of_sameScalar (.moment c) hw h
  | member quantity text => exact eq_of_sameScalar (.member quantity text) hw h

end Canonical

end Value

end FieldQuery
