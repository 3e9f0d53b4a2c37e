import FieldQuery.Value.HashKey

/-!
# Equal values have equal keys

What is modelled. A value that can be hashed has a key, which is what its hash is computed from:
that of a number depends on its size, that of a text member on its text, and that of a moment on the
instant, which it takes from the earlier reading. Values that differ may share a key.

What is proved. What is the same is hashed alike (`Value.hashKey_same`), number by number and text
by text. Where the reading of a moment matters, moments of different anchors are never the same, so
the choice of the earlier one does no harm.

The exception are records, which are compared by their parts and hashed by how they show; values
that hold one are left out. Values that cannot be hashed have no key.
-/

namespace FieldQuery

/-! ## Moments -/

namespace Moment

/-- Unless the reading matters, the earlier one gives the instant. -/
theorem instant?_early {m : Moment} (h : m.isTwofold = false) :
    { m with fold := false }.instant? = m.instant? := by
  obtain ⟨civil, fold, anchor⟩ := m
  cases fold with
  | false => rfl
  | true =>
    have hoffset := bne_eq_false_iff_eq.mp h
    unfold instant?
    rw [hoffset]
    rfl

theorem instant?_early_eq_none {m : Moment} (h : m.instant? = none) :
    { m with fold := false }.instant? = none := by
  obtain ⟨civil, fold, anchor⟩ := m
  cases anchor with
  | none => rfl
  | silent => rfl
  | offset o => cases h
  | zone z => cases h

end Moment

namespace HashKey

theorem ofMoment_eq_of_same {m n : Moment} (h : m.same n = true) : ofMoment m = ofMoment n := by
  unfold Moment.same at h
  split at h
  · next hanchor =>
    have hcivil : m.civil = n.civil := of_decide_eq_true h
    have hearly : { m with fold := false } = { n with fold := false } := by
      rw [hanchor, hcivil]
    unfold ofMoment
    rw [hearly, hcivil]
  · split at h
    · next hm hn =>
      have hcivil : m.civil = n.civil := of_decide_eq_true h
      unfold ofMoment
      rw [Moment.instant?_early_eq_none hm, Moment.instant?_early_eq_none hn, hcivil]
    · next s t hm hn =>
      rw [Bool.and_eq_true, Bool.and_eq_true, beq_iff_eq, Bool.not_eq_true', Bool.not_eq_true'] at h
      obtain ⟨⟨hst, htwofold⟩, htwofold'⟩ := h
      unfold ofMoment
      rw [Moment.instant?_early htwofold, Moment.instant?_early htwofold', hm, hn, hst]
    · cases h

theorem ofTime_eq_of_same {t t' : TimeOfDay} {o o' : Option Int}
    (h : Value.sameTime t o t' o' = true) : ofTime t o = ofTime t' o' := by
  unfold Value.sameTime at h
  split at h
  · have ht : t = t' := of_decide_eq_true h
    rw [ht]
  · exact congrArg ofSpan (eq_of_beq h)
  · cases h

/-! ## Keys that equal themselves -/

@[simp] theorem same_residue (n : Int) : (residue n).same (residue n) = true :=
  beq_self_eq_true n

@[simp] theorem same_ofInt (n : Int) : (ofInt n).same (ofInt n) = true := same_residue _

@[simp] theorem same_ofBytes (bs : List UInt8) : (ofBytes bs).same (ofBytes bs) = true := by
  cases bs with
  | nil => exact same_ofInt 0
  | cons b bs => exact beq_self_eq_true (b :: bs)

@[simp] theorem same_ofText (s : String) : (ofText s).same (ofText s) = true := same_ofBytes _

@[simp] theorem same_ofSpan (micros : Int) : (ofSpan micros).same (ofSpan micros) = true := by
  simp [ofSpan, same, sameAll]

@[simp] theorem same_ofTime (t : TimeOfDay) (o : Option Int) :
    (ofTime t o).same (ofTime t o) = true := by
  unfold ofTime
  split
  · exact same_ofBytes _
  · exact same_ofSpan _

@[simp] theorem same_ofMoment (m : Moment) : (ofMoment m).same (ofMoment m) = true := by
  unfold ofMoment
  split
  · exact same_ofSpan _
  · exact same_ofBytes _

/-- One thing has one key. -/
theorem same_of_eq {α : Type} {key : α → HashKey} (hself : ∀ a, (key a).same (key a) = true)
    {a b : α} (h : a = b) {k l : HashKey} (hk : (.ok (key a) : Except Failure HashKey) = .ok k)
    (hl : (.ok (key b) : Except Failure HashKey) = .ok l) : k.same l = true := by
  rw [← Except.ok.inj hk, ← Except.ok.inj hl, h]
  exact hself b

/-- The key of a number of some size. -/
def ofQuantity (v : Value) : Quantity → HashKey
  | .exact q => residue (Residue.ofRat q)
  | .infinite negative => residue (Residue.signed negative Residue.infinite)
  | .nan _ => plain v

end HashKey

namespace Value

open HashKey (ofQuantity same_of_eq)

variable {v w : Value} {k l : HashKey}

/-! ## Values without members of their own -/

/-- A number has the key of its size, if it has one. -/
theorem hashKey_of_quantity {q : Quantity} (hq : v.quantity? = some q) (hk : v.hashKey = .ok k) :
    k = ofQuantity v q := by
  have hkey : v.hashKey = .error .unfit ∨ v.hashKey = .ok (ofQuantity v q) := by
    cases v with
    | bool b | int n | fraction r =>
      cases hq
      exact .inr rfl
    | float x =>
      obtain rfl := Option.some.inj hq
      right
      unfold hashKey quantity?
      dsimp only
      cases Quantity.ofBinary x <;> rfl
    | decimal d =>
      obtain rfl := Option.some.inj hq
      cases d with
      | nan n =>
        unfold hashKey
        split
        · exact .inl rfl
        · exact .inr rfl
      | infinite negative => exact .inr rfl
      | finite x => exact .inr rfl
    | member m =>
      cases m with
      | number family name n =>
        cases hq
        exact .inr rfl
      | _ => cases hq
    | _ => cases hq
  rw [hk] at hkey
  rcases hkey with h | h
  · cases h
  · exact Except.ok.inj h

theorem hashKey_of_text {s : String} (hs : v.text? = some s) : v.hashKey = .ok (.ofText s) := by
  cases v with
  | str t =>
    cases hs
    rfl
  | member m =>
    cases m with
    | text family name content =>
      cases hs
      rfl
    | _ => cases hs
  | _ => cases hs

/-- The key of a member equals itself. -/
theorem same_hashKey_member {m : Member} (hk : (Value.member m).hashKey = .ok k) :
    k.same k = true := by
  cases m with
  | plain family name code =>
    obtain rfl := Except.ok.inj hk
    exact HashKey.same_ofText name
  | text family name content =>
    obtain rfl := Except.ok.inj hk
    exact HashKey.same_ofText content
  | number family name n =>
    obtain rfl := Except.ok.inj hk
    exact HashKey.same_residue _
  | flags family parts =>
    obtain rfl := Except.ok.inj hk
    split
    · exact HashKey.same_ofText _
    · rfl

theorem hashKey_sameScalar (hsame : v.same w = true) (h : sameScalar v w = true)
    (hk : v.hashKey = .ok k) (hl : w.hashKey = .ok l) : k.same l = true := by
  unfold sameScalar at h
  split at h
  · next p q hp hq =>
    have hpq : p = q := of_decide_eq_true h
    rw [hashKey_of_quantity hp hk, hashKey_of_quantity hq hl, hpq]
    cases q with
    | exact r => exact HashKey.same_residue _
    | infinite negative => exact HashKey.same_residue _
    | nan stamp => exact hsame
  · cases h
  · cases h
  · split at h
    · next s t hs ht =>
      rw [hashKey_of_text hs] at hk
      rw [hashKey_of_text ht, ← eq_of_beq h] at hl
      rw [← Except.ok.inj hk, ← Except.ok.inj hl]
      exact HashKey.same_ofText s
    · cases h
    · cases h
    · -- two of one kind, in the order of the kinds in `sameScalar`
      split at h
      · rw [← Except.ok.inj hk, ← Except.ok.inj hl]
        exact hsame
      · rw [← Except.ok.inj hk, ← Except.ok.inj hl]
        exact hsame
      · cases ‹Texts.unicode = .codePoints›
      · exact same_of_eq HashKey.same_ofBytes (eq_of_beq h) hk hl
      · exact same_of_eq (fun u : Uuid => HashKey.same_ofInt u.bits.toNat) (of_decide_eq_true h)
          hk hl
      · exact same_of_eq (fun d => HashKey.same_ofBytes (HashKey.storedDate d))
          (of_decide_eq_true h) hk hl
      · rw [← Except.ok.inj hk, ← Except.ok.inj hl, HashKey.ofTime_eq_of_same h]
        exact HashKey.same_ofTime _ _
      · rw [← Except.ok.inj hk, ← Except.ok.inj hl, HashKey.ofMoment_eq_of_same h]
        exact HashKey.same_ofMoment _
      · next m n _ _ _ _ =>
        have hmn : m = n := of_decide_eq_true h
        rw [hmn, hl] at hk
        rw [← Except.ok.inj hk]
        exact same_hashKey_member hl
      · rw [← Except.ok.inj hk, ← Except.ok.inj hl]
        exact hsame
      · rw [← Except.ok.inj hk, ← Except.ok.inj hl]
        exact hsame
      · cases h

/-! ## All values -/

mutual

/-- Whether a record has a say in the key, which leads through tuples and references. -/
def showsRecord : Value → Bool
  | record _ _ _ => true
  | tuple xs => showsRecordAny xs
  | reference id => showsRecord id
  | _ => false
termination_by structural v => v

def showsRecordAny : List Value → Bool
  | [] => false
  | x :: xs => showsRecord x || showsRecordAny xs
termination_by structural xs => xs

end

theorem hashKeys_cons {x : Value} {xs : List Value} {ks : List HashKey}
    (h : hashKeys (x :: xs) = .ok ks) :
    ∃ k ks', x.hashKey = .ok k ∧ hashKeys xs = .ok ks' ∧ ks = k :: ks' := by
  rw [hashKeys] at h
  split at h
  · cases h
  · next k hk =>
    cases hks : hashKeys xs with
    | error e =>
      rw [hks] at h
      cases h
    | ok ks' =>
      rw [hks] at h
      exact ⟨k, ks', hk, rfl, (Except.ok.inj h).symm⟩

theorem hashKey_tuple {xs : List Value} (h : (Value.tuple xs).hashKey = .ok k) :
    ∃ ks, hashKeys xs = .ok ks ∧ k = .sequence ks := by
  rw [hashKey] at h
  cases hks : hashKeys xs with
  | error e =>
    rw [hks] at h
    cases h
  | ok ks =>
    rw [hks] at h
    exact ⟨ks, rfl, (Except.ok.inj h).symm⟩

mutual

/-- Equal values that are hashed without a record have the same key. -/
theorem hashKey_same (v w : Value) (hsame : v.same w = true) (hplain : v.showsRecord = false)
    {k l : HashKey} (hk : v.hashKey = .ok k) (hl : w.hashKey = .ok l) : k.same l = true := by
  cases v with
  | list xs => cases hk
  | dict entries => cases hk
  | entity kind id declared masking further => cases hk
  | record kind shown parts => cases hplain
  | tuple xs =>
    cases w with
    | tuple ys =>
      obtain ⟨ks, hks, rfl⟩ := hashKey_tuple hk
      obtain ⟨ls, hls, rfl⟩ := hashKey_tuple hl
      exact hashKeys_same xs ys hsame hplain hks hls
    | _ => cases hsame
  | reference id =>
    cases w with
    | reference id' => exact hashKey_same id id' hsame hplain hk hl
    | _ => cases hsame
  | _ => exact hashKey_sameScalar hsame hsame hk hl
termination_by structural v

theorem hashKeys_same (xs ys : List Value) (hsame : sameAll xs ys = true)
    (hplain : showsRecordAny xs = false) {ks ls : List HashKey} (hks : hashKeys xs = .ok ks)
    (hls : hashKeys ys = .ok ls) : HashKey.sameAll ks ls = true := by
  match xs, ys with
  | [], [] =>
    cases hks
    cases hls
    rfl
  | [], y :: ys => cases hsame
  | x :: xs, [] => cases hsame
  | x :: xs, y :: ys =>
    rw [sameAll, Bool.and_eq_true] at hsame
    rw [showsRecordAny, Bool.or_eq_false_iff] at hplain
    obtain ⟨k, ks', hk, hks', rfl⟩ := hashKeys_cons hks
    obtain ⟨l, ls', hl, hls', rfl⟩ := hashKeys_cons hls
    rw [HashKey.sameAll, hashKey_same x y hsame.1 hplain.1 hk hl,
      hashKeys_same xs ys hsame.2 hplain.2 hks' hls']
    rfl
termination_by structural xs

end

end Value

end FieldQuery
