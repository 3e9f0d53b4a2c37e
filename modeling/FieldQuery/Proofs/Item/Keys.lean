import FieldQuery.Comparisons
import FieldQuery.Proofs.Artifact.Meaning
import FieldQuery.Proofs.Value.Canonical
import FieldQuery.Proofs.Value.Keys

/-!
# Equal things and their keys

What is modelled. Constraints and artifacts are compared by their values and hashed by the text of
these. References are hashed by the identity that they are compared by. A set keeps what has no
equal of the same key in it (`Comparisons.insertAll`).

What is proved.
* `Constraint.hashKey_same_iff`, `Artifact.hashKey_same_iff`: two that are equal have the same key
  exactly if their values are spelled alike.
* `Item.spelling_eq_of_same`: among things with canonical values nothing equal is spelled in two
  ways.
* `Comparisons.equal_hash_alike`: the two facts for any number of things, and what they mean for a
  set: it holds two that are equal only where the spelling tells them apart, a truth value and the
  number that it equals, or dicts with their entries in another order; with canonical values it
  never does.
* `Comparisons.one_and_true_hashed_apart`: the first of these happens.

A key is what a hash is computed from; that the computation may end in one number for two keys is
left out, and so are references to identities that cannot be hashed or that hold a record.
-/

namespace FieldQuery

/-! ## Constraints -/

namespace Constraint

variable {a b : Constraint}

theorem describeWith_inj {c : Constraint} {s t : String} :
    c.describeWith s = c.describeWith t ↔ s = t := by
  constructor
  · intro h
    have hchars := congrArg String.toList h
    unfold describeWith at hchars
    split at hchars <;> simpa [String.toList_append, String.toList_inj] using hchars
  · intro h
    rw [h]

/-- Equal constraints have the same key exactly if their values have the same text. -/
theorem hashKey_same_iff (h : a.same b = true) :
    a.hashKey.same b.hashKey = true ↔ a.value.display = b.value.display := by
  simp only [same, Bool.and_eq_true, beq_iff_eq] at h
  obtain ⟨⟨⟨hfield, -⟩, -⟩, hcomparison⟩ := h
  have hvariant : a.variant = b.variant := by
    unfold variant
    rw [hcomparison]
  have hdescribe : b.describe = a.describeWith b.value.display := by
    unfold describe describeWith
    rw [hfield, hcomparison]
  show (a.variant.name == b.variant.name && a.describe == b.describe) = true ↔ _
  rw [hvariant, beq_self_eq_true, Bool.true_and, beq_iff_eq, hdescribe]
  exact describeWith_inj

end Constraint

/-! ## Artifacts -/

namespace Artifact

theorem kindName_of_same {a b : Artifact} (h : a.same b = true) : a.kindName = b.kindName := by
  cases a <;> cases b <;> first | rfl | cases h

/-- Equal artifacts have the same key exactly if their nodes have the same text. -/
theorem hashKey_same_iff {a b : Artifact} (h : a.same b = true) :
    a.hashKey.same b.hashKey = true ↔ a.text = b.text := by
  show (a.kindName == b.kindName && a.text == b.text) = true ↔ _
  rw [kindName_of_same h, beq_self_eq_true, Bool.true_and, beq_iff_eq]

mutual

/-- The values that an artifact compares with. -/
def values : Artifact → List Value
  | term _ value => [value]
  | range _ _ value => [value]
  | missing _ => []
  | anyOf branches => valuesEach branches
termination_by structural a => a

def valuesEach : List Artifact → List Value
  | [] => []
  | a :: as => values a ++ valuesEach as
termination_by structural as => as

end

mutual

/-- Equal artifacts with canonical values are identical. -/
theorem eq_of_same {κ : NumberKind} (a b : Artifact) (ha : ∀ v ∈ a.values, v.Canonical κ)
    (hb : ∀ v ∈ b.values, v.Canonical κ) (h : a.same b = true) : a = b := by
  match a, b with
  | term field v, term field' w =>
    rw [same, Bool.and_eq_true, beq_iff_eq] at h
    rw [h.1, (ha v List.mem_cons_self).eq_of_same (hb w List.mem_cons_self) h.2]
  | range field bound v, range field' bound' w =>
    rw [same, Bool.and_eq_true, Bool.and_eq_true, beq_iff_eq, beq_iff_eq] at h
    rw [h.1.1, h.1.2, (ha v List.mem_cons_self).eq_of_same (hb w List.mem_cons_self) h.2]
  | missing field, missing field' => rw [eq_of_beq h]
  | anyOf as, anyOf bs => rw [eq_of_sameAll as bs ha hb h]
termination_by structural a

theorem eq_of_sameAll {κ : NumberKind} (as bs : List Artifact)
    (has : ∀ v ∈ valuesEach as, v.Canonical κ) (hbs : ∀ v ∈ valuesEach bs, v.Canonical κ)
    (h : sameAll as bs = true) : as = bs := by
  match as, bs with
  | [], [] => rfl
  | [], b :: bs => cases h
  | a :: as, [] => cases h
  | a :: as, b :: bs =>
    obtain ⟨ha, has⟩ := List.forall_mem_append.mp has
    obtain ⟨hb, hbs⟩ := List.forall_mem_append.mp hbs
    rw [sameAll, Bool.and_eq_true] at h
    rw [eq_of_same a b ha hb h.1, eq_of_sameAll as bs has hbs h.2]
termination_by structural as

end

end Artifact

/-! ## Items -/

namespace Item

/-- What is told apart: constraints, artifacts, and references to identities that can be hashed,
without a record among them. -/
inductive Told : Item → Prop
  | constraint (c : Constraint) : Told (.constraint c)
  | artifact (a : Artifact) : Told (.artifact a)
  | reference {id : Value} {k : HashKey} (h : id.showsRecord = false) (hk : id.hashKey = .ok k) :
      Told (.value (.reference id))

/-- All values of a constraint or of an artifact are canonical. -/
inductive Canonical (κ : NumberKind) : Item → Prop
  | constraint {c : Constraint} (h : c.value.Canonical κ) : Canonical κ (.constraint c)
  | artifact {a : Artifact} (h : ∀ v ∈ a.values, v.Canonical κ) : Canonical κ (.artifact a)
  | reference (id : Value) : Canonical κ (.value (.reference id))

/-- How the values of a thing are spelled in its key. -/
def spelling : Item → String
  | constraint c => c.value.display
  | artifact a => a.text
  | value _ | composite _ => ""

variable {κ : NumberKind} {x y : Item}

theorem Told.exists_key (hx : x.Told) (place : Nat) : ∃ k, x.hashKey place = .ok k := by
  cases hx with
  | constraint c => exact ⟨c.hashKey, rfl⟩
  | artifact a => exact ⟨a.hashKey, rfl⟩
  | @reference id k _ hk => exact ⟨k, hk⟩

/-- Equal things have the same key exactly if they are spelled alike. -/
theorem hashKey_same_iff {i j : Nat} {k l : HashKey} (hx : x.Told) (hsame : x.same y = true)
    (hk : x.hashKey i = .ok k) (hl : y.hashKey j = .ok l) :
    k.same l = true ↔ x.spelling = y.spelling := by
  cases hx with
  | constraint c =>
    cases y with
    | constraint d =>
      cases hk
      cases hl
      exact Constraint.hashKey_same_iff hsame
    | _ => cases hsame
  | artifact a =>
    cases y with
    | artifact b =>
      cases hk
      cases hl
      exact Artifact.hashKey_same_iff hsame
    | _ => cases hsame
  | @reference id _ hid _ =>
    cases y with
    | value w =>
      constructor
      · exact fun _ => rfl
      · exact fun _ => Value.hashKey_same (.reference id) w hsame hid hk hl
    | _ => cases hsame

/-- Equal things with canonical values are spelled alike. -/
theorem spelling_eq_of_same (hx : x.Canonical κ) (hy : y.Canonical κ) (h : x.same y = true) :
    x.spelling = y.spelling := by
  cases hx with
  | constraint hc =>
    cases hy with
    | constraint hd =>
      simp only [same, Constraint.same, Bool.and_eq_true] at h
      exact congrArg Value.display (hc.eq_of_same hd h.1.1.2)
    | _ => cases h
  | @artifact a ha =>
    cases hy with
    | @artifact b hb => exact congrArg Artifact.text (a.eq_of_same b ha hb h)
    | _ => cases h
  | reference id =>
    cases hy with
    | reference id' => rfl
    | _ => cases h

end Item

/-! ## Sets -/

namespace Comparisons

theorem mem_insertAll {members things : List (Item × HashKey)} {p : Item × HashKey}
    (h : p ∈ insertAll members things) : p ∈ members ∨ p ∈ things := by
  induction things generalizing members with
  | nil => exact .inl h
  | cons x xs ih =>
    unfold insertAll at h
    split at h
    · exact (ih h).imp_right (List.mem_cons_of_mem x)
    · rcases ih h with h | h
      · rcases List.mem_append.mp h with h | h
        · exact .inl h
        · exact .inr (List.mem_singleton.mp h ▸ List.mem_cons_self)
      · exact .inr (List.mem_cons_of_mem x h)

/-- A set grows by what has no equal of the same key in it, so it never holds two of that sort. -/
theorem insertAll_pairwise {members : List (Item × HashKey)} (things : List (Item × HashKey))
    (h : members.Pairwise fun p q => (p.2.same q.2 && p.1.same q.1) = false) :
    (insertAll members things).Pairwise fun p q => (p.2.same q.2 && p.1.same q.1) = false := by
  induction things generalizing members with
  | nil => exact h
  | cons x xs ih =>
    unfold insertAll
    split
    · exact ih h
    · next hnew =>
      apply ih
      rw [List.pairwise_append]
      refine ⟨h, List.pairwise_singleton _ _, fun p hp q hq => ?_⟩
      rw [List.mem_singleton.mp hq]
      rw [Bool.not_eq_true, List.any_eq_false] at hnew
      exact Bool.eq_false_iff.mpr (hnew p hp)

/-- Where all things have keys, each is paired with its own. -/
theorem exists_keys (items : List Item) (place : Nat)
    (h : ∀ x ∈ items, ∀ i, ∃ k, x.hashKey i = .ok k) :
    ∃ keys, ((items.zipIdx place).mapM fun x => x.1.hashKey x.2) = .ok keys ∧
      ∀ p ∈ items.zip keys, p.1 ∈ items ∧ ∃ i, p.1.hashKey i = .ok p.2 := by
  induction items generalizing place with
  | nil => exact ⟨[], rfl, nofun⟩
  | cons x xs ih =>
    obtain ⟨hx, hxs⟩ := List.forall_mem_cons.mp h
    obtain ⟨k, hk⟩ := hx place
    obtain ⟨keys, hkeys, hpaired⟩ := ih (place + 1) hxs
    refine ⟨k :: keys, ?_, ?_⟩
    · rw [List.zipIdx_cons, List.mapM_cons, hk, hkeys]
      rfl
    · rw [List.zip_cons_cons, List.forall_mem_cons]
      refine ⟨⟨List.mem_cons_self, place, hk⟩, fun p hp => ?_⟩
      obtain ⟨hmem, hkey⟩ := hpaired p hp
      exact ⟨List.mem_cons_of_mem x hmem, hkey⟩

/-- Constraints, artifacts and references have keys. Equal ones have the same key exactly if their
values are spelled alike, and a set holds two that are equal only where the spelling tells them
apart. If all values are canonical, then equal ones always have the same key, and a set never holds
two of them. -/
theorem equal_hash_alike {items : List Item} (told : ∀ x ∈ items, x.Told) :
    ∃ keys, (items.zipIdx.mapM fun x => x.1.hashKey x.2) = .ok keys ∧
      (∀ p ∈ items.zip keys, ∀ q ∈ items.zip keys, p.1.same q.1 = true →
        (p.2.same q.2 = true ↔ p.1.spelling = q.1.spelling)) ∧
      (insertAll [] (items.zip keys)).Pairwise
        (fun p q => p.1.same q.1 = true → p.1.spelling ≠ q.1.spelling) ∧
      ∀ κ, (∀ x ∈ items, x.Canonical κ) →
        (∀ p ∈ items.zip keys, ∀ q ∈ items.zip keys, p.1.same q.1 = true → p.2.same q.2 = true) ∧
        (insertAll [] (items.zip keys)).Pairwise (fun p q => p.1.same q.1 = false) := by
  obtain ⟨keys, hkeys, hpaired⟩ := exists_keys items 0 fun x hx => (told x hx).exists_key
  have hlaw : ∀ p ∈ items.zip keys, ∀ q ∈ items.zip keys, p.1.same q.1 = true →
      (p.2.same q.2 = true ↔ p.1.spelling = q.1.spelling) := by
    intro p hp q hq hsame
    obtain ⟨hmem, i, hi⟩ := hpaired p hp
    obtain ⟨-, j, hj⟩ := hpaired q hq
    exact Item.hashKey_same_iff (told p.1 hmem) hsame hi hj
  have hmember : ∀ p ∈ insertAll [] (items.zip keys), p ∈ items.zip keys := fun p hp =>
    (mem_insertAll hp).resolve_left List.not_mem_nil
  have hset : (insertAll [] (items.zip keys)).Pairwise
      (fun p q => p.1.same q.1 = true → p.1.spelling ≠ q.1.spelling) := by
    refine (insertAll_pairwise _ .nil).imp_of_mem fun {p q} hp hq hapart hsame hspelled => ?_
    rw [hsame, (hlaw p (hmember p hp) q (hmember q hq) hsame).mpr hspelled] at hapart
    cases hapart
  refine ⟨keys, hkeys, hlaw, hset, fun κ hcanonical => ?_⟩
  -- equal canonical values are identical, so nothing equal is left that is spelled in two ways
  have hspelled : ∀ p ∈ items.zip keys, ∀ q ∈ items.zip keys, p.1.same q.1 = true →
      p.1.spelling = q.1.spelling := fun p hp q hq hsame =>
    Item.spelling_eq_of_same (hcanonical p.1 (hpaired p hp).1) (hcanonical q.1 (hpaired q hq).1)
      hsame
  constructor
  · intro p hp q hq hsame
    exact (hlaw p hp q hq hsame).mpr (hspelled p hp q hq hsame)
  · refine hset.imp_of_mem fun {p q} hp hq hapart => ?_
    by_contra hsame
    rw [Bool.not_eq_false] at hsame
    exact hapart hsame (hspelled p (hmember p hp) q (hmember q hq) hsame)

/-- The statement at a constraint on a dict that is there twice, at a choice with a choice among its
branches, and at two references, one to a text and one to a member that acts as that text: the set
holds one of each sort. -/
theorem equal_hash_alike_nested :
    let c : Constraint :=
      ⟨"size", .object [("height", .int 2), ("width", .int 1)], true, .equal false⟩
    let a : Artifact :=
      .anyOf [.term "$or" (.int 1), .anyOf [.range "size" .lte (.int 2), .missing "size"]]
    let text : Item := .value (.reference (.str "active"))
    let member : Item := .value (.reference (.member (.text "Status" "ACTIVE" "active")))
    let items : List Item := [.constraint c, .constraint c, .artifact a, text, member]
    (∀ x ∈ items, x.Told) ∧ (∀ x ∈ items, x.Canonical .whole) ∧ text.same member = true ∧
      ∃ keys, (items.zipIdx.mapM fun x => x.1.hashKey x.2) = .ok keys ∧
        (∀ p ∈ items.zip keys, ∀ q ∈ items.zip keys, p.1.same q.1 = true →
          p.2.same q.2 = true) ∧
        (insertAll [] (items.zip keys)).Pairwise (fun p q => p.1.same q.1 = false) := by
  intro c a text member items
  have told : ∀ x ∈ items, x.Told := by
    simp only [items, List.forall_mem_cons]
    exact ⟨.constraint c, .constraint c, .artifact a, .reference rfl rfl, .reference rfl rfl, nofun⟩
  have hc : c.value.Canonical .whole := by
    refine .object (by decide) ?_
    simp only [List.forall_mem_cons]
    exact ⟨.number (.whole 2), .number (.whole 1), nofun⟩
  have ha : ∀ v ∈ a.values, v.Canonical .whole := by
    show ∀ v ∈ [Value.int 1, Value.int 2], v.Canonical .whole
    simp only [List.forall_mem_cons]
    exact ⟨.number (.whole 1), .number (.whole 2), nofun⟩
  have canonical : ∀ x ∈ items, x.Canonical .whole := by
    simp only [items, List.forall_mem_cons]
    exact ⟨.constraint hc, .constraint hc, .artifact ha, .reference _, .reference _, nofun⟩
  obtain ⟨keys, hkeys, -, -, hlaw⟩ := equal_hash_alike told
  exact ⟨told, canonical, by decide, keys, hkeys, hlaw .whole canonical⟩

/-- The factories and the artifacts take the number one and a truth value as they are. What they
make of them is equal and hashed apart, and a set holds both. -/
theorem one_and_true_hashed_apart :
    let one : Constraint := ⟨"f", .int 1, false, .equal false⟩
    let truth : Constraint := ⟨"f", .bool true, false, .equal false⟩
    let a : Artifact := .anyOf [.term "f" (.int 1)]
    let b : Artifact := .anyOf [.term "f" (.bool true)]
    Factory.equal.make {} (.str "f") (.int 1) = .ok one ∧
      Factory.equal.make {} (.str "f") (.bool true) = .ok truth ∧
      one.same truth = true ∧ one.hashKey.same truth.hashKey = false ∧
      a.same b = true ∧ a.hashKey.same b.hashKey = false ∧
      (insertAll [] [(.constraint one, one.hashKey), (.constraint truth, truth.hashKey)]).length =
        2 := by
  intro one truth a b
  have hequal : one.same truth = true := by decide +kernel
  have hapart : one.hashKey.same truth.hashKey = false := by decide +kernel
  have hnodes : a.same b = true ∧ a.hashKey.same b.hashKey = false := by decide +kernel
  refine ⟨rfl, rfl, hequal, hapart, hnodes.1, hnodes.2, ?_⟩
  simp [insertAll, hapart]

end Comparisons

end FieldQuery
