import FieldQuery.Text.CodePoints
import Mathlib.Data.List.Chain

/-!
# Code units and their pairs

What is modelled. A character beyond the sixteenth bit is two code units, a high and a low
surrogate, and any other code point is one unit. Joining the pairs of some units gives a text of
code points.

What is proved. Joining the units of a text joins the pairs among its own code points and changes
nothing else (`Text.joinPairs_units`). A text without such pairs, in which no high surrogate stands
right in front of a low one, stays as it is (`Text.joinPairs_of_unpaired`), and no Unicode text has
any (`Text.unpaired_points`).
-/

namespace FieldQuery

namespace CodePoint

/-- The code units of a code point, each by itself. -/
def units : CodePoint → List CodePoint
  | scalar c =>
    if c.toNat < 0x10000 then [scalar c]
    else
      [ofUnit (0xD800 + (c.toNat - 0x10000) / 0x400), ofUnit (0xDC00 + (c.toNat - 0x10000) % 0x400)]
  | surrogate n => [surrogate n]

theorem ofUnit_surrogate (n : Fin 0x800) : ofUnit (0xD800 + n) = surrogate n := by
  rw [ofUnit, dif_pos (by omega)]
  exact congrArg surrogate (Fin.ext (by simp))

theorem ofUnit_scalar {n : Nat} (h : n < 0xD800 ∨ 0xE000 ≤ n) :
    ofUnit n = scalar (Char.ofNat n) := by
  rw [ofUnit, dif_neg (by omega)]

theorem toNat_lt (c : Char) : c.toNat < 0x110000 := by
  have hvalid : c.toNat < 0xD800 ∨ 0xDFFF < c.toNat ∧ c.toNat < 0x110000 := c.valid
  omega

/-- The two units of a character beyond the sixteenth bit are a pair. -/
theorem pair?_units {c : Char} (h : 0x10000 ≤ c.toNat) :
    (ofUnit (0xD800 + (c.toNat - 0x10000) / 0x400)).pair?
      (ofUnit (0xDC00 + (c.toNat - 0x10000) % 0x400)) = some c := by
  have hc := toNat_lt c
  rw [ofUnit, dif_pos (by omega), ofUnit, dif_pos (by omega), pair?]
  dsimp only
  rw [if_pos (by omega)]
  have hnumber : 0x10000 + (0xD800 + (c.toNat - 0x10000) / 0x400 - 0xD800) * 0x400 +
      (0xDC00 + (c.toNat - 0x10000) % 0x400 - 0xD800 - 0x400) = c.toNat := by omega
  rw [hnumber, Char.ofNat_toNat]

/-- A pair is a high surrogate and a low one. -/
theorem pair?_eq_none {p q : CodePoint} (h : ¬ (p.isHigh = true ∧ q.isLow = true)) :
    p.pair? q = none := by
  cases p with
  | scalar c => rfl
  | surrogate n =>
    cases q with
    | scalar c => rfl
    | surrogate m => exact if_neg (by simpa [isHigh, isLow] using h)

/-- The first unit of a character is no low surrogate. -/
theorem isLow_head_units {c : Char} {p : CodePoint} (h : p ∈ (scalar c).units.head?) :
    p.isLow = false := by
  have hc := toNat_lt c
  rw [units] at h
  split at h
  · obtain rfl := Option.some.inj h
    rfl
  · obtain rfl := Option.some.inj h
    rw [ofUnit, dif_pos (by omega), isLow, decide_eq_false_iff_not]
    dsimp only
    omega

/-- A code point makes a pair with the first unit of another one only if it makes one with that. -/
theorem pair?_head_units {p q r : CodePoint} (h : p.pair? q = none) (hr : r ∈ q.units.head?) :
    p.pair? r = none := by
  cases q with
  | scalar c =>
    exact pair?_eq_none fun hpair => absurd hpair.2 (by rw [isLow_head_units hr]; exact nofun)
  | surrogate n =>
    obtain rfl := Option.some.inj hr
    exact h

theorem units_ne_nil (p : CodePoint) : p.units ≠ [] := by
  cases p with
  | scalar c =>
    rw [units]
    split <;> exact List.cons_ne_nil _ _
  | surrogate n => exact List.cons_ne_nil _ _

end CodePoint

namespace Text

open CodePoint (units)

theorem joinPairs_cons {p : CodePoint} {ps : List CodePoint}
    (h : ∀ q ∈ ps.head?, p.pair? q = none) : joinPairs (p :: ps) = p :: joinPairs ps := by
  cases ps with
  | nil => rfl
  | cons q ps => rw [joinPairs, h q rfl]

/-- A code point that makes no pair with what follows comes back from its units. -/
theorem joinPairs_units_append {p : CodePoint} {us : List CodePoint}
    (h : ∀ q ∈ us.head?, p.pair? q = none) : joinPairs (p.units ++ us) = p :: joinPairs us := by
  cases p with
  | scalar c =>
    rw [units]
    split
    · exact joinPairs_cons h
    · next hbeyond =>
      rw [List.cons_append, List.singleton_append, joinPairs,
        CodePoint.pair?_units (Nat.le_of_not_lt hbeyond)]
  | surrogate n => exact joinPairs_cons h

/-- Joining the units of a text joins the pairs among its code points. -/
theorem joinPairs_units (ps : List CodePoint) : joinPairs (ps.flatMap units) = joinPairs ps := by
  induction ps using joinPairs.induct with
  | case1 p q ps c hpair ih =>
    -- both are surrogates, so each is its own unit
    cases p with
    | scalar _ => cases hpair
    | surrogate n =>
      cases q with
      | scalar _ => cases hpair
      | surrogate m =>
        rw [List.flatMap_cons, List.flatMap_cons, units, units, List.singleton_append,
          List.singleton_append, joinPairs, joinPairs, hpair]
        exact congrArg _ ih
  | case2 p q ps hpair ih =>
    have hhead : ∀ r ∈ ((q :: ps).flatMap units).head?, p.pair? r = none := by
      intro r hr
      rw [List.flatMap_cons, List.head?_append_of_ne_nil _ q.units_ne_nil] at hr
      exact CodePoint.pair?_head_units hpair hr
    rw [List.flatMap_cons, joinPairs_units_append hhead, ih]
    exact (joinPairs_cons fun r hr => Option.some.inj hr ▸ hpair).symm
  | case3 ps hps =>
    rcases ps with _ | ⟨p, _ | ⟨q, ps⟩⟩
    · rfl
    · have hend : ∀ q ∈ ([] : List CodePoint).head?, p.pair? q = none := fun _ hq => by cases hq
      exact joinPairs_units_append hend
    · exact absurd rfl (hps p q ps)

/-- No high surrogate stands right in front of a low one. -/
def Unpaired (ps : List CodePoint) : Prop :=
  ps.IsChain fun p q => ¬ (p.isHigh = true ∧ q.isLow = true)

instance (ps : List CodePoint) : Decidable (Unpaired ps) :=
  inferInstanceAs (Decidable (List.IsChain _ ps))

theorem joinPairs_of_unpaired {ps : List CodePoint} (h : Unpaired ps) : joinPairs ps = ps := by
  induction ps with
  | nil => rfl
  | cons p ps ih =>
    obtain ⟨hhead, htail⟩ := List.isChain_cons.mp h
    rw [joinPairs_cons fun q hq => CodePoint.pair?_eq_none (hhead q hq), ih htail]

/-- The code points of a Unicode text have no pairs, since none is a surrogate. -/
theorem unpaired_points (s : String) : Unpaired (points s) := by
  have hscalar : ∀ cs : List Char, Unpaired (cs.map .scalar) := by
    intro cs
    induction cs with
    | nil => exact .nil
    | cons c cs ih => exact List.isChain_cons.mpr ⟨fun _ _ h => Bool.false_ne_true h.1, ih⟩
  exact hscalar s.toList

end Text

end FieldQuery
