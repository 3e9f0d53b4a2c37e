import FieldQuery.Calendar.Zone
import FieldQuery.Proofs.Calendar.Days

/-!
# Clocks are read as they show

What is modelled. A zone has two functions: the offset that its clocks show at an instant, and the
offset that a local time is read with. They are written apart. What ties them together is that a
local time that the clocks show at all is read as an instant at which they show it: the first such
instant when it is read the earlier way, and the last one when it is read the later way
(`Faithful`). Of local times that the clocks skip nothing is said.

What is proved. The step is one clock change in front of clocks that are read so
(`Faithful.prepend`). It asks that the clocks keep still for two days after the change, and that no
offset is larger than a day.
* `faithful_fixed`: one offset for good.
* `TwoChanges.faithful`: two such steps give the clocks of one year.
* `Faithful.of_nearby`, `offsetBy_nearby`: around the turn of the year the changes of either year
  tell the same offset, so the clocks of all years may be read by the changes of the year at hand.
-/

namespace FieldQuery

/-- The clocks show the local time at the instant. -/
def Shows (offsetAt : Int → Int) (l t : Int) : Prop := t + offsetAt t = l

/-- Reading the later way gives no earlier instant, and reading the earlier way no later one. -/
def Beyond (fold : Bool) (t u : Int) : Prop := if fold then u ≤ t else t ≤ u

/-- Local times that are shown are read as the first or the last instant that shows them. -/
structure Faithful (offsetAt : Int → Int) (offsetOfLocal : Int → Bool → Int) : Prop where
  shown : ∀ {l t : Int} (fold : Bool), Shows offsetAt l t →
    Shows offsetAt l (l - offsetOfLocal l fold)
  beyond : ∀ {l t : Int} (fold : Bool), Shows offsetAt l t →
    Beyond fold (l - offsetOfLocal l fold) t

/-- No offset is larger than a day. -/
def Small (offset : Int) : Prop := -(dayMicros : Int) ≤ offset ∧ offset ≤ dayMicros

instance (offset : Int) : Decidable (Small offset) := inferInstanceAs (Decidable (_ ∧ _))

/-- The clocks keep still for two days after the instant, and in the two days before it they show
the same offset or `before`. -/
structure Still (offsetAt : Int → Int) (before e : Int) : Prop where
  after : ∀ t, e ≤ t → t < e + 2 * dayMicros → offsetAt t = offsetAt e
  ahead : ∀ t, e - 2 * dayMicros ≤ t → t < e → offsetAt t = before ∨ offsetAt t = offsetAt e

theorem faithful_fixed (offset : Int) : Faithful (fun _ => offset) (fun _ _ => offset) := by
  constructor
  case shown =>
    intro l t fold _
    exact Int.sub_add_cancel l offset
  case beyond =>
    intro l t fold h
    change t + offset = l at h
    unfold Beyond
    split <;> omega

/-! ## One clock change -/

section Prepend

variable {offsetAt : Int → Int} {offsetOfLocal : Int → Bool → Int} {before e l t : Int}
  {fold : Bool}

/-- Clocks with one more offset in front, up to an instant. -/
def offsetAfter (before e : Int) (offsetAt : Int → Int) (t : Int) : Int :=
  if t < e then before else offsetAt t

/-- Local times before the change on the wall are read with the offset in front. -/
def offsetOfLocalAfter (before e after : Int) (offsetOfLocal : Int → Bool → Int) (l : Int)
    (fold : Bool) : Int :=
  if l < (ClockChange.mk e before after).wall fold then before else offsetOfLocal l fold

theorem shows_offsetAfter : Shows (offsetAfter before e offsetAt) l t ↔
    t < e ∧ t + before = l ∨ e ≤ t ∧ Shows offsetAt l t := by
  unfold Shows offsetAfter
  split <;> omega

/-- Clocks that have been changed show no local time before the one that they were changed to. -/
theorem Still.later (hstill : Still offsetAt before e) (hsmall : ∀ t, Small (offsetAt t))
    (ht : e ≤ t) : e + offsetAt e ≤ t + offsetAt t := by
  by_cases hnear : t < e + 2 * dayMicros
  · rw [hstill.after t ht hnear]
    omega
  · have h1 := (hsmall t).1
    have h2 := (hsmall e).2
    omega

/-- A local time before the change on the wall is shown before the change, and in the earlier way
of reading before it is shown again. -/
theorem Still.reading_before (hstill : Still offsetAt before e) (hsmall : ∀ t, Small (offsetAt t))
    (hshow : Shows (offsetAfter before e offsetAt) l t)
    (hwall : l < (ClockChange.mk e before (offsetAt e)).wall fold) :
    l - before < e ∧ Beyond fold (l - before) t := by
  unfold ClockChange.wall at hwall
  unfold Beyond
  rcases shows_offsetAfter.mp hshow with ⟨hte, ht⟩ | ⟨hte, ht⟩
  · cases fold <;> simp only [if_true, if_false, Bool.false_eq_true] <;> omega
  · have hlater := hstill.later hsmall hte
    unfold Shows at ht
    cases fold <;> simp only [if_true, if_false, Bool.false_eq_true] at hwall ⊢ <;> omega

/-- A local time that is shown at all, but not before the change on the wall, is shown after it. -/
theorem Still.exists_shows (hstill : Still offsetAt before e) (hsmall : ∀ t, Small (offsetAt t))
    (hbefore : Small before) (hshow : Shows (offsetAfter before e offsetAt) l t)
    (hwall : ¬ l < (ClockChange.mk e before (offsetAt e)).wall fold) :
    ∃ t₁, e ≤ t₁ ∧ Shows offsetAt l t₁ := by
  rcases shows_offsetAfter.mp hshow with ⟨hte, ht⟩ | ⟨hte, ht⟩
  · -- shown before the change as well, so the clocks were put back
    have hback : e + offsetAt e ≤ l ∧ l - offsetAt e < e + 2 * dayMicros := by
      unfold ClockChange.wall at hwall
      have h1 := (hsmall e).1
      have h2 := hbefore.2
      cases fold <;> simp only [if_true, if_false, Bool.false_eq_true] at hwall <;> omega
    refine ⟨l - offsetAt e, by omega, ?_⟩
    unfold Shows
    rw [hstill.after _ (by omega) hback.2]
    omega
  · exact ⟨t, hte, ht⟩

/-- Such a local time is read as an instant after the change. -/
theorem Still.reading_after (hstill : Still offsetAt before e) (hsmall : ∀ t, Small (offsetAt t))
    (hwall : ¬ l < (ClockChange.mk e before (offsetAt e)).wall fold) {u : Int}
    (hread : Shows offsetAt l u) (hte : e ≤ t) (hextreme : Beyond fold u t) : e ≤ u := by
  unfold Beyond at hextreme
  cases fold with
  | true =>
    simp only [if_true] at hextreme
    omega
  | false =>
    unfold ClockChange.wall at hwall
    unfold Shows at hread
    simp only [if_false, Bool.false_eq_true] at hwall
    have h1 := (hsmall u).2
    have h2 := (hsmall e).1
    refine Int.not_lt.mp fun hlt => ?_
    rcases hstill.ahead u (by omega) hlt with h3 | h3 <;> omega

/-- One more offset in front: local times before the change on the wall are read with it, and all
others as before. -/
theorem Faithful.prepend (h : Faithful offsetAt offsetOfLocal) (hstill : Still offsetAt before e)
    (hsmall : ∀ t, Small (offsetAt t)) (hbefore : Small before) :
    Faithful (offsetAfter before e offsetAt)
      (offsetOfLocalAfter before e (offsetAt e) offsetOfLocal) := by
  have hall : ∀ {l t : Int} (fold : Bool), Shows (offsetAfter before e offsetAt) l t →
      Shows (offsetAfter before e offsetAt) l
        (l - offsetOfLocalAfter before e (offsetAt e) offsetOfLocal l fold) ∧
      Beyond fold (l - offsetOfLocalAfter before e (offsetAt e) offsetOfLocal l fold) t := by
    intro l t fold hshow
    unfold offsetOfLocalAfter
    by_cases hwall : l < (ClockChange.mk e before (offsetAt e)).wall fold
    · rw [if_pos hwall]
      obtain ⟨hearly, hextreme⟩ := hstill.reading_before hsmall hshow hwall
      exact ⟨shows_offsetAfter.mpr (.inl ⟨hearly, Int.sub_add_cancel l before⟩), hextreme⟩
    · rw [if_neg hwall]
      obtain ⟨t₁, ht₁, hshow₁⟩ := hstill.exists_shows hsmall hbefore hshow hwall
      have hread := h.shown fold hshow₁
      have hlate := hstill.reading_after hsmall hwall hread ht₁ (h.beyond fold hshow₁)
      refine ⟨shows_offsetAfter.mpr (.inr ⟨hlate, hread⟩), ?_⟩
      rcases shows_offsetAfter.mp hshow with ⟨hte, ht⟩ | ⟨-, ht⟩
      · -- only the later way of reading passes over an instant before the change
        unfold Beyond ClockChange.wall at *
        cases fold <;> simp only [if_true, if_false, Bool.false_eq_true] at hwall ⊢ <;> omega
      · exact h.beyond fold ht
  exact ⟨fun fold hshow => (hall fold hshow).1, fun fold hshow => (hall fold hshow).2⟩

end Prepend

/-- Clocks are read as they show if around every local time they run, and are read, like clocks that
are. -/
theorem Faithful.of_nearby {offsetAt : Int → Int} {offsetOfLocal : Int → Bool → Int}
    (hsmall : ∀ t, Small (offsetAt t))
    (h : ∀ l, ∃ offsetAt' offsetOfLocal', Faithful offsetAt' offsetOfLocal' ∧
      (∀ t, Small (offsetAt' t)) ∧ (∀ fold, offsetOfLocal l fold = offsetOfLocal' l fold) ∧
      ∀ t, l ≤ t + dayMicros → t ≤ l + dayMicros → offsetAt t = offsetAt' t) :
    Faithful offsetAt offsetOfLocal := by
  have hall : ∀ {l t : Int} (fold : Bool), Shows offsetAt l t →
      Shows offsetAt l (l - offsetOfLocal l fold) ∧ Beyond fold (l - offsetOfLocal l fold) t := by
    intro l t fold hshow
    obtain ⟨offsetAt', offsetOfLocal', hfaithful, hsmall', hlocal, hnear⟩ := h l
    have hshow' : Shows offsetAt' l t := by
      unfold Shows at hshow ⊢
      have hbounds := hsmall t
      unfold Small at hbounds
      rwa [← hnear t (by omega) (by omega)]
    rw [hlocal]
    refine ⟨?_, hfaithful.beyond fold hshow'⟩
    have hread := hfaithful.shown fold hshow'
    generalize l - offsetOfLocal' l fold = u at hread
    unfold Shows at hread ⊢
    have hbounds := hsmall' u
    unfold Small at hbounds
    rwa [hnear u (by omega) (by omega)]
  exact ⟨fun fold hshow => (hall fold hshow).1, fun fold hshow => (hall fold hshow).2⟩

/-! ## The two changes of a year -/

/-- The instant at which the year begins in Greenwich. -/
def yearStart (y : Nat) : Int := (Date.daysBeforeYear y * dayMicros : Nat)

/-- The two changes lie in the year and well apart, and the second one takes the first one back. -/
structure TwoChanges (before after : Int) (y : Nat) (c : ClockChange × ClockChange) : Prop where
  first : c.1.before = before ∧ c.1.after = after
  second : c.2.before = after ∧ c.2.after = before
  opens : yearStart y + 3 * dayMicros ≤ c.1.instant
  apart : c.1.instant + 3 * dayMicros ≤ c.2.instant
  closes : c.2.instant + 3 * dayMicros ≤ yearStart (y + 1)

/-- The offset at an instant, by the changes of one year. -/
def offsetBy (c : ClockChange × ClockChange) (t : Int) : Int :=
  if t < c.1.instant then c.1.before else if t < c.2.instant then c.1.after else c.2.after

/-- The offset that a local time stands for, by the changes of one year. -/
def offsetOfLocalBy (c : ClockChange × ClockChange) (l : Int) (fold : Bool) : Int :=
  if l < c.1.wall fold then c.1.before else if l < c.2.wall fold then c.1.after else c.2.after

section Year

variable {before after : Int} {y : Nat} {c : ClockChange × ClockChange}

theorem TwoChanges.eq (h : TwoChanges before after y c) :
    ∃ i j, c = (⟨i, before, after⟩, ⟨j, after, before⟩) := by
  obtain ⟨⟨i, b, a⟩, ⟨j, a', b'⟩⟩ := c
  obtain ⟨hb, ha⟩ := h.first
  obtain ⟨ha', hb'⟩ := h.second
  dsimp only at hb ha ha' hb'
  exact ⟨i, j, by rw [hb, ha, ha', hb']⟩

theorem TwoChanges.small_offsetBy (h : TwoChanges before after y c) (hbefore : Small before)
    (hafter : Small after) (t : Int) : Small (offsetBy c t) := by
  unfold offsetBy
  rw [h.first.1, h.first.2, h.second.2]
  split
  · exact hbefore
  · split
    · exact hafter
    · exact hbefore

theorem TwoChanges.faithful (h : TwoChanges before after y c) (hbefore : Small before)
    (hafter : Small after) : Faithful (offsetBy c) (offsetOfLocalBy c) := by
  have hapart := h.apart
  obtain ⟨i, j, rfl⟩ := h.eq
  have hij : i < j := by
    have hday : 0 < dayMicros := by decide
    dsimp only at hapart
    omega
  -- from the last offset of the year back to the first one
  have hlast := faithful_fixed before
  have hmiddle := hlast.prepend (e := j) ⟨fun _ _ _ => rfl, fun _ _ _ => .inr rfl⟩
    (fun _ => hbefore) hafter
  have hearly : ∀ t, t < j → offsetAfter after j (fun _ => before) t = after :=
    fun t ht => if_pos ht
  have hsmall : ∀ t, Small (offsetAfter after j (fun _ => before) t) := by
    intro t
    unfold offsetAfter
    split
    · exact hafter
    · exact hbefore
  have hstill : Still (offsetAfter after j fun _ => before) before i := by
    constructor
    case after =>
      intro t hit hti
      dsimp only at hapart
      rw [hearly t (by omega), hearly i hij]
    case ahead =>
      intro t _ hti
      exact .inr (by rw [hearly t (by omega), hearly i hij])
  have hfirst := hmiddle.prepend hstill hsmall hbefore
  rw [hearly i hij] at hfirst
  exact hfirst

/-- The year in Greenwich holds the instant; what lies before the year 1 is counted with it. -/
def Holds (y : Nat) (t : Int) : Prop :=
  1 ≤ y ∧ (y = 1 ∨ yearStart y ≤ t) ∧ t < yearStart (y + 1)

theorem holds_yearOf (t : Int) : Holds (ZoneRule.yearOf t) t := by
  obtain ⟨hpos, hlow, hhigh⟩ := Date.inYear_yearOfDay (t.toNat / dayMicros)
  have hyear : Date.yearOfDay (t.toNat / dayMicros) = ZoneRule.yearOf t := rfl
  rw [hyear] at hpos hlow hhigh
  refine ⟨hpos, ?_, ?_⟩
  · rcases Int.lt_or_le t 0 with hneg | hnonneg
    · left
      rw [← hyear, Int.toNat_of_nonpos (Int.le_of_lt hneg)]
      decide
    · right
      have hle := Nat.le_trans (Nat.mul_le_mul_right dayMicros hlow) (Nat.div_mul_le_self _ _)
      unfold yearStart
      omega
  · have hle := Nat.mul_le_mul_right dayMicros hhigh
    have hmod := Nat.lt_div_mul_add (a := t.toNat) (b := dayMicros) (by decide)
    rw [Nat.succ_mul] at hle
    unfold yearStart
    omega

theorem yearStart_le {y z : Nat} (hy : 1 ≤ y) (hyz : y < z) : yearStart (y + 1) ≤ yearStart z := by
  have hle := Date.daysBeforeYear_add_le hy hyz
  rw [← Date.daysBeforeYear_succ hy] at hle
  exact Int.ofNat_le.mpr (Nat.mul_le_mul_right dayMicros hle)

/-- Within two days of an instant the changes of its year tell the offset. -/
theorem offsetBy_nearby {before after : Int} {changes : Nat → ClockChange × ClockChange}
    (h : ∀ y, 1 ≤ y → TwoChanges before after y (changes y)) {y : Nat} {s t : Int}
    (hs : Holds y s) (hst : s ≤ t + 2 * dayMicros) (hts : t ≤ s + 2 * dayMicros) :
    offsetBy (changes (ZoneRule.yearOf t)) t = offsetBy (changes y) t := by
  have ht := holds_yearOf t
  generalize ZoneRule.yearOf t = z at ht ⊢
  have hday : 0 < dayMicros := by decide
  obtain ⟨hy1, hylow, hyhigh⟩ := hs
  obtain ⟨hz1, hzlow, hzhigh⟩ := ht
  have hy := h y hy1
  have hz := h z hz1
  unfold offsetBy
  rw [hy.first.1, hy.first.2, hy.second.2, hz.first.1, hz.first.2, hz.second.2]
  have hyo := hy.opens
  have hya := hy.apart
  have hyc := hy.closes
  have hzo := hz.opens
  have hza := hz.apart
  have hzc := hz.closes
  rcases Nat.lt_trichotomy y z with hlt | rfl | hgt
  · -- the year of `t` has just begun, and the other one has seen both changes
    have hle := yearStart_le hy1 hlt
    rw [if_pos (by omega), if_neg (by omega), if_neg (by omega)]
  · rfl
  · -- the year of `t` has seen both changes, and the other one has just begun
    have hle := yearStart_le hz1 hgt
    rw [if_neg (by omega), if_neg (by omega), if_pos (by omega)]

end Year

end FieldQuery
