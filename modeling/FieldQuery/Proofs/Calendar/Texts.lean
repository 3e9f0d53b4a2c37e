import FieldQuery.Proofs.Calendar.Days
import FieldQuery.Proofs.Text.Digits
import Mathlib.Algebra.Group.Nat.Defs

/-!
# Texts order like dates

What is modelled. The fields of a date-time are written from the largest to the smallest, each with
a fixed number of digits, so texts compare by code points as the fields compare one after the other.
Only the microseconds may be left out; the text without them is then a part at the front of any text
that differs from it in nothing else, and comes first.

What is proved. The order of the texts is that of the days for dates (`Date.texts_ordered`) and that
of the counts of microseconds for date-times (`Civil.texts_ordered`), and equal texts are those of
equal dates or date-times. The statement is proved in one direction, from fields to texts
(`Civil.Before.isoText_lt`). As the order of the fields is total, the other direction follows
(`orders_alike`).

Years have four digits in this calendar. Texts with an offset behind the time are never written by
normalization, and their order is not that of time.
-/

namespace FieldQuery

namespace Text

/-- Of texts of the same length the smaller one stays smaller, whatever follows. -/
theorem append_lt_append {p q : List Char} (hlength : p.length = q.length) (h : p < q)
    (x y : List Char) : p ++ x < q ++ y := by
  induction p generalizing q with
  | nil =>
    obtain rfl := List.length_eq_zero_iff.mp hlength.symm
    exact absurd h (List.lt_irrefl [])
  | cons c p ih =>
    obtain ⟨c', q, rfl⟩ := List.exists_cons_of_length_eq_add_one hlength.symm
    rw [List.cons_append, List.cons_append, List.cons_lt_cons_iff]
    rcases List.cons_lt_cons_iff.mp h with hhead | ⟨hhead, htail⟩
    · exact .inl hhead
    · exact .inr ⟨hhead, ih (Nat.succ.inj hlength) htail⟩

theorem cons_lt_cons_self (c : Char) {x y : List Char} (h : x < y) : c :: x < c :: y :=
  List.cons_lt_cons_iff.mpr (.inr ⟨rfl, h⟩)

/-! ## Numbers with a fixed number of digits -/

theorem digitChar_lt {n m : Nat} (h : n < m) (hm : m < 10) : n.digitChar < m.digitChar := by
  have hn := Nat.toNat_digitChar_of_lt_ten (n := n) (by omega)
  have hm' := Nat.toNat_digitChar_of_lt_ten hm
  rw [Char.lt_def, UInt32.lt_iff_toNat_lt]
  change n.digitChar.toNat < m.digitChar.toNat
  omega

theorem padded_one {n : Nat} (h : n < 10) : padded 1 n = [n.digitChar] := by
  rw [padded, Nat.toDigits_of_lt_base h]
  rfl

theorem length_padded {w n : Nat} (h : n < 10 ^ (w + 1)) : (padded (w + 1) n).length = w + 1 := by
  have hle := (Nat.length_toDigits_le_iff (b := 10) (n := n) (by decide) w.succ_pos).mpr h
  rw [padded, List.length_append, List.length_replicate]
  omega

theorem padded_lt {w n m : Nat} (h : n < m) (hm : m < 10 ^ (w + 1)) :
    padded (w + 1) n < padded (w + 1) m := by
  induction w generalizing n m with
  | zero =>
    have hten : m < 10 := by simpa using hm
    rw [padded_one (by omega), padded_one hten]
    exact List.cons_lt_cons_iff.mpr (.inl (digitChar_lt h hten))
  | succ w ih =>
    have hm' : m / 10 < 10 ^ (w + 1) :=
      Nat.div_lt_of_lt_mul (by rwa [Nat.pow_succ, Nat.mul_comm] at hm)
    rw [padded_succ, padded_succ]
    rcases Nat.lt_or_ge (n / 10) (m / 10) with hlt | hge
    · have hlength : (padded (w + 1) (n / 10)).length = (padded (w + 1) (m / 10)).length := by
        rw [length_padded (by omega), length_padded hm']
      exact append_lt_append hlength (ih hlt hm') _ _
    · have heq : n / 10 = m / 10 := by omega
      have hlast : n % 10 < m % 10 := by omega
      rw [heq]
      refine List.append_left_lt (List.cons_lt_cons_iff.mpr (.inl (digitChar_lt hlast ?_)))
      exact Nat.mod_lt _ (by decide)

/-- A smaller number in front decides, whatever follows. -/
theorem padded_append_lt {w n m : Nat} (h : n < m) (hm : m < 10 ^ (w + 1)) (x y : List Char) :
    padded (w + 1) n ++ x < padded (w + 1) m ++ y := by
  refine append_lt_append ?_ (padded_lt h hm) x y
  rw [length_padded (by omega), length_padded hm]

end Text

open Text

/-! ## Dates, times, date-times -/

namespace Date

theorem isoChars_eq (d : Date) : d.isoChars =
    padded 4 d.year ++ ('-' :: (padded 2 d.month ++ ('-' :: padded 2 d.day))) := by
  simp [isoChars]

theorem bounds (d : Date) : d.year < 10 ^ 4 ∧ d.month < 10 ^ 2 ∧ d.day < 10 ^ 2 := by
  obtain ⟨-, hy, -, hm, -, hd⟩ := d.isDate
  have hlength := (daysInMonth_bounds d.year d.month).2
  omega

theorem length_isoChars (d : Date) : d.isoChars.length = 10 := by
  obtain ⟨hy, hm, hd⟩ := d.bounds
  simp only [isoChars_eq, List.length_append, List.length_cons, length_padded hy, length_padded hm,
    length_padded hd]

theorem Before.isoChars_lt {a b : Date} (h : a.Before b) : a.isoChars < b.isoChars := by
  obtain ⟨hy, hm, hd⟩ := b.bounds
  rw [isoChars_eq, isoChars_eq]
  rcases h with hyear | ⟨hyear, hmonth | ⟨hmonth, hday⟩⟩
  · exact padded_append_lt hyear hy _ _
  · rw [hyear]
    exact List.append_left_lt (cons_lt_cons_self _ (padded_append_lt hmonth hm _ _))
  · rw [hyear, hmonth]
    refine List.append_left_lt (cons_lt_cons_self _ (List.append_left_lt (cons_lt_cons_self _ ?_)))
    exact padded_lt hday hd

end Date

namespace TimeOfDay

/-- The microseconds behind the point, unless they are zero. -/
def fractionChars (micro : Nat) : List Char := if micro = 0 then [] else '.' :: padded 6 micro

theorem isoChars_eq (t : TimeOfDay) : t.isoChars = padded 2 t.hour ++ (':' :: (padded 2 t.minute ++
    (':' :: (padded 2 t.second ++ fractionChars t.micro)))) := by
  simp [isoChars, fractionChars]

theorem fractionChars_lt {n m : Nat} (h : n < m) (hm : m < 10 ^ 6) :
    fractionChars n < fractionChars m := by
  have hpos : ¬ m = 0 := by omega
  rw [fractionChars, fractionChars, if_neg hpos]
  split
  · exact List.nil_lt_cons _ _
  · exact cons_lt_cons_self _ (padded_lt h hm)

theorem Before.isoChars_lt {a b : TimeOfDay} (h : a.Before b) : a.isoChars < b.isoChars := by
  have h1 : b.hour < 10 ^ 2 := Nat.lt_trans b.hour_lt (by decide)
  have h2 : b.minute < 10 ^ 2 := Nat.lt_trans b.minute_lt (by decide)
  have h3 : b.second < 10 ^ 2 := Nat.lt_trans b.second_lt (by decide)
  rw [isoChars_eq, isoChars_eq]
  rcases h with hhour | ⟨hhour, hminute | ⟨hminute, hsecond | ⟨hsecond, hmicro⟩⟩⟩
  · exact padded_append_lt hhour h1 _ _
  · rw [hhour]
    exact List.append_left_lt (cons_lt_cons_self _ (padded_append_lt hminute h2 _ _))
  · rw [hhour, hminute]
    refine List.append_left_lt (cons_lt_cons_self _ (List.append_left_lt (cons_lt_cons_self _ ?_)))
    exact padded_append_lt hsecond h3 _ _
  · rw [hhour, hminute, hsecond]
    refine List.append_left_lt (cons_lt_cons_self _ (List.append_left_lt (cons_lt_cons_self _ ?_)))
    exact List.append_left_lt (fractionChars_lt hmicro b.micro_lt)

end TimeOfDay

theorem Civil.Before.isoText_lt {a b : Civil} (h : a.Before b) : a.isoText < b.isoText := by
  rw [String.lt_iff, isoText, isoText, String.toList_ofList, String.toList_ofList, chars, chars]
  rcases h with hdate | ⟨hdate, htime⟩
  · refine append_lt_append ?_ hdate.isoChars_lt _ _
    rw [Date.length_isoChars, Date.length_isoChars]
  · rw [hdate]
    exact List.append_left_lt (cons_lt_cons_self _ htime.isoChars_lt)

/-! ## Both directions -/

/-- Two readings that both follow a total order decide alike, and tell the same things apart. -/
theorem orders_alike {α : Type} {before : α → α → Prop} (count : α → Nat) (text : α → String)
    (htotal : ∀ a b, before a b ∨ a = b ∨ before b a)
    (hcount : ∀ a b, before a b → count a < count b)
    (htext : ∀ a b, before a b → text a < text b) (a b : α) :
    (text a < text b ↔ count a < count b) ∧ (text a = text b ↔ count a = count b) ∧
      (count a = count b ↔ a = b) := by
  rcases htotal a b with hab | rfl | hba
  · have hlt := hcount a b hab
    have htlt := htext a b hab
    exact ⟨⟨fun _ => hlt, fun _ => htlt⟩,
      ⟨fun heq => absurd (heq ▸ htlt) (String.lt_irrefl _),
        fun heq => absurd heq (Nat.ne_of_lt hlt)⟩,
      ⟨fun heq => absurd heq (Nat.ne_of_lt hlt), fun heq => heq ▸ rfl⟩⟩
  · exact ⟨⟨fun h => absurd h (String.lt_irrefl _), fun h => absurd h (Nat.lt_irrefl _)⟩,
      ⟨fun _ => rfl, fun _ => rfl⟩, ⟨fun _ => rfl, fun _ => rfl⟩⟩
  · have hlt := hcount b a hba
    have htlt := htext b a hba
    exact ⟨⟨fun h => absurd htlt (String.lt_asymm h), fun h => absurd hlt (Nat.lt_asymm h)⟩,
      ⟨fun heq => absurd (heq ▸ htlt) (String.lt_irrefl _),
        fun heq => absurd heq.symm (Nat.ne_of_lt hlt)⟩,
      ⟨fun heq => absurd heq.symm (Nat.ne_of_lt hlt), fun heq => heq ▸ rfl⟩⟩

theorem Date.texts_ordered (a b : Date) :
    (String.ofList a.isoChars < String.ofList b.isoChars ↔ a.dayNumber < b.dayNumber) ∧
    (String.ofList a.isoChars = String.ofList b.isoChars ↔ a.dayNumber = b.dayNumber) ∧
      (a.dayNumber = b.dayNumber ↔ a = b) := by
  refine orders_alike dayNumber (fun d => String.ofList d.isoChars) before_trichotomy
    (fun _ _ => Before.dayNumber_lt) (fun a b h => ?_) a b
  rw [String.lt_iff, String.toList_ofList, String.toList_ofList]
  exact h.isoChars_lt

theorem Civil.texts_ordered (a b : Civil) :
    (a.isoText < b.isoText ↔ a.micros < b.micros) ∧ (a.isoText = b.isoText ↔ a.micros = b.micros) ∧
      (a.micros = b.micros ↔ a = b) :=
  orders_alike micros isoText before_trichotomy (fun _ _ => Before.micros_lt)
    (fun _ _ => Before.isoText_lt) a b

end FieldQuery
