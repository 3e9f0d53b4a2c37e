import FieldQuery.Text.Digits

/-!
# Digits are read back

What is modelled. Numbers written as runs of digits, as short as they can be or filled with zeros up
to a width, in decimal or in hexadecimal. A run ends where a character of another class stands.

What is proved. A run is taken off the front of a text as far as it goes (`span_append`), and its
number is read back (`number?_toDigits`). Filled runs are written digit by digit from the left
(`padded_succ`, `paddedHex_succ`), and a code unit is four hexadecimal digits that read back one by
one (`exists_paddedHex_four`).

How many digits the writer or the reader of a number may have is for those to say who limit them.
-/

namespace FieldQuery.Text

/-! ## Runs -/

/-- A run of characters of one class is split off in front of a character of another. -/
theorem span_append {p : Char → Bool} {cs rest : List Char} (hcs : ∀ c ∈ cs, p c = true)
    (hrest : ∀ c ∈ rest.head?, p c = false) :
    (cs ++ rest).takeWhile p = cs ∧ (cs ++ rest).dropWhile p = rest := by
  rw [List.takeWhile_append_of_pos hcs, List.dropWhile_append_of_pos hcs]
  cases rest with
  | nil => exact ⟨List.append_nil cs, rfl⟩
  | cons c rest =>
    have hc : ¬ p c = true := by
      rw [hrest c rfl]
      exact Bool.false_ne_true
    rw [List.takeWhile_cons_of_neg hc, List.dropWhile_cons_of_neg hc]
    exact ⟨List.append_nil cs, rfl⟩

theorem span_self {p : Char → Bool} {cs : List Char} (hcs : ∀ c ∈ cs, p c = true) :
    cs.takeWhile p = cs ∧ cs.dropWhile p = [] := by
  have h : (cs ++ []).takeWhile p = cs ∧ (cs ++ []).dropWhile p = [] := span_append hcs nofun
  rwa [List.append_nil] at h

/-! ## Decimal digits -/

theorem digit?_of_isDigit {c : Char} (h : c.isDigit = true) :
    digit? c = some (c.toNat - '0'.toNat) := by
  have hbounds : '0' ≤ c ∧ c ≤ '9' := by
    rw [Char.isDigit, Bool.and_eq_true, decide_eq_true_eq, decide_eq_true_eq] at h
    exact h
  rw [digit?, if_pos hbounds]

theorem valueFrom_eq_ofDigitChars (ds : List Char) (h : ∀ c ∈ ds, c.isDigit = true)
    (start : Nat) : valueFrom digit? 10 start ds = some (Nat.ofDigitChars 10 ds start) := by
  induction ds generalizing start with
  | nil => rw [valueFrom, Nat.ofDigitChars_nil]
  | cons c ds ih =>
    obtain ⟨hc, hds⟩ := List.forall_mem_cons.mp h
    rw [valueFrom, digit?_of_isDigit hc, Nat.ofDigitChars_cons, Nat.mul_comm 10]
    exact ih hds _

theorem isDigit_toDigits (n : Nat) : ∀ c ∈ Nat.toDigits 10 n, c.isDigit = true := fun _ hc =>
  Nat.isDigit_of_mem_toDigits (by decide) (by decide) hc

/-- The digits of a number are read back. -/
theorem number?_toDigits (n : Nat) : number? (Nat.toDigits 10 n) = some n := by
  obtain ⟨c, cs, hcons⟩ := List.exists_cons_of_ne_nil (Nat.toDigits_ne_nil (b := 10) (n := n))
  have hvalue := valueFrom_eq_ofDigitChars _ (isDigit_toDigits n) 0
  rw [Nat.ofDigitChars_toDigits (by decide) (by decide)] at hvalue
  rwa [hcons] at hvalue ⊢

/-! ## Digits with a fixed width -/

/-- In every base the last digit stands behind the filled digits of the number without it. -/
theorem filled_succ {b : Nat} (hb : 1 < b) (w n : Nat) :
    List.replicate (w + 2 - (Nat.toDigits b n).length) '0' ++ Nat.toDigits b n =
      (List.replicate (w + 1 - (Nat.toDigits b (n / b)).length) '0' ++ Nat.toDigits b (n / b)) ++
        [(n % b).digitChar] := by
  rcases Nat.lt_or_ge n b with h | h
  · have hzero : Nat.toDigits b 0 = ['0'] := Nat.toDigits_of_lt_base (by omega)
    have hzeros : List.replicate w '0' ++ ['0'] = List.replicate (w + 1) '0' :=
      List.replicate_succ'.symm
    simp only [Nat.div_eq_of_lt h, Nat.mod_eq_of_lt h, Nat.toDigits_of_lt_base h, hzero,
      List.length_singleton, Nat.add_sub_cancel, hzeros]
    rfl
  · have hsplit : Nat.toDigits b n = Nat.toDigits b (n / b) ++ [(n % b).digitChar] := by
      rw [Nat.toDigits_eq_if hb, if_neg (Nat.not_lt.mpr h)]
    simp only [hsplit, List.length_append, List.length_singleton, Nat.reduceSubDiff,
      List.append_assoc]

theorem padded_succ (w n : Nat) :
    padded (w + 2) n = padded (w + 1) (n / 10) ++ [(n % 10).digitChar] :=
  filled_succ (by decide) w n

theorem paddedHex_succ (w n : Nat) :
    paddedHex (w + 2) n = paddedHex (w + 1) (n / 16) ++ [(n % 16).digitChar] :=
  filled_succ (by decide) w n

theorem paddedHex_one {n : Nat} (h : n < 16) : paddedHex 1 n = [n.digitChar] := by
  rw [paddedHex, Nat.toDigits_of_lt_base h]
  rfl

theorem hexDigit?_digitChar : ∀ n < 16, hexDigit? n.digitChar = some n := by decide

/-- A number of sixteen bits is written in four digits, which are read back. -/
theorem exists_paddedHex_four {n : Nat} (h : n < 0x10000) :
    ∃ a b c d, paddedHex 4 n = [a, b, c, d] ∧ hexNumber? [a, b, c, d] = some n := by
  refine ⟨(n / 16 / 16 / 16).digitChar, (n / 16 / 16 % 16).digitChar, (n / 16 % 16).digitChar,
    (n % 16).digitChar, ?_, ?_⟩
  · rw [paddedHex_succ, paddedHex_succ, paddedHex_succ, paddedHex_one (by omega)]
    rfl
  · have hdigit : ∀ m, hexDigit? (m % 16).digitChar = some (m % 16) := fun m =>
      hexDigit?_digitChar _ (Nat.mod_lt _ (by decide))
    simp only [hexNumber?, valueFrom, hexDigit?_digitChar (n / 16 / 16 / 16) (by omega), hdigit]
    exact congrArg some (by omega)

end FieldQuery.Text
