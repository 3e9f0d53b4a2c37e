import FieldQuery.Json.Reader
import FieldQuery.Json.Writer
import FieldQuery.Proofs.Text.Digits

/-!
# Words and numbers come back from JSON

What is modelled. Nothing, truth values and whole numbers are written as bare words. A reader tells
a number from what stands behind it by the first character that no number holds.

What is proved. A word is read as its value whatever stands behind it (`scalar?_word`), and a whole
number as itself where no number goes on behind it, by a reader that takes as many digits
(`scalar?_signed`): its digits have no zero in front, so they are a whole part
(`isWholePart_toDigits`), and no word begins like a number.

Fractions and exponents, which the reader takes as well, are never written for a whole number, and
nothing is said of them.
-/

namespace FieldQuery.Json

variable {texts : Texts}

/-- What may stand behind a number: nothing that could go on with it. -/
def Stops (rest : List Char) : Prop := ∀ c ∈ rest.head?, isNumberChar c = false

theorem stops_nil : Stops [] := nofun

theorem stops_cons {c : Char} (h : isNumberChar c = false) (cs : List Char) : Stops (c :: cs) := by
  intro d hd
  obtain rfl : c = d := Option.some.inj hd
  exact h

/-! ## Digits -/

/-- Digits without a zero in front. -/
theorem exists_cons_toDigits {n : Nat} (h : n ≠ 0) :
    ∃ c cs, Nat.toDigits 10 n = c :: cs ∧ c ≠ '0' := by
  induction n using Nat.strongRecOn with
  | ind n ih =>
    rcases Nat.lt_or_ge n 10 with hlt | hge
    · have hdigit : ∀ m < 10, m ≠ 0 → m.digitChar ≠ '0' := by decide
      exact ⟨n.digitChar, [], Nat.toDigits_of_lt_base hlt, hdigit n hlt h⟩
    · obtain ⟨c, cs, hcs, hc⟩ := ih (n / 10) (by omega) (by omega)
      refine ⟨c, cs ++ [(n % 10).digitChar], ?_, hc⟩
      rw [Nat.toDigits_eq_if (by decide), if_neg (Nat.not_lt.mpr hge), hcs, List.cons_append]

theorem isWholePart_toDigits (n : Nat) : isWholePart (Nat.toDigits 10 n) = true := by
  by_cases h : n = 0
  · rw [h]
    rfl
  · obtain ⟨c, cs, hcs, hc⟩ := exists_cons_toDigits h
    rw [hcs, isWholePart.eq_3 _ (by simp [hc]) (by simp [hc])]
    rfl

theorem unsignedNumber?_toDigits {digits n : Nat} (negative : Bool)
    (h : (Nat.toDigits 10 n).length ≤ digits) :
    unsignedNumber? digits negative (Nat.toDigits 10 n) =
      some (.int (if negative then -(n : Int) else n) : Value texts) := by
  obtain ⟨htake, hdrop⟩ := Text.span_self (Text.isDigit_toDigits n)
  have hfits : ¬ digits < (Nat.toDigits 10 n).length := by omega
  simp only [unsignedNumber?, htake, hdrop, isWholePart_toDigits, hfits, Text.number?_toDigits]
  rfl

theorem number?_signed {digits : Nat} (n : Int) (h : (Text.signed n).length ≤ digits) :
    number? digits (Text.signed n) = some (.int n : Value texts) := by
  unfold Text.signed at h ⊢
  split at h
  · next hneg =>
    rw [if_pos hneg, number?, unsignedNumber?_toDigits true (Nat.le_of_succ_le h)]
    exact congrArg (fun m => some (Value.int m : Value texts)) (by rw [if_pos rfl]; omega)
  · next hneg =>
    have hplus : ∀ ds, Nat.toDigits 10 n.natAbs ≠ '-' :: ds := by
      intro ds hds
      have hdigit := Text.isDigit_toDigits n.natAbs '-' (by rw [hds]; exact List.mem_cons_self)
      exact absurd hdigit (by decide)
    rw [if_neg hneg, number?.eq_2 _ _ hplus, unsignedNumber?_toDigits false h]
    exact congrArg (fun m => some (Value.int m : Value texts))
      (by rw [if_neg Bool.false_ne_true]; omega)

/-! ## Bare words -/

theorem isNumberChar_signed (n : Int) : ∀ c ∈ Text.signed n, isNumberChar c = true := by
  have hdigits : ∀ c ∈ Nat.toDigits 10 n.natAbs, isNumberChar c = true := by
    intro c hc
    rw [isNumberChar, Text.isDigit_toDigits n.natAbs c hc]
    rfl
  unfold Text.signed
  split
  · exact List.forall_mem_cons.mpr ⟨rfl, hdigits⟩
  · exact hdigits

/-- A word is read as its value, whatever stands behind it. -/
theorem scalar?_word {w : List Char} {v : Value texts} (digits : Nat) (rest : List Char)
    (h : words.find? (fun u => u.1.isPrefixOf (w ++ rest)) = some (w, v)) :
    scalar? digits (w ++ rest) = some (v, rest) := by
  rw [scalar?, h]
  dsimp only
  rw [List.drop_left]

/-- A number starts with a digit, or with a minus sign and a digit. -/
theorem exists_cons_signed (n : Int) : ∃ c cs, c.isDigit = true ∧
    (Text.signed n = c :: cs ∨ Text.signed n = '-' :: c :: cs) := by
  obtain ⟨c, cs, hcs⟩ := List.exists_cons_of_ne_nil (Nat.toDigits_ne_nil (b := 10) (n := n.natAbs))
  have hc := Text.isDigit_toDigits n.natAbs c (by rw [hcs]; exact List.mem_cons_self)
  refine ⟨c, cs, hc, ?_⟩
  unfold Text.signed
  split
  · exact .inr (by rw [hcs])
  · exact .inl hcs

/-- A number is none of the words, which have a letter in the place of its first digit. -/
theorem find?_words_signed (n : Int) (rest : List Char) :
    (words : List (List Char × Value texts)).find?
      (fun u => u.1.isPrefixOf (Text.signed n ++ rest)) = none := by
  have hletter {l c : Char} (hl : l.isDigit = false) (hc : c.isDigit = true) :
      (l == c) = false := by
    rw [beq_eq_false_iff_ne]
    rintro rfl
    rw [hc] at hl
    cases hl
  obtain ⟨c, cs, hc, h | h⟩ := exists_cons_signed n
  · simp [words, h, List.isPrefixOf, hletter _ hc]
  · simp [words, h, List.isPrefixOf, hletter _ hc]

theorem scalar?_signed {digits : Nat} (n : Int) {rest : List Char}
    (h : (Text.signed n).length ≤ digits) (hrest : Stops rest) :
    scalar? digits (Text.signed n ++ rest) = some ((.int n : Value texts), rest) := by
  obtain ⟨htake, hdrop⟩ := Text.span_append (isNumberChar_signed n) hrest
  rw [scalar?, find?_words_signed]
  dsimp only
  rw [htake, hdrop, number?_signed n h, Option.map_some]

end FieldQuery.Json
