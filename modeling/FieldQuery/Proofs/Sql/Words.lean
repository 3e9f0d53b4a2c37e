import FieldQuery.Proofs.Sql.Grammar

/-!
# Numbers are words

What is modelled. A word of the grammar is a run of characters without quotes, commas, blanks and
parentheses, and it is not empty.

What is proved. Every number is written as such a run, and so as a word: whole numbers
(`bare_signed`), fractions (`bare_fraction`), decimals with their words for what is no number
(`bare_decimal`), and binary numbers in both layouts (`bare_float`), none of them as the empty text.

What the words stand for plays no part here.
-/

namespace FieldQuery.Sql

/-- All characters may stand in a word. -/
def Bare (cs : List Char) : Prop := ∀ c ∈ cs, inWord c = true

instance (cs : List Char) : Decidable (Bare cs) :=
  decidable_of_iff (cs.all inWord = true) List.all_eq_true

theorem bare_nil : Bare [] := fun _ h => absurd h List.not_mem_nil

theorem Bare.cons {c : Char} {cs : List Char} (hc : inWord c = true) (h : Bare cs) :
    Bare (c :: cs) := List.forall_mem_cons.mpr ⟨hc, h⟩

theorem Bare.append {cs ds : List Char} (h : Bare cs) (h' : Bare ds) : Bare (cs ++ ds) :=
  List.forall_mem_append.mpr ⟨h, h'⟩

theorem Bare.of_subset {cs ds : List Char} (h : Bare cs) (hsub : ∀ c ∈ ds, c ∈ cs) : Bare ds :=
  fun c hc => h c (hsub c hc)

theorem bare_zeros (n : Nat) : Bare (List.replicate n '0') := by
  intro c hc
  rw [List.eq_of_mem_replicate hc]
  decide

theorem bare_sign (negative : Bool) : Bare (if negative then ['-'] else []) := by
  cases negative
  · exact bare_nil
  · exact .cons (by decide) bare_nil

theorem inWord_of_isDigit {c : Char} (h : c.isDigit = true) : inWord c = true := by
  rw [inWord, Bool.not_eq_true', ← Bool.not_eq_true, List.contains_iff_mem]
  intro hmem
  simp only [List.mem_cons, List.not_mem_nil, or_false] at hmem
  rcases hmem with rfl | rfl | rfl | rfl | rfl | rfl <;> exact absurd h (by decide)

theorem bare_digits (n : Nat) : Bare (Nat.toDigits 10 n) := fun _ hc =>
  inWord_of_isDigit (Nat.isDigit_of_mem_toDigits (by decide) (by decide) hc)

theorem bare_signed (n : Int) : Bare (Text.signed n) := by
  unfold Text.signed
  split
  · exact .cons (by decide) (bare_digits _)
  · exact bare_digits _

theorem signed_ne_nil (n : Int) : Text.signed n ≠ [] := by
  unfold Text.signed
  split
  · exact List.cons_ne_nil _ _
  · exact Nat.toDigits_ne_nil

theorem bare_fraction (q : Rat) : Bare (fractionText q).toList := by
  unfold fractionText
  split
  · rw [String.toList_ofList]
    exact bare_signed _
  · rw [String.toList_append, String.toList_append, String.toList_ofList,
      Nat.toString_eq_ofList_toDigits, String.toList_ofList, String.toList_ofList]
    exact ((bare_signed _).append (.cons (by decide) bare_nil)).append (bare_digits _)

theorem fraction_ne_nil (q : Rat) : (fractionText q).toList ≠ [] := by
  unfold fractionText
  split
  · rw [String.toList_ofList]
    exact signed_ne_nil _
  · rw [String.toList_append, String.toList_append, String.toList_ofList]
    simp [signed_ne_nil]

/-! ## Decimals -/

theorem bare_withPoint {ds : List Char} (h : Bare ds) (place : Int) :
    Bare (Decimal.withPoint ds place) := by
  unfold Decimal.withPoint
  split
  · exact .cons (by decide) (.cons (by decide) ((bare_zeros _).append h))
  split
  · exact h.append (bare_zeros _)
  · exact (h.of_subset fun _ => List.mem_of_mem_take).append
      (.cons (by decide) (h.of_subset fun _ => List.mem_of_mem_drop))

theorem withPoint_ne_nil {ds : List Char} (h : ds ≠ []) (place : Int) :
    Decimal.withPoint ds place ≠ [] := by
  unfold Decimal.withPoint
  split
  · exact List.cons_ne_nil _ _
  split
  · exact fun hnil => h (List.append_eq_nil_iff.mp hnil).1
  · exact fun hnil => List.cons_ne_nil _ _ (List.append_eq_nil_iff.mp hnil).2

theorem bare_finiteChars (x : Numeral) : Bare (Decimal.finiteChars x) := by
  have hpoint : ∀ place, Bare (Decimal.withPoint (Nat.toDigits 10 x.coefficient) place) :=
    bare_withPoint (bare_digits _)
  have hsign : Bare (if x.negative then ['-'] else []) := bare_sign _
  unfold Decimal.finiteChars
  dsimp only
  generalize (if x.negative then ['-'] else []) = sign at hsign
  split
  · exact hsign.append (hpoint _)
  refine (hsign.append (hpoint 1)).append ?_
  split
  · exact bare_nil
  · refine .cons (by decide) (.cons ?_ (bare_digits _))
    split <;> decide

theorem finiteChars_ne_nil (x : Numeral) : Decimal.finiteChars x ≠ [] := by
  have hpoint : ∀ place, Decimal.withPoint (Nat.toDigits 10 x.coefficient) place ≠ [] :=
    withPoint_ne_nil Nat.toDigits_ne_nil
  unfold Decimal.finiteChars
  dsimp only
  generalize (if x.negative then ['-'] else []) = sign
  split <;> simp [hpoint]

theorem bare_decimal (d : Decimal) : Bare d.chars := by
  cases d with
  | nan n =>
    refine (((bare_sign _).append ?_).append ?_).append ?_
    · cases n.signaling
      · exact bare_nil
      · exact .cons (by decide) bare_nil
    · decide
    · split
      · exact bare_nil
      · exact bare_digits _
  | infinite negative => exact (bare_sign negative).append (by decide)
  | finite x => exact bare_finiteChars x

theorem decimal_ne_nil (d : Decimal) : d.chars ≠ [] := by
  cases d with
  | nan n => simp [Decimal.chars, Decimal.NotNumber.chars]
  | infinite negative => simp [Decimal.chars]
  | finite x => exact finiteChars_ne_nil x

/-! ## Binary numbers -/

theorem bare_padded (width n : Nat) : Bare (Text.padded width n) :=
  (bare_zeros _).append (bare_digits n)

theorem bare_digitsIn (style : Binary64.Layout) (d : Nat) (p : Int) :
    Bare (Binary64.digitsIn style d p) := by
  have hds : Bare ((Nat.toDigits 10 d).reverse.dropWhile (· == '0')).reverse :=
    (bare_digits d).of_subset fun c hc =>
      List.mem_reverse.mp ((List.dropWhile_sublist _).subset (List.mem_reverse.mp hc))
  unfold Binary64.digitsIn
  dsimp only
  generalize ((Nat.toDigits 10 d).reverse.dropWhile (· == '0')).reverse = ds at hds ⊢
  split
  · refine Bare.append ?_ (.cons (by decide) (.cons ?_ (bare_padded _ _)))
    · split
      · have hcons := List.forall_mem_cons.mp hds
        exact .cons hcons.1 (.cons (by decide) hcons.2)
      · exact hds
    · split <;> decide
  split
  · exact .cons (by decide) (.cons (by decide) ((bare_zeros _).append hds))
  · have hfilled : ∀ n, Bare (ds ++ List.replicate n '0') := fun n => hds.append (bare_zeros n)
    exact ((hfilled _).of_subset fun _ => List.mem_of_mem_take).append
      (.cons (by decide) ((hfilled _).of_subset fun _ => List.mem_of_mem_drop))

theorem digitsIn_ne_nil (style : Binary64.Layout) (d : Nat) (p : Int) :
    Binary64.digitsIn style d p ≠ [] := by
  unfold Binary64.digitsIn
  dsimp only
  split
  · simp
  split <;> simp

theorem bare_float (x : Binary64) : Bare x.chars := by
  unfold Binary64.chars
  split
  · decide
  dsimp only
  split
  · exact (bare_sign _).append (by decide)
  split
  · exact (bare_sign _).append (by decide)
  · exact (bare_sign _).append (bare_digitsIn _ _ _)

theorem float_ne_nil (x : Binary64) : x.chars ≠ [] := by
  unfold Binary64.chars
  split
  · simp
  dsimp only
  split
  · simp
  split
  · simp
  · simp [digitsIn_ne_nil]

end FieldQuery.Sql
