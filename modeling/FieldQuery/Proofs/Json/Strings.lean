import FieldQuery.Json.Reader
import FieldQuery.Json.Writer
import FieldQuery.Proofs.Text.Digits
import FieldQuery.Proofs.Value.Pairs

/-!
# Strings come back from JSON

What is modelled. A string is written code point by code point: as itself, by a letter behind a
backslash, as one code unit in hexadecimal digits, or as a pair of such units. The reader takes any
string that JSON allows and joins the pairs among the units that it has read.

What is proved. Reading takes exactly the units of one code point off the front
(`stringBody_escapedPoint`), so a string is read to its closing quote, whatever stands behind that,
and as the text with its pairs of surrogates joined (`string?_textChars`). Nothing is said of
strings that are written in another way; escapes that are not used here are read as well.
-/

namespace FieldQuery.Json

variable {texts : Texts}

/-! ## Code units -/

/-- A code unit is read as what it is by itself. -/
theorem stringBody_unit {n : Nat} (hn : n < 0x10000) (cs : List Char) :
    stringBody (unitEscape n ++ cs) = prepend (.ofUnit n) (stringBody cs) := by
  obtain ⟨a, b, c, d, hdigits, hread⟩ := Text.exists_paddedHex_four hn
  rw [unitEscape, hdigits]
  simp only [List.cons_append, List.nil_append]
  rw [stringBody, unit?, hread]

/-! ## Characters -/

/-- The letter behind a backslash is read as the character that it names. -/
theorem stringBody_letter {c x : Char} (hc : c ≠ 'u') (hx : escape? c = some x) (cs : List Char) :
    stringBody ('\\' :: c :: cs) = prepend (.scalar x) (stringBody cs) := by
  rw [stringBody.eq_4 _ _ (by simp [hc]), hx]

theorem stringBody_plain {c : Char} (hquote : c ≠ '"') (hslash : c ≠ '\\') (hc : 0x20 ≤ c.toNat)
    (cs : List Char) : stringBody (c :: cs) = prepend (.scalar c) (stringBody cs) := by
  rw [stringBody, if_neg (by simp [hslash, hc])]
  · exact hquote
  · exact fun _ _ _ _ _ h => absurd h hslash
  · exact fun _ _ h => absurd h hslash

/-- What reading does with some units that come first. -/
def prependAll (us : List CodePoint) (r : Option (List CodePoint × List Char)) :
    Option (List CodePoint × List Char) :=
  us.foldr prepend r

/-- Whatever a character is written as, its units are read. -/
theorem stringBody_escaped (c : Char) (cs : List Char) :
    stringBody (escaped c ++ cs) = prependAll (CodePoint.scalar c).units (stringBody cs) := by
  have hsmall (h : c.toNat < 0x10000) : (CodePoint.scalar c).units = [.scalar c] := if_pos h
  unfold escaped
  -- the quote, the backslash and the five controls that have a letter
  iterate 7
    split
    · next h =>
      subst h
      exact stringBody_letter (by decide) rfl cs
  · next hquote hslash _ _ _ _ _ =>
    split
    · next h =>
      rw [hsmall (by omega)]
      exact stringBody_plain hquote hslash h.1 cs
    have hvalid : c.toNat < 0xD800 ∨ 0xDFFF < c.toNat ∧ c.toNat < 0x110000 := c.valid
    split
    · next h =>
      rw [hsmall h, stringBody_unit h, CodePoint.ofUnit_scalar (by omega), Char.ofNat_toNat]
      rfl
    · next h =>
      rw [CodePoint.units, if_neg h, List.append_assoc, stringBody_unit (by omega),
        stringBody_unit (by omega)]
      rfl

theorem stringBody_escapedPoint (p : CodePoint) (cs : List Char) :
    stringBody (escapedPoint p ++ cs) = prependAll p.units (stringBody cs) := by
  cases p with
  | scalar c => exact stringBody_escaped c cs
  | surrogate n =>
    rw [escapedPoint, stringBody_unit (by omega), CodePoint.ofUnit_surrogate]
    rfl

/-! ## Strings -/

theorem prependAll_some (us ps : List CodePoint) (cs : List Char) :
    prependAll us (some (ps, cs)) = some (us ++ ps, cs) := by
  induction us with
  | nil => rfl
  | cons u us ih =>
    rw [prependAll, List.foldr_cons]
    exact congrArg (prepend u) ih

/-- A string is read up to its closing quote, and what stands behind it is left. -/
theorem stringBody_stringChars (ps : List CodePoint) (rest : List Char) :
    ∃ body, stringChars ps ++ rest = '"' :: body ∧
      stringBody body = some (ps.flatMap CodePoint.units, rest) := by
  refine ⟨ps.flatMap escapedPoint ++ '"' :: rest, by simp [stringChars], ?_⟩
  induction ps with
  | nil => rfl
  | cons p ps ih =>
    rw [List.flatMap_cons, List.append_assoc, stringBody_escapedPoint, ih, prependAll_some,
      List.flatMap_cons]

/-- The string of a text. -/
def textChars (v : Value texts) : List Char := stringChars (v.points?.getD [])

/-- The string of a text is read as the text with its pairs joined. -/
theorem string?_textChars {v : Value texts} (h : v.IsString) (rest : List Char) :
    ∃ body, textChars v ++ rest = '"' :: body ∧ string? body = some (v.joinPairs, rest) := by
  obtain ⟨ps, hps, hv⟩ := Value.ofPoints?_joinPairs h
  obtain ⟨body, hbody, hread⟩ := stringBody_stringChars ps rest
  refine ⟨body, by rw [textChars, hps]; exact hbody, ?_⟩
  rw [string?, hread, Option.bind_some, Text.joinPairs_units, hv]
  rfl

end FieldQuery.Json
