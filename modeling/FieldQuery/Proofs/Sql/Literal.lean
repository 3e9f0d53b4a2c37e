import FieldQuery.Proofs.Sql.Meaning
import FieldQuery.Proofs.Text.Digits

/-!
# Values come back from their literals

What is modelled. A literal is read in two steps: an operand is taken off the front of the text, and
the tree of the operand says what it writes. Legible are nothing, truth values, whole numbers, texts
and sequences of such, nested in any way (`Legible`).

What is proved. A legible value comes back from its literal whatever stands behind it, except that
tuples come back as lists (`legible_decodes`). So no two legible values share a literal unless they
differ in that, and outside of the quotes stands a frame in which the texts have no part (`frame`).

Left out are values that are written as the texts that they show, numbers of other formats, which
are treated as words, and the limit on the digits of a number that is turned into text.
-/

namespace FieldQuery

namespace Sql

/-! ## Reading literals -/

/-- The whole number that a word writes, with a minus sign or without. -/
def whole? : List Char → Option Int
  | '-' :: ds => (Text.number? ds).map fun n : Nat => -(n : Int)
  | ds => (Text.number? ds).map Int.ofNat

/-- The value that a word writes. -/
def wordValue? (word : List Char) : Option Value :=
  match whole? word with
  | some n => some (.int n)
  | none =>
    if word = "NULL".toList then some .null
    else if word = "TRUE".toList then some (.bool true)
    else if word = "FALSE".toList then some (.bool false)
    else none

namespace Operand

mutual

/-- The value that an operand writes. -/
def value? : Operand → Option Value
  | text content => some (.str (String.ofList content))
  | word w => wordValue? w.chars
  | group items => (values? items).map .list
termination_by structural o => o

def values? : List Operand → Option (List Value)
  | [] => some []
  | o :: os =>
    match value? o, values? os with
    | some v, some vs => some (v :: vs)
    | _, _ => none
termination_by structural os => os

end

end Operand

/-- Takes a literal off the front of a text. -/
def readLiteral (cs : List Char) : Option (Value × List Char) :=
  match Operand.read cs with
  | some (o, rest) => o.value?.map fun v => (v, rest)
  | none => none

theorem whole?_signed (n : Int) : whole? (Text.signed n) = some n := by
  unfold Text.signed
  split
  · rename_i hneg
    rw [whole?, Text.number?_toDigits, Option.map_some]
    exact congrArg some (by omega)
  · rename_i hneg
    have hplus : ∀ ds, Nat.toDigits 10 n.natAbs ≠ '-' :: ds := by
      intro ds hds
      have hdigit := Nat.isDigit_of_mem_toDigits (b := 10) (n := n.natAbs) (c := '-') (by decide)
        (by decide) (by rw [hds]; exact List.mem_cons_self)
      exact absurd hdigit (by decide)
    rw [whole?, Text.number?_toDigits, Option.map_some]
    · exact congrArg some (Int.natAbs_of_nonneg (by omega))
    · exact hplus

/-! ## Values that can be read back -/

/-- The values that a literal keeps. -/
inductive Legible : Value → Prop
  | null : Legible .null
  | bool (b : Bool) : Legible (.bool b)
  | int (n : Int) : Legible (.int n)
  | str (s : String) : Legible (.str s)
  | list {xs : List Value} (h : ∀ x ∈ xs, Legible x) : Legible (.list xs)
  | tuple {xs : List Value} (h : ∀ x ∈ xs, Legible x) : Legible (.tuple xs)

mutual

/-- A value with lists for all tuples in it. -/
def listed : Value → Value
  | .list xs => .list (listedAll xs)
  | .tuple xs => .list (listedAll xs)
  | v => v
termination_by structural v => v

def listedAll : List Value → List Value
  | [] => []
  | x :: xs => listed x :: listedAll xs
termination_by structural xs => xs

end

/-- The literal of the value is an operand, and that operand writes the value. -/
def Writable (v : Value) : Prop :=
  ∃ o : Operand, o.chars = formatChars v ∧ o.value? = some (listed v)

theorem exists_group (xs : List Value) (h : ∀ x ∈ xs, Writable x) :
    ∃ o : Operand, o.chars = (Literal.group (Literal.ofValues xs)).chars ∧
      o.value? = some (.list (listedAll xs)) := by
  have hitems : ∃ os : List Operand,
      Operand.charsEach os = Literal.charsAll (Literal.ofValues xs) ∧
      Operand.values? os = some (listedAll xs) := by
    induction xs with
    | nil => exact ⟨[], rfl, rfl⟩
    | cons x xs ih =>
      obtain ⟨⟨o, hchars, hvalue⟩, hrest⟩ := List.forall_mem_cons.mp h
      obtain ⟨os, htexts, hvalues⟩ := ih hrest
      refine ⟨o :: os, ?_, ?_⟩
      · rw [Operand.charsEach, hchars, htexts]
        rfl
      · rw [Operand.values?, hvalue, hvalues, listedAll]
  obtain ⟨os, hchars, hvalues⟩ := hitems
  refine ⟨.group os, ?_, ?_⟩
  · rw [Operand.chars, Literal.chars, hchars]
  · rw [Operand.value?, hvalues, Option.map_some]

theorem legible_writable {v : Value} (h : Legible v) : Writable v := by
  have hnull : Bare "NULL".toList := by decide
  have hfalse : Bare "FALSE".toList := by decide
  have htrue : Bare "TRUE".toList := by decide
  induction h with
  | null => exact ⟨.word ⟨"NULL".toList, by decide, hnull⟩, rfl, rfl⟩
  | bool b =>
    cases b
    · exact ⟨.word ⟨"FALSE".toList, by decide, hfalse⟩, rfl, rfl⟩
    · exact ⟨.word ⟨"TRUE".toList, by decide, htrue⟩, rfl, rfl⟩
  | int n =>
    refine ⟨.word ⟨Text.signed n, signed_ne_nil n, bare_signed n⟩, rfl, ?_⟩
    rw [Operand.value?, wordValue?, whole?_signed]
    rfl
  | str s =>
    refine ⟨.text s.toList, rfl, ?_⟩
    rw [Operand.value?, String.ofList_toList]
    rfl
  | @list xs _ ih => exact exists_group xs ih
  | @tuple xs _ ih => exact exists_group xs ih

theorem readLiteral_formatChars {v : Value} (h : Legible v) {rest : List Char}
    (hrest : Ends rest) : readLiteral (formatChars v ++ rest) = some (listed v, rest) := by
  obtain ⟨o, hchars, hvalue⟩ := legible_writable h
  rw [← hchars, readLiteral, Operand.read_chars o hrest]
  dsimp only
  rw [hvalue, Option.map_some]

/-- A tuple has the literal of the list. -/
theorem formatChars_listed {v : Value} (h : Legible v) :
    formatChars (listed v) = formatChars v := by
  have hitems : ∀ xs : List Value,
      (∀ x ∈ xs, Literal.ofValue (listed x) = Literal.ofValue x) →
      Literal.ofValues (listedAll xs) = Literal.ofValues xs := by
    intro xs hxs
    induction xs with
    | nil => rfl
    | cons x xs ih =>
      obtain ⟨hx, hrest⟩ := List.forall_mem_cons.mp hxs
      rw [listedAll, Literal.ofValues, Literal.ofValues, hx, ih hrest]
  refine congrArg Literal.chars ?_
  induction h with
  | null | bool b | int n | str s => rfl
  | list _ ih | tuple _ ih => exact congrArg Literal.group (hitems _ ih)

/-! ## Outside of the quotes -/

namespace Literal

mutual

/-- The written form of a literal without the texts in it. -/
def frame : Literal → List Char
  | null => "NULL".toList
  | bool b => if b then "TRUE".toList else "FALSE".toList
  | number word => word
  | text _ => []
  | group items => '(' :: Text.joined ", ".toList (frameEach items) ++ [')']
termination_by structural l => l

def frameEach : List Literal → List (List Char)
  | [] => []
  | l :: ls => frame l :: frameEach ls
termination_by structural ls => ls

end

end Literal

/-- What stands outside of the single quotes in the literal of a value. -/
def frame (v : Value) : List Char := (Literal.ofValue v).frame

theorem Bare.unquoted {cs : List Char} (h : Bare cs) : ∀ c ∈ cs, c ≠ '\'' := by
  rintro c hc rfl
  exact absurd (h _ hc) (by decide)

theorem outside_joined (xs : List Value) (h : ∀ x ∈ xs, ∀ rest,
      outside '\'' false (formatChars x ++ rest) = frame x ++ outside '\'' false rest)
    (rest : List Char) :
    outside '\'' false (Text.joined ", ".toList (Literal.charsAll (Literal.ofValues xs)) ++ rest) =
      Text.joined ", ".toList (Literal.frameEach (Literal.ofValues xs)) ++
        outside '\'' false rest := by
  have hcomma : ∀ rest, outside '\'' false (", ".toList ++ rest) =
      ", ".toList ++ outside '\'' false rest := fun rest => outside_unmarked (by simp)
  induction xs with
  | nil => rfl
  | cons x xs ih =>
    obtain ⟨hx, hxs⟩ := List.forall_mem_cons.mp h
    cases xs with
    | nil => exact hx rest
    | cons y xs =>
      have hchars : Text.joined ", ".toList (Literal.charsAll (Literal.ofValues (x :: y :: xs))) =
          formatChars x ++ (", ".toList ++
            Text.joined ", ".toList (Literal.charsAll (Literal.ofValues (y :: xs)))) := by
        rw [← List.append_assoc]
        rfl
      have hframes : Text.joined ", ".toList (Literal.frameEach (Literal.ofValues (x :: y :: xs))) =
          frame x ++ (", ".toList ++
            Text.joined ", ".toList (Literal.frameEach (Literal.ofValues (y :: xs)))) := by
        rw [← List.append_assoc]
        rfl
      rw [hchars, hframes, List.append_assoc, List.append_assoc, hx, hcomma, ih hxs]
      simp only [List.append_assoc]

/-- The scanner comes out of the literal with the frame and outside of the quotes. -/
theorem outside_formatChars {v : Value} (h : Legible v) (rest : List Char) :
    outside '\'' false (formatChars v ++ rest) = frame v ++ outside '\'' false rest := by
  have hgroup : ∀ xs : List Value, (∀ x ∈ xs, ∀ rest,
      outside '\'' false (formatChars x ++ rest) = frame x ++ outside '\'' false rest) →
      ∀ rest, outside '\'' false ((Literal.group (Literal.ofValues xs)).chars ++ rest) =
        (Literal.group (Literal.ofValues xs)).frame ++ outside '\'' false rest := by
    intro xs hxs rest
    have hparen : ∀ c cs, c = '(' ∨ c = ')' →
        outside '\'' false (c :: cs) = c :: outside '\'' false cs := by
      intro c cs hc
      refine outside_unmarked (List.forall_mem_singleton.mpr ?_)
      rcases hc with rfl | rfl <;> decide
    rw [Literal.chars, Literal.frame]
    simp only [List.cons_append, List.append_assoc, List.nil_append]
    rw [hparen '(' _ (.inl rfl), outside_joined xs hxs, hparen ')' _ (.inr rfl)]
  induction h generalizing rest with
  | null => exact outside_unmarked (Bare.unquoted (by decide))
  | bool b => cases b <;> exact outside_unmarked (Bare.unquoted (by decide))
  | int n => exact outside_unmarked (bare_signed n).unquoted
  | str s => exact outside_enclosed s.toList
  | list _ ih | tuple _ ih => exact hgroup _ ih rest

/-! ## Literals -/

/-- What the literal of a value keeps of it. -/
structure Decodes (v : Value) : Prop where
  /-- The value is read back with lists for tuples, and what follows is left as it is. -/
  reads : ∀ rest, Ends rest → readLiteral (formatChars v ++ rest) = some (listed v, rest)
  same : ∀ w, Legible w → (formatValue w = formatValue v ↔ listed w = listed v)
  /-- Outside of the quotes stands nothing of the texts in the value. -/
  frame : ∀ rest, outside '\'' false (formatChars v ++ rest) =
    frame v ++ outside '\'' false rest

/-- Every legible value comes back from its literal. -/
theorem legible_decodes {v : Value} (h : Legible v) : Decodes v := by
  constructor
  case reads => exact fun rest hrest => readLiteral_formatChars h hrest
  case frame => exact outside_formatChars h
  case same =>
    intro w hw
    constructor
    · intro heq
      have hchars : formatChars w = formatChars v := by
        rw [← String.toList_ofList (l := formatChars w), ← formatValue, heq, formatValue,
          String.toList_ofList]
      have hnil : Ends [] := fun c hc => absurd hc (by simp)
      have hread := readLiteral_formatChars hw hnil
      rw [hchars, readLiteral_formatChars h hnil] at hread
      exact (Prod.mk.inj (Option.some.inj hread)).1.symm
    · intro heq
      rw [formatValue, formatValue, ← formatChars_listed hw, heq, formatChars_listed h]

/-- The statement at a tuple of a text, a list, a number and a tuple, where the text looks like the
end of its own literal and the text behind the literal like another one. -/
theorem legible_decodes_nested :
    let v : Value := .tuple [.str "it's', (", .list [.null, .bool true], .int (-120), .tuple []]
    let rest := ") OR ('".toList
    Legible v ∧ Ends rest ∧ Decodes v ∧ readLiteral (formatChars v ++ rest) =
      some (.list [.str "it's', (", .list [.null, .bool true], .int (-120), .list []], rest) := by
  intro v rest
  have hlist : Legible (.list [.null, .bool true]) :=
    .list (by simp [Legible.null, Legible.bool])
  have htuple : Legible (.tuple []) := .tuple (by simp)
  have hv : Legible v := .tuple (by simp [Legible.str, Legible.int, hlist, htuple])
  have hrest : Ends rest := ends_cons _ (.inr (.inr rfl))
  exact ⟨hv, hrest, legible_decodes hv, (legible_decodes hv).reads rest hrest⟩

end Sql

end FieldQuery
