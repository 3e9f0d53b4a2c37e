import FieldQuery.Sql.Identifier

/-!
# Texts between marks

What is modelled. A text between two marks, with every mark inside it written twice. Two readers of
such texts know nothing of how they are written: `readEnclosed` takes one off the front and undoes
the doubling, and `outside` keeps only what stands between such texts.

What is proved. An enclosed text says by itself where it ends, at the first mark that stands alone:
it is read back whatever stands behind it, as long as that does not begin with another mark
(`readEnclosed_doubled`), so it can be told from what follows (`enclosed_append_inj`). What is
inside decides nothing of what is outside (`outside_enclosed`).

The mark is any character; identifiers and literals take it to be one of the two quotes. Other ways
to write a mark, such as a backslash in front of it, are not read.
-/

namespace FieldQuery.Sql

/-- Takes what is left of an enclosed text, its first mark being gone: two marks are one of the
content, and one mark alone is the end. -/
def readEnclosed (mark : Char) : List Char → Option (List Char × List Char)
  | [] => none
  | c :: cs =>
    if c = mark then
      match cs with
      | [] => some ([], [])
      | c' :: cs' =>
        if c' = mark then (readEnclosed mark cs').map fun p => (mark :: p.1, p.2)
        else some ([], c' :: cs')
    else (readEnclosed mark cs).map fun p => (c :: p.1, p.2)

/-- The characters that stand outside: every mark leads from the outside to the inside or back, so
two marks inside lead out and in again with nothing between them. -/
def outside (mark : Char) : (inside : Bool) → List Char → List Char
  | _, [] => []
  | inside, c :: cs =>
    if c = mark then outside mark (!inside) cs
    else if inside then outside mark inside cs
    else c :: outside mark inside cs

variable {mark : Char} {r r' : List Char}

/-- A lone mark ends the text, whatever stands behind it. -/
theorem readEnclosed_mark (hr : r.head? ≠ some mark) :
    readEnclosed mark (mark :: r) = some ([], r) := by
  cases r with
  | nil => rw [readEnclosed, if_pos rfl]
  | cons c r =>
    have hc : c ≠ mark := fun heq => hr (congrArg some heq)
    rw [readEnclosed, if_pos rfl]
    exact if_neg hc

theorem readEnclosed_plain {c : Char} (hc : c ≠ mark) (cs : List Char) :
    readEnclosed mark (c :: cs) = (readEnclosed mark cs).map fun p => (c :: p.1, p.2) := by
  rw [readEnclosed.eq_def]
  exact if_neg hc

theorem readEnclosed_doubled (hr : r.head? ≠ some mark) (s : List Char) :
    readEnclosed mark (doubled mark s ++ mark :: r) = some (s, r) := by
  induction s with
  | nil => exact readEnclosed_mark hr
  | cons c s ih =>
    by_cases hc : c = mark
    · rw [doubled, if_pos hc, hc]
      simp only [List.cons_append, readEnclosed, if_true, ih, Option.map_some]
    · rw [doubled, if_neg hc, List.cons_append, readEnclosed_plain hc, ih, Option.map_some]

theorem enclosed_append (s : List Char) :
    enclosed mark s ++ r = mark :: (doubled mark s ++ mark :: r) := by
  rw [enclosed, List.cons_append, List.cons_append, List.append_assoc, List.singleton_append]

theorem enclosed_append_inj {s s' : List Char} (hr : r.head? ≠ some mark)
    (hr' : r'.head? ≠ some mark) (h : enclosed mark s ++ r = enclosed mark s' ++ r') :
    s = s' ∧ r = r' := by
  rw [enclosed_append, enclosed_append] at h
  have hread : some (s, r) = some (s', r') := by
    rw [← readEnclosed_doubled hr s, (List.cons.inj h).2, readEnclosed_doubled hr' s']
  exact Prod.mk.inj (Option.some.inj hread)

/-! ## Inside and outside -/

theorem outside_doubled (s : List Char) :
    outside mark true (doubled mark s ++ r) = outside mark true r := by
  induction s with
  | nil => rfl
  | cons c s ih =>
    by_cases hc : c = mark
    · rw [doubled, if_pos hc, List.cons_append, List.cons_append, outside, if_pos rfl, outside,
        if_pos rfl]
      exact ih
    · rw [doubled, if_neg hc, List.cons_append, outside, if_neg hc, if_pos rfl, ih]

/-- An enclosed text leaves nothing outside and ends outside. -/
theorem outside_enclosed (s : List Char) :
    outside mark false (enclosed mark s ++ r) = outside mark false r := by
  rw [enclosed_append, outside, if_pos rfl, Bool.not_false, outside_doubled, outside, if_pos rfl,
    Bool.not_true]

/-- A text without marks stays outside. -/
theorem outside_unmarked {cs : List Char} (h : ∀ c ∈ cs, c ≠ mark) :
    outside mark false (cs ++ r) = cs ++ outside mark false r := by
  induction cs with
  | nil => rfl
  | cons c cs ih =>
    have hcons := List.forall_mem_cons.mp h
    rw [List.cons_append, outside, if_neg hcons.1, if_neg Bool.false_ne_true, ih hcons.2,
      List.cons_append]

end FieldQuery.Sql
