import FieldQuery.Proofs.Sql.Meaning

/-!
# Names come back from their identifiers

What is modelled. A lexer of column paths takes parts between double quotes, with two quotes for one
of the part, and a dot between any two parts (`readPath`). Identifiers are also written by recursion
on the parts, with a bound on the depth (`identifierWithin`).

What is proved. For every name, empty parts and quotes included (`identifier_comes_back`):
* the lexer takes the identifier as a whole and finds the parts of the name;
* no two names share an identifier or a column;
* outside of the quotes stand only the dots between the parts;
* the recursion on the parts needs no more than one level, since no part has a dot.

Limits that a database puts on the length of a name or on its characters are left out.
-/

namespace FieldQuery.Sql

/-! ## Parts of a path -/

theorem pathParts_eq_splitOn (path : List Char) : pathParts path = path.splitOn '.' := by
  induction path with
  | nil => rfl
  | cons c cs ih =>
    rw [pathParts, List.splitOn_cons_eq_if_modifyHead, ← ih]
    obtain ⟨p, ps, hps⟩ := List.exists_cons_of_ne_nil (pathParts_ne_nil cs)
    by_cases hc : c = '.'
    · rw [if_pos hc, if_pos (beq_iff_eq.mpr hc)]
    · rw [if_neg hc, if_neg (by rwa [beq_iff_eq]), hps, List.modifyHead_cons]

theorem dot_not_mem_part (path : List Char) : ∀ p ∈ pathParts path, '.' ∉ p := by
  induction path with
  | nil => exact List.forall_mem_singleton.mpr List.not_mem_nil
  | cons c cs ih =>
    obtain ⟨p, ps, hps⟩ := List.exists_cons_of_ne_nil (pathParts_ne_nil cs)
    rw [pathParts]
    by_cases hc : c = '.'
    · rw [if_pos hc]
      exact List.forall_mem_cons.mpr ⟨List.not_mem_nil, ih⟩
    · rw [hps] at ih
      obtain ⟨hp, hrest⟩ := List.forall_mem_cons.mp ih
      rw [if_neg hc, hps]
      refine List.forall_mem_cons.mpr ⟨fun hmem => ?_, hrest⟩
      rcases List.mem_cons.mp hmem with heq | hmem
      · exact hc heq.symm
      · exact hp hmem

theorem length_pathParts (path : List Char) : (pathParts path).length = path.count '.' + 1 := by
  induction path with
  | nil => rfl
  | cons c cs ih =>
    obtain ⟨p, ps, hps⟩ := List.exists_cons_of_ne_nil (pathParts_ne_nil cs)
    rw [pathParts]
    by_cases hc : c = '.'
    · rw [if_pos hc, hc, List.count_cons_self, List.length_cons, ih]
    · rw [if_neg hc, List.count_cons_of_ne hc, ← ih, hps, List.length_cons, List.length_cons]

theorem pathParts_injective {path path' : List Char} (h : pathParts path = pathParts path') :
    path = path' := by
  rw [← joined_pathParts path, h, joined_pathParts]

theorem exists_parts (path : List Char) : ∃ p ps, pathParts path = p :: ps ∧
    identifierChars path = enclosed '"' p ++ partTail ps := by
  obtain ⟨p, ps, hps⟩ := List.exists_cons_of_ne_nil (pathParts_ne_nil path)
  refine ⟨p, ps, hps, ?_⟩
  rw [identifierChars, hps, joined_parts]

/-! ## Reading a path -/

/-- The parts of a path, of which there are at most so many; none for a text that is no path. -/
def readParts : Nat → List Char → Option (List (List Char))
  | n + 1, '"' :: cs =>
    match readEnclosed '"' cs with
    | some (part, []) => some [part]
    | some (part, '.' :: rest) => (readParts n rest).map (part :: ·)
    | _ => none
  | _, _ => none

/-- The parts of a path. -/
def readPath (cs : List Char) : Option (List (List Char)) := readParts cs.length cs

theorem readParts_enclosed (ps : List (List Char)) (p : List Char) (n : Nat)
    (hn : ps.length < n) : readParts n (enclosed '"' p ++ partTail ps) = some (p :: ps) := by
  obtain ⟨n, rfl⟩ : ∃ m, n = m + 1 := ⟨n - 1, by omega⟩
  induction ps generalizing p n with
  | nil =>
    have hread : readEnclosed '"' (doubled '"' p ++ ['"']) = some (p, []) :=
      readEnclosed_doubled (by simp) p
    rw [partTail, List.flatMap_nil, enclosed_append, readParts, hread]
  | cons q ps ih =>
    have hstop : (partTail (q :: ps)).head? ≠ some '"' := by simp [partTail]
    have hread := readEnclosed_doubled hstop p
    have hlen : ps.length < n := by
      rw [List.length_cons] at hn
      omega
    obtain ⟨n, rfl⟩ : ∃ m, n = m + 1 := ⟨n - 1, by omega⟩
    rw [enclosed_append, readParts, hread, partTail_cons]
    exact congrArg (Option.map (p :: ·)) (ih q n hlen)

theorem length_le_partTail (ps : List (List Char)) : ps.length ≤ (partTail ps).length := by
  induction ps with
  | nil => exact Nat.zero_le _
  | cons p ps ih =>
    rw [partTail_cons, List.length_cons, List.length_cons, List.length_append]
    omega

theorem readPath_identifierChars (path : List Char) :
    readPath (identifierChars path) = some (pathParts path) := by
  obtain ⟨p, ps, hps, hchars⟩ := exists_parts path
  have hlen := length_le_partTail ps
  rw [hps, hchars, readPath]
  refine readParts_enclosed ps p _ ?_
  rw [enclosed_append, List.length_cons, List.length_append, List.length_cons]
  omega

example : readPath "\"a\"\"\".\"\".\"b\"".toList = some [['a', '"'], [], ['b']] := by cbv

/-! ## Outside of the quotes -/

theorem outside_partTail (ps : List (List Char)) :
    outside '"' false (partTail ps) = List.replicate ps.length '.' := by
  induction ps with
  | nil => rfl
  | cons p ps ih =>
    rw [partTail_cons, outside, if_neg (by decide), if_neg Bool.false_ne_true, outside_enclosed, ih,
      List.length_cons, List.replicate_succ]

theorem outside_identifierChars (path : List Char) :
    outside '"' false (identifierChars path) = List.replicate (path.count '.') '.' := by
  obtain ⟨p, ps, hps, hchars⟩ := exists_parts path
  have hlen := length_pathParts path
  rw [hps, List.length_cons] at hlen
  have hcount : ps.length = path.count '.' := by omega
  rw [hchars, outside_enclosed, outside_partTail, hcount]

/-! ## The identifier by recursion -/

/-- The identifier of a path, written by recursion on its parts that goes so many levels deep: a
path without dots is enclosed, and any other one is joined from the identifiers of its parts. -/
def identifierWithin : Nat → List Char → Option (List Char)
  | 0, _ => none
  | depth + 1, path =>
    if '.' ∈ path then
      ((path.splitOn '.').mapM (identifierWithin depth)).map (Text.joined ['.'])
    else some (enclosed '"' path)

theorem identifierWithin_dotless {p : List Char} (h : '.' ∉ p) (depth : Nat) :
    identifierWithin (depth + 1) p = some (enclosed '"' p) := by
  rw [identifierWithin, if_neg h]

theorem mapM_identifierWithin (depth : Nat) (ps : List (List Char)) (h : ∀ p ∈ ps, '.' ∉ p) :
    ps.mapM (identifierWithin (depth + 1)) = some (ps.map (enclosed '"')) := by
  induction ps with
  | nil => rfl
  | cons p ps ih =>
    obtain ⟨hp, hps⟩ := List.forall_mem_cons.mp h
    rw [List.mapM_cons, identifierWithin_dotless hp, ih hps]
    rfl

/-- Below the path itself one level is enough. -/
theorem identifierWithin_eq (depth : Nat) (path : List Char) :
    identifierWithin (depth + 2) path = some (identifierChars path) := by
  by_cases hdot : '.' ∈ path
  · rw [identifierWithin, if_pos hdot, ← pathParts_eq_splitOn,
      mapM_identifierWithin depth _ (dot_not_mem_part path)]
    rfl
  · have hparts : pathParts path = [path] := by
      rw [pathParts_eq_splitOn, List.splitOn_eq_singleton hdot]
    rw [identifierWithin_dotless hdot, identifierChars, hparts]
    rfl

/-! ## Names -/

/-- What an identifier keeps of its name. -/
structure ComesBack (name : String) : Prop where
  /-- The lexer takes the whole identifier and finds the parts between the dots of the name. -/
  parts : readPath (identifier name).toList = some (name.toList.splitOn '.')
  /-- The parts with the dots put back are the name. -/
  joined : ".".intercalate ((name.toList.splitOn '.').map String.ofList) = name
  identifierOf : ∀ other, identifier other = identifier name → other = name
  /-- No other name has the same column in a clause. -/
  columnOf : ∀ other, column other = column name → other = name
  /-- The recursion on the parts of the name ends after one level. -/
  oneLevel : ∀ depth, identifierWithin (depth + 2) name.toList = some (identifier name).toList
  /-- Outside of the quotes stand the dots of the name and nothing else. -/
  outside : outside '"' false (identifier name).toList =
    List.replicate (name.toList.count '.') '.'

/-- Every name comes back from its identifier. -/
theorem identifier_comes_back (name : String) : ComesBack name := by
  have hchars : ∀ other, (identifier other).toList = identifierChars other.toList := fun other =>
    String.toList_ofList
  have hcolumn : ∀ other, pathParts other.toList = pathParts name.toList → other = name := by
    intro other h
    exact String.toList_injective (pathParts_injective h)
  constructor
  case parts => rw [hchars, readPath_identifierChars, pathParts_eq_splitOn]
  case joined =>
    have hparts : (name.toList.splitOn '.').map (String.toList ∘ String.ofList) =
        name.toList.splitOn '.' := by
      simp [Function.comp_def]
    apply String.toList_injective
    rw [String.toList_intercalate, List.map_map, hparts]
    exact List.intercalate_splitOn '.'
  case identifierOf =>
    intro other h
    have hread : some (pathParts other.toList) = some (pathParts name.toList) := by
      rw [← readPath_identifierChars, ← hchars, h, hchars, readPath_identifierChars]
    exact hcolumn other (Option.some.inj hread)
  case columnOf => exact fun other h => hcolumn other (congrArg Column.parts h)
  case oneLevel =>
    intro depth
    rw [hchars, identifierWithin_eq]
  case outside => rw [hchars, outside_identifierChars]

end FieldQuery.Sql
