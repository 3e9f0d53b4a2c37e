import FieldQuery.Json.Writer
import FieldQuery.Proofs.Value.Native

/-!
# Values with their keys in order

What is modelled. The order in which the entries of a dict stand has no say in equality, and written
data puts them in one of its own. Putting the keys of every dict in that order takes the difference
away (`Value.arranged`).

What is proved. A native value equals its arranged form (`NativeOf.arranged_same`), arranging it
gives a native value with the same numbers and texts (`NativeOf.arranged`), and two native values
with one arranged form are equal (`NativeOf.same_of_arranged_eq`). The order itself plays no part:
all that is used is that sorting permutes the entries and does not look at what stands under the
keys.

Left out are values that are not native: nothing is said of keys that are no texts.
-/

namespace FieldQuery

variable {texts : Texts} {α β : Type}

/-! ## Sorting -/

theorem insertBy_perm (le : α → α → Bool) (x : α) (xs : List α) :
    (insertBy le x xs).Perm (x :: xs) := by
  induction xs with
  | nil => exact .refl _
  | cons y ys ih =>
    rw [insertBy]
    split
    · exact .refl _
    · exact (ih.cons y).trans (.swap x y ys)

theorem sortBy_perm (le : α → α → Bool) (xs : List α) : (sortBy le xs).Perm xs := by
  induction xs with
  | nil => exact .refl _
  | cons x xs ih => exact (insertBy_perm le x _).trans (ih.cons x)

section

variable {le : α → α → Bool} {le' : β → β → Bool} {f : α → β}

theorem map_insertBy (h : ∀ a b, le' (f a) (f b) = le a b) (x : α) (xs : List α) :
    (insertBy le x xs).map f = insertBy le' (f x) (xs.map f) := by
  induction xs with
  | nil => rfl
  | cons y ys ih =>
    rw [insertBy, List.map_cons, insertBy, h]
    split
    · rfl
    · rw [List.map_cons, ih]

/-- What does not change the order can be done before sorting or after it. -/
theorem map_sortBy (h : ∀ a b, le' (f a) (f b) = le a b) (xs : List α) :
    (sortBy le xs).map f = sortBy le' (xs.map f) := by
  induction xs with
  | nil => rfl
  | cons x xs ih => rw [sortBy, map_insertBy h, ih, List.map_cons, sortBy]

end

/-- Members in the order of their keys, which are texts. -/
abbrev inOrder (members : List (Value texts × α)) : List (Value texts × α) :=
  Json.KeyOrder.texts.sorted members

theorem inOrder_perm (members : List (Value texts × α)) : (inOrder members).Perm members :=
  sortBy_perm _ members

/-- Members are sorted by their keys, whatever stands under these. -/
theorem inOrder_map (members : List (Value texts × α)) (f : Value texts × α → β) :
    inOrder (members.map fun g => (g.1, f g)) = (inOrder members).map fun g => (g.1, f g) :=
  (map_sortBy (fun _ _ => rfl) members).symm

namespace Value

/-! ## Arranged values -/

mutual

/-- The value with the keys of every dict in order. -/
def arranged : Value texts → Value texts
  | list xs => list (arrangedAll xs)
  | dict entries => dict (inOrder (arrangedEntries entries))
  | v => v
termination_by structural v => v

def arrangedAll : List (Value texts) → List (Value texts)
  | [] => []
  | x :: xs => arranged x :: arrangedAll xs
termination_by structural xs => xs

def arrangedEntries : List (Value texts × Value texts) → List (Value texts × Value texts)
  | [] => []
  | (k, v) :: entries => (k, arranged v) :: arrangedEntries entries
termination_by structural entries => entries

end

theorem arrangedAll_eq_map (xs : List (Value texts)) : arrangedAll xs = xs.map arranged := by
  induction xs with
  | nil => rfl
  | cons x xs ih => rw [arrangedAll, ih, List.map_cons]

theorem arranged_dict (entries : List (Value texts × Value texts)) :
    (dict entries).arranged = dict ((inOrder entries).map fun e => (e.1, e.2.arranged)) := by
  have hentries : arrangedEntries entries = entries.map fun e => (e.1, e.2.arranged) := by
    induction entries with
    | nil => rfl
    | cons e entries ih => rw [arrangedEntries, ih, List.map_cons]
  rw [arranged, hentries, inOrder_map entries fun e => e.2.arranged]

/-- A dict with texts for keys equals another of the same size if every entry has a partner there.
-/
theorem same_dict {entries entries' : List (Value texts × Value texts)}
    (hlength : entries.length = entries'.length) (keys : ∀ e ∈ entries, IsString e.1)
    (h : ∀ e ∈ entries, ∃ f ∈ entries', e.1 = f.1 ∧ same e.2 f.2 = true) :
    same (dict entries) (dict entries') = true := by
  have hentries : sameEntries entries entries' = true := by
    clear hlength
    induction entries with
    | nil => rfl
    | cons e entries ih =>
      obtain ⟨⟨f, hf, hkey, hvalue⟩, hrest⟩ := List.forall_mem_cons.mp h
      obtain ⟨he, hkeys⟩ := List.forall_mem_cons.mp keys
      rw [sameEntries, ih hkeys hrest, Bool.and_true, List.any_eq_true]
      have hsame : same e.1 f.1 = true := (same_iff_of_isString he (hkey ▸ he)).mpr hkey
      exact ⟨f, hf, Bool.and_eq_true_iff.mpr ⟨hsame, hvalue⟩⟩
  rw [same, hlength, hentries, beq_self_eq_true]
  rfl

theorem sameAll_arranged {xs : List (Value texts)} (h : ∀ x ∈ xs, same x.arranged x = true) :
    sameAll (arrangedAll xs) xs = true := by
  induction xs with
  | nil => rfl
  | cons x xs ih =>
    obtain ⟨hx, hxs⟩ := List.forall_mem_cons.mp h
    rw [arrangedAll, sameAll, hx, ih hxs]
    rfl

variable {P : Value texts → Prop}

theorem NativeOf.arranged {v : Value texts} (h : NativeOf P v) : NativeOf P v.arranged := by
  induction h with
  | list _ ih =>
    rw [Value.arranged, arrangedAll_eq_map]
    exact .list (List.forall_mem_map.mpr ih)
  | @dict entries keys names _ ih =>
    have hperm := inOrder_perm entries
    rw [arranged_dict]
    refine .dict (List.forall_mem_map.mpr fun e he => keys e (hperm.mem_iff.mp he)) ?_
      (List.forall_mem_map.mpr fun e he => ih e (hperm.mem_iff.mp he))
    rw [List.map_map]
    exact (hperm.map Prod.fst).nodup_iff.mpr names
  | null => exact .null
  | bool b => exact .bool b
  | int h => exact .int h
  | str h => exact .str h
  | surrogates h => exact .surrogates h

/-- A native value equals its arranged form. -/
theorem NativeOf.arranged_same {v : Value texts} (h : NativeOf P v) :
    same v.arranged v = true := by
  induction h with
  | list _ ih => exact sameAll_arranged ih
  | @dict entries keys _ _ ih =>
    rw [arranged_dict]
    have hperm := inOrder_perm entries
    refine same_dict ((List.length_map _).trans hperm.length_eq) (fun f hf => ?_) fun f hf => ?_
    · obtain ⟨e, he, rfl⟩ := List.mem_map.mp hf
      exact (keys e (hperm.mem_iff.mp he)).1
    · obtain ⟨e, he, rfl⟩ := List.mem_map.mp hf
      have he := hperm.mem_iff.mp he
      exact ⟨e, he, rfl, ih e he⟩
  | null => exact (NativeOf.null (P := P)).same_self
  | bool b => exact (NativeOf.bool (P := P) b).same_self
  | int h => exact (NativeOf.int h).same_self
  | str h => exact (NativeOf.str h).same_self
  | surrogates h => exact (NativeOf.surrogates h).same_self

theorem sameAll_of_arranged_eq {xs ys : List (Value texts)} (hys : ∀ y ∈ ys, NativeOf P y)
    (ih : ∀ x ∈ xs, ∀ y, NativeOf P y → x.arranged = y.arranged → same x y = true)
    (h : arrangedAll xs = arrangedAll ys) : sameAll xs ys = true := by
  induction xs generalizing ys with
  | nil =>
    cases ys with
    | nil => rfl
    | cons y ys => cases h
  | cons x xs ihxs =>
    cases ys with
    | nil => cases h
    | cons y ys =>
      rw [arrangedAll, arrangedAll] at h
      obtain ⟨hy, hys⟩ := List.forall_mem_cons.mp hys
      obtain ⟨hx, hxs⟩ := List.forall_mem_cons.mp ih
      obtain ⟨hhead, htail⟩ := List.cons.inj h
      rw [sameAll, hx y hy hhead, ihxs hys hxs htail]
      rfl

/-- Native values with one arranged form are equal. -/
theorem NativeOf.same_of_arranged_eq {v w : Value texts} (hv : NativeOf P v) (hw : NativeOf P w)
    (h : v.arranged = w.arranged) : same v w = true := by
  -- a value that is no container is its own arranged form
  have hself {x y : Value texts} (hx : NativeOf P x) (hxy : x = y) : same x y = true :=
    hxy ▸ hx.same_self
  induction hv generalizing w with
  | list _ ih =>
    cases hw with
    | list hys =>
      exact sameAll_of_arranged_eq hys (fun x hx y hy => ih x hx hy) (list.inj h)
    | _ => cases h
  | @dict entries keys _ _ ih =>
    cases hw with
    | @dict entries' keys' _ hentries' =>
      rw [arranged_dict, arranged_dict] at h
      have hmap := dict.inj h
      have hlength := congrArg List.length hmap
      rw [List.length_map, List.length_map, (inOrder_perm entries).length_eq,
        (inOrder_perm entries').length_eq] at hlength
      refine same_dict hlength (fun e he => (keys e he).1) fun e he => ?_
      -- the partner of an entry stands in the same place once both are in order
      have hmem := List.mem_map_of_mem (f := fun e : Value texts × Value texts =>
        (e.1, e.2.arranged)) ((inOrder_perm entries).mem_iff.mpr he)
      rw [hmap] at hmem
      obtain ⟨f, hf, hfe⟩ := List.mem_map.mp hmem
      have hf := (inOrder_perm entries').mem_iff.mp hf
      obtain ⟨hkey, hvalue⟩ := Prod.mk.inj hfe
      exact ⟨f, hf, hkey.symm, ih e he (hentries' f hf) hvalue.symm⟩
    | _ => cases h
  | null =>
    cases hw with
    | null => exact hself .null rfl
    | _ => cases h
  | bool b =>
    cases hw with
    | bool c => exact hself (.bool b) h
    | _ => cases h
  | int hn =>
    cases hw with
    | int _ => exact hself (.int hn) h
    | _ => cases h
  | str hs =>
    cases hw with
    | str _ => exact hself (.str hs) h
    | _ => cases h
  | surrogates ht =>
    cases hw with
    | surrogates _ => exact hself (.surrogates ht) h
    | _ => cases h

end Value

end FieldQuery
