import FieldQuery.Proofs.Text.CodePoints
import FieldQuery.Proofs.Value.Native

/-!
# Pairs of surrogates in the texts of a value

What is modelled. Joining the pairs of surrogates in all texts of a value, those of keys included.
Two keys of a dict may become one; the dict then keeps the last value, as any dict does.

What is proved. Joining takes texts to texts. Native values whose texts have no pairs, in particular
all those with Unicode texts, stay as they are (`NativeOf.joinPairs`).
-/

namespace FieldQuery.Value

variable {texts : Texts}

mutual

/-- The value with the pairs of surrogates in its texts joined. -/
def joinPairs : Value texts → Value texts
  | surrogates allowed t => (ofPoints? (Text.joinPairs t.points)).getD (surrogates allowed t)
  | list xs => list (joinPairsAll xs)
  | dict entries => dictOf (joinPairsEntries entries)
  | v => v
termination_by structural v => v

def joinPairsAll : List (Value texts) → List (Value texts)
  | [] => []
  | x :: xs => joinPairs x :: joinPairsAll xs
termination_by structural xs => xs

def joinPairsEntries : List (Value texts × Value texts) → List (Value texts × Value texts)
  | [] => []
  | (k, v) :: entries => (joinPairs k, joinPairs v) :: joinPairsEntries entries
termination_by structural entries => entries

end

theorem joinPairsAll_eq_map (xs : List (Value texts)) : joinPairsAll xs = xs.map joinPairs := by
  induction xs with
  | nil => rfl
  | cons x xs ih => rw [joinPairsAll, ih, List.map_cons]

theorem joinPairsEntries_eq_map (entries : List (Value texts × Value texts)) :
    joinPairsEntries entries = entries.map fun e => (e.1.joinPairs, e.2.joinPairs) := by
  induction entries with
  | nil => rfl
  | cons e entries ih => rw [joinPairsEntries, ih, List.map_cons]

/-! ## Texts -/

theorem ofPoints?_points (s : String) :
    ofPoints? (Text.points s) = some (.str s : Value texts) := by
  have hsurrogates : ¬ (Text.points s).any CodePoint.isSurrogate = true := by
    simp [Text.points, CodePoint.isSurrogate]
  have hchars : (Text.points s).filterMap CodePoint.char? = s.toList := by
    rw [Text.points, List.filterMap_map]
    exact List.filterMap_some
  rw [ofPoints?, dif_neg hsurrogates, hchars, String.ofList_toList]

/-- The text whose code points are those of a given text with its pairs joined. -/
theorem ofPoints?_joinPairs {v : Value texts} (h : IsString v) :
    ∃ ps, v.points? = some ps ∧ ofPoints? (Text.joinPairs ps) = some v.joinPairs := by
  cases v with
  | str s =>
    refine ⟨Text.points s, rfl, ?_⟩
    rw [Text.joinPairs_of_unpaired (Text.unpaired_points s), ofPoints?_points]
    rfl
  | surrogates allowed t =>
    refine ⟨t.points, rfl, ?_⟩
    rw [joinPairs]
    cases hjoined : (ofPoints? (Text.joinPairs t.points) : Option (Value texts)) with
    | some v => rfl
    | none =>
      rw [ofPoints?] at hjoined
      split at hjoined <;> cases hjoined
  | _ => cases h

/-- Whether no two surrogates of a text make a pair; holds of all values that are no texts. -/
def Unpaired : Value texts → Prop
  | surrogates _ t => Text.Unpaired t.points
  | _ => True

theorem Unpaired.joinPairs_eq {v : Value texts} (h : v.Unpaired) (hv : IsString v) :
    v.joinPairs = v := by
  cases v with
  | str s => rfl
  | surrogates allowed t =>
    have hpoints : Text.joinPairs t.points = t.points := Text.joinPairs_of_unpaired h
    rw [joinPairs, hpoints, ofPoints?, dif_pos t.surrogates, dif_pos allowed]
    rfl
  | _ => cases hv

/-! ## Native values -/

/-- A native value whose texts have no pairs stays as it is. -/
theorem NativeOf.joinPairs {v : Value texts} (h : NativeOf Unpaired v) : v.joinPairs = v := by
  induction h with
  | surrogates ht => exact ht.joinPairs_eq trivial
  | list _ ih =>
    rw [Value.joinPairs, joinPairsAll_eq_map, List.map_congr_left ih, List.map_id']
  | @dict entries keys names _ ih =>
    have hentries : entries.map (fun e => (e.1.joinPairs, e.2.joinPairs)) = entries := by
      refine (List.map_congr_left fun e he => ?_).trans (List.map_id entries)
      exact Prod.ext ((keys e he).2.joinPairs_eq (keys e he).1) (ih e he)
    rw [Value.joinPairs, joinPairsEntries_eq_map, hentries]
    exact dictOf_entries (fun e he => (keys e he).1) names
  | _ => rfl

end FieldQuery.Value
