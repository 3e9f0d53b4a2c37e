import FieldQuery.Proofs.Node.Rejection

/-!
# Nodes that one dialect reads and another does not

What is modelled. Dialects differ in the keys that they take for fields and in the operators that
they list in messages; each has its own table of operators, but the tables agree. Elasticsearch
takes any key for a field, and SQL only texts.

What is proved. A dialect that takes every key reads whatever any other dialect reads
(`Condition.read_follows`), by induction on the node; `Failure.Follows` relates the two results
along the way. So Elasticsearch compiles every node that SQL compiles (`Backend.Accepts.elastic`).

Nothing is assumed about the node: what stands under a joining key may be any container, and its
members need not be dicts. Of nodes that both refuse nothing is said here, not even that they fail
alike.
-/

namespace FieldQuery

/-! ## Success of one computation after another -/

/-- Where the first computation gives a result, the second gives one. -/
def Failure.Follows {β γ : Type} (r : Except Failure β) (r' : Except Failure γ) : Prop :=
  ∀ b, r = .ok b → ∃ c, r' = .ok c

namespace Failure.Follows

variable {β γ δ β' γ' δ' : Type}

theorem error (e : Failure) (r : Except Failure γ) : Follows (.error e : Except Failure β) r :=
  nofun

theorem ok (r : Except Failure β) (c : γ) : Follows r (.ok c) := fun _ _ => ⟨c, rfl⟩

theorem map {r : Except Failure β} {r' : Except Failure β'} (f : β → γ) (f' : β' → γ')
    (h : Follows r r') : Follows (r.map f) (r'.map f') := by
  cases r with
  | error e => exact error e _
  | ok b =>
    obtain ⟨b', rfl⟩ := h b rfl
    exact ok _ (f' b')

/-- One part after the other. -/
theorem append {r : Except Failure β} {r' : Except Failure β'} {s : Except Failure γ}
    {s' : Except Failure γ'} (f : β → γ → δ) (f' : β' → γ' → δ') (h : Follows r r')
    (hs : Follows s s') :
    Follows (r.bind fun b => s.map (f b)) (r'.bind fun b => s'.map (f' b)) := by
  cases r with
  | error e => exact error e _
  | ok b =>
    obtain ⟨b', rfl⟩ := h b rfl
    exact hs.map (f b) (f' b')

end Failure.Follows

open Failure (Follows)

namespace Condition

variable {α β : Type} {d : Dialect α} {d' : Dialect β}

/-! ## Fields -/

theorem readTests_follows (key : Value) (entries : List (Value × Value)) :
    Follows (readTests d key entries) (readTests d' key entries) := by
  induction entries with
  | nil => exact .ok _ []
  | cons e entries ih =>
    obtain ⟨k, operand⟩ := e
    cases hop : Operator.ofKey? k with
    | none =>
      rw [readTests, d.agrees, hop]
      exact .error _ _
    | some op =>
      rw [readTests_cons hop, readTests_cons hop]
      exact ih.map _ _

theorem readField_follows (hd : ∀ key, ∃ b, d'.field key = .ok b) (key value : Value) :
    Follows (readField d key value) (readField d' key value) := by
  obtain ⟨b, hb⟩ := hd key
  unfold readField
  rw [hb]
  cases d.field key with
  | error e => exact .error e _
  | ok a =>
    cases value with
    | dict entries => exact (readTests_follows key entries).map _ _
    | _ => exact .ok _ _

theorem readFields_follows (hd : ∀ key, ∃ b, d'.field key = .ok b)
    (entries : List (Value × Value)) : Follows (readFields d entries) (readFields d' entries) := by
  induction entries with
  | nil => exact .ok _ []
  | cons e entries ih =>
    rw [readFields_cons, readFields_cons]
    exact (readField_follows hd e.1 e.2).append _ _ ih

/-! ## Nodes -/

theorem readLeaf_follows (v : Value) :
    Follows (readLeaf v : Except Failure (Condition α))
      (readLeaf v : Except Failure (Condition β)) := by
  unfold readLeaf
  split
  · exact .error _ _
  · exact .ok _ _

theorem readLeaves_follows (vs : List Value) :
    Follows (readLeaves vs : Except Failure (List (Condition α)))
      (readLeaves vs : Except Failure (List (Condition β))) := by
  unfold readLeaves
  induction vs with
  | nil => exact .ok _ []
  | cons v vs ih =>
    rw [List.mapM_cons, List.mapM_cons]
    exact (readLeaf_follows v).append List.cons List.cons ih

theorem readKeys_cons (e : Value × Value) (entries : List (Value × Value)) :
    readKeys d (e :: entries) = (read d e.1).bind fun c => (readKeys d entries).map (c :: ·) := by
  rw [readKeys]
  cases read d e.1 with
  | error f => rfl
  | ok c => cases readKeys d entries <;> rfl

mutual

/-- A dialect that takes every key for a field reads what any other dialect reads. -/
theorem read_follows (hd : ∀ key, ∃ b, d'.field key = .ok b) (v : Value) :
    Follows (read d v) (read d' v) := by
  match v with
  | .dict entries =>
    rw [read, read]
    split
    · exact .ok _ _
    · rcases readUnder_follows hd Operator.andKey entries with ⟨h, h'⟩ | ⟨r, r', h, h', hr⟩
      · rw [h, h']
        dsimp only
        rcases readUnder_follows hd Operator.orKey entries with ⟨h, h'⟩ | ⟨r, r', h, h', hr⟩
        · rw [h, h']
          exact (readFields_follows hd entries).map _ _
        · rw [h, h']
          exact hr.map _ _
      · rw [h, h']
        exact hr.map _ _
  | .null | .absent | .bool _ | .int _ | .float _ | .decimal _ | .fraction _ | .str _ | .bytes _
  | .uuid _ | .date _ | .time _ _ | .moment _ | .member _ | .list _ | .tuple _ | .entity _ _ _ _ _
  | .reference _ | .record _ _ _ | .bundle _ _ _ _ | .shared _ => exact readLeaf_follows _
termination_by structural v

/-- The joining keys are the same in all dialects. -/
theorem readUnder_follows (hd : ∀ key, ∃ b, d'.field key = .ok b) (key : String)
    (entries : List (Value × Value)) :
    (readUnder d key entries = none ∧ readUnder d' key entries = none) ∨
      ∃ r r', readUnder d key entries = some r ∧ readUnder d' key entries = some r' ∧
        Follows r r' := by
  match entries with
  | [] => exact .inl ⟨rfl, rfl⟩
  | (k, v) :: entries =>
    rw [readUnder, readUnder]
    split
    · exact .inr ⟨_, _, rfl, rfl, readBranches_follows hd v⟩
    · exact readUnder_follows hd key entries
termination_by structural entries

theorem readBranches_follows (hd : ∀ key, ∃ b, d'.field key = .ok b) (v : Value) :
    Follows (readBranches d v) (readBranches d' v) := by
  match v with
  | .list xs => exact readAll_follows hd xs
  | .tuple xs => exact readAll_follows hd xs
  | .dict entries => exact readKeys_follows hd entries
  | .str _ | .bytes _ | .reference _ | .record _ _ _ | .entity _ _ _ _ _ =>
    exact readLeaves_follows _
  | .member m =>
    cases m with
    | text _ _ _ => exact readLeaves_follows _
    | flags _ _ => exact readLeaves_follows _
    | _ => exact .error _ _
  | .null | .absent | .bool _ | .int _ | .float _ | .decimal _ | .fraction _ | .uuid _ | .date _
  | .time _ _ | .moment _ | .bundle _ _ _ _ | .shared _ => exact .error _ _
termination_by structural v

theorem readAll_follows (hd : ∀ key, ∃ b, d'.field key = .ok b) (nodes : List Value) :
    Follows (readAll d nodes) (readAll d' nodes) := by
  match nodes with
  | [] => exact .ok _ []
  | node :: nodes =>
    rw [readAll_cons, readAll_cons]
    exact (read_follows hd node).append _ _ (readAll_follows hd nodes)
termination_by structural nodes

theorem readKeys_follows (hd : ∀ key, ∃ b, d'.field key = .ok b) (entries : List (Value × Value)) :
    Follows (readKeys d entries) (readKeys d' entries) := by
  match entries with
  | [] => exact .ok _ []
  | (k, v) :: entries =>
    rw [readKeys_cons, readKeys_cons]
    exact (read_follows hd k).append _ _ (readKeys_follows hd entries)
termination_by structural entries

end

end Condition

/-! ## Backends -/

theorem Elastic.where?_dict (entries : List (Value × Value)) :
    Backend.elastic.where? (.value (.dict entries)) =
      (Condition.read dialect (.dict entries)).map fun c => (ofCondition c).toValue := by
  change ((Condition.read dialect (.dict entries)).map ofCondition).map Query.toValue = _
  cases Condition.read dialect (.dict entries) <;> rfl

theorem Sql.where?_dict (entries : List (Value × Value)) :
    Backend.sql.where? (.value (.dict entries)) =
      (Condition.read dialect (.dict entries)).map fun c => .str (render c) := by
  change ((Condition.read dialect (.dict entries)).map render).map Value.str = _
  cases Condition.read dialect (.dict entries) <;> rfl

namespace Backend

/-- What a backend that reads nodes makes of a dict, it makes of the condition that the dict is read
as. -/
theorem where?_dict {b : Backend} (hb : b ≠ .generic) :
    ∃ (α : Type) (d : Dialect α) (out : Condition α → Value), ∀ entries,
      b.where? (.value (.dict entries)) = (Condition.read d (.dict entries)).map out := by
  cases b with
  | generic => exact absurd rfl hb
  | elastic => exact ⟨_, _, _, Elastic.where?_dict⟩
  | sql => exact ⟨_, _, _, Sql.where?_dict⟩

/-- Whether a backend compiles a node. -/
def Accepts (b : Backend) (node : Value) : Prop := ∃ out, b.where? (.value node) = .ok out

theorem accepts_iff {α : Type} {d : Dialect α} {out : Condition α → Value} {b : Backend}
    (h : ∀ entries, b.where? (.value (.dict entries)) =
      (Condition.read d (.dict entries)).map out) (entries : List (Value × Value)) :
    b.Accepts (.dict entries) ↔ ∃ c, Condition.read d (.dict entries) = .ok c := by
  rw [Accepts, h]
  cases Condition.read d (.dict entries) with
  | error e => exact ⟨nofun, nofun⟩
  | ok c => exact ⟨fun _ => ⟨c, rfl⟩, fun _ => ⟨out c, rfl⟩⟩

/-- What SQL compiles, Elasticsearch compiles. -/
theorem Accepts.elastic {node : Value} (h : Backend.sql.Accepts node) :
    Backend.elastic.Accepts node := by
  cases node with
  | dict entries =>
    obtain ⟨c, hc⟩ := (accepts_iff Sql.where?_dict entries).mp h
    exact (accepts_iff Elastic.where?_dict entries).mpr
      (Condition.read_follows (fun key => ⟨key, rfl⟩) _ c hc)
  | _ =>
    obtain ⟨out, hout⟩ := h
    cases hout

end Backend

end FieldQuery
