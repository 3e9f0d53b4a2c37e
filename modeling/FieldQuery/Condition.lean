import FieldQuery.Failure
import FieldQuery.Operator
import FieldQuery.Text.Search
import FieldQuery.Value.Equality

/-!
# Conditions

What a node says: everything, all of some conditions, any of some conditions, or tests of fields. A
node is read once, for both backends, by one set of rules; a backend says only which keys it takes
for fields, which operators it knows, and how it lists them. Each backend has a table of its own for
its operators, and all of them have to take the same keys for the same operators (`Dialect.agrees`).

A dict with the key for a conjunction is that conjunction, whatever else it holds; then the key for
a disjunction decides; any other dict holds fields. A value under a field that is no dict is tested
for equality. Values that count as false say everything; all other values that are no dicts are
refused.
-/

namespace FieldQuery

/-- One test of a field. -/
structure Test (texts : Texts := .unicode) where
  operator : Operator
  operand : Value texts

inductive Condition (α : Type) (texts : Texts := .unicode) where
  | always
  | all (branches : List (Condition α texts))
  | any (branches : List (Condition α texts))
  | fields (entries : List (α × List (Test texts)))

/-- The operator that a key names. -/
def Operator.ofKey? {texts : Texts} (key : Value texts) : Option Operator := key.text?.bind ofText?

/-- What a backend adds to the reading of nodes. -/
structure Dialect (α : Type) (texts : Texts := .unicode) where
  field : Value texts → Except (Failure texts) α
  /-- The operator that a key is taken for, if the backend supports it. -/
  operator? : Value texts → Option Operator
  /-- The operators as messages list them. -/
  supported : List String
  /-- Every backend supports all operators under their names, and nothing else. -/
  agrees : ∀ key, operator? key = Operator.ofKey? key

namespace Value

variable {texts : Texts}

/-- The node of a plain value: a dict is its own, and nothing else has one. -/
def node : Value texts → Except (Failure texts) (Value texts)
  | dict entries => .ok (dict entries)
  | v => .error (.notANode v.kindName)

/-- Whether a value is one of the keys that join nodes. -/
def isJoiningKey (v : Value texts) : Bool := v.isText Operator.andKey || v.isText Operator.orKey

/-- Why a value that is neither a dict nor counts as false cannot be a node. A text or a sequence is
searched for the joining keys like a dict: one that has such a key cannot be indexed by it, one that
has none has no entries. Things with fields have no entries either, unless a field goes by that
name. -/
def nodeRefusal : Value texts → Failure texts
  | list xs | tuple xs => if xs.any isJoiningKey then .unfit else .lacking
  | str s | member (.text _ _ s) =>
    if Text.occursIn Operator.andKey.toList s.toList || Text.occursIn Operator.orKey.toList s.toList
    then .unfit else .lacking
  | surrogates _ t =>
    if Text.occursIn (Text.points Operator.andKey) t.points ||
      Text.occursIn (Text.points Operator.orKey) t.points
    then .unfit else .lacking
  | entity _ _ declared _ further =>
    if (declared ++ further).any (·.1 == "items") then .unfit else .lacking
  | reference _ | record _ _ _ => .lacking
  | _ => .unfit

end Value

namespace Condition

variable {α : Type} {texts : Texts}

/-- Reads a value that is no dict. -/
def readLeaf (v : Value texts) : Except (Failure texts) (Condition α texts) :=
  if v.truthy then .error v.nodeRefusal else .ok always

/-- Reads values none of which is a dict. -/
def readLeaves (vs : List (Value texts)) : Except (Failure texts) (List (Condition α texts)) :=
  vs.mapM readLeaf

/-- Reads the tests of one field in order. -/
def readTests (d : Dialect α texts) (field : Value texts) :
    List (Value texts × Value texts) → Except (Failure texts) (List (Test texts))
  | [] => .ok []
  | (key, operand) :: entries =>
    match d.operator? key with
    | none => .error (.unsupportedOperator field key d.supported)
    | some op =>
      match readTests d field entries with
      | .error e => .error e
      | .ok tests => .ok (⟨op, operand⟩ :: tests)

/-- Reads one entry of a dict of fields. -/
def readField (d : Dialect α texts) (key value : Value texts) :
    Except (Failure texts) (α × List (Test texts)) :=
  match d.field key with
  | .error e => .error e
  | .ok field =>
    match value with
    | .dict entries => (readTests d key entries).map fun tests => (field, tests)
    | operand => .ok (field, [⟨.eq, operand⟩])

/-- Reads the entries of a dict of fields in order. -/
def readFields (d : Dialect α texts) :
    List (Value texts × Value texts) → Except (Failure texts) (List (α × List (Test texts)))
  | [] => .ok []
  | (key, value) :: entries =>
    match readField d key value with
    | .error e => .error e
    | .ok entry =>
      match readFields d entries with
      | .error e => .error e
      | .ok rest => .ok (entry :: rest)

mutual

/-- Reads a node. -/
def read (d : Dialect α texts) : Value texts → Except (Failure texts) (Condition α texts)
  | .dict entries =>
    if entries.isEmpty then .ok always
    else
      match readUnder d Operator.andKey entries with
      | some branches => branches.map all
      | none =>
        match readUnder d Operator.orKey entries with
        | some branches => branches.map any
        | none => (readFields d entries).map fields
  | v => readLeaf v
termination_by structural v => v

/-- Reads what the entries give to a joining key, if they have it. -/
def readUnder (d : Dialect α texts) (key : String) :
    List (Value texts × Value texts) → Option (Except (Failure texts) (List (Condition α texts)))
  | [] => none
  | (k, v) :: entries => if k.isText key then some (readBranches d v) else readUnder d key entries
termination_by structural entries => entries

/-- Reads every node in a container of branches. -/
def readBranches (d : Dialect α texts) :
    Value texts → Except (Failure texts) (List (Condition α texts))
  | .list xs => readAll d xs
  | .tuple xs => readAll d xs
  | .dict entries => readKeys d entries
  | v =>
    match v.elements? with
    | some vs => readLeaves vs
    | none => .error .unfit
termination_by structural v => v

def readAll (d : Dialect α texts) :
    List (Value texts) → Except (Failure texts) (List (Condition α texts))
  | [] => .ok []
  | x :: xs =>
    match read d x with
    | .error e => .error e
    | .ok c =>
      match readAll d xs with
      | .error e => .error e
      | .ok cs => .ok (c :: cs)
termination_by structural xs => xs

def readKeys (d : Dialect α texts) :
    List (Value texts × Value texts) → Except (Failure texts) (List (Condition α texts))
  | [] => .ok []
  | (k, _) :: entries =>
    match read d k with
    | .error e => .error e
    | .ok c =>
      match readKeys d entries with
      | .error e => .error e
      | .ok cs => .ok (c :: cs)
termination_by structural entries => entries

end

end Condition

end FieldQuery
