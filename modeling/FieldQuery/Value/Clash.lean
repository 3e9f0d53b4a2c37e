import FieldQuery.Value.Equality

/-!
# Comparisons that cannot be made

A signaling decimal cannot be compared with another number. A comparison of containers compares
their members one after the other and ends at the first two that differ, so only what it comes to
counts.
-/

namespace FieldQuery.Value

def isSignaling : Value → Bool
  | decimal (.nan n) => n.signaling
  | _ => false

/-- Whether two different numbers are compared one of which is a signaling decimal. -/
def clashesScalar (a b : Value) : Bool :=
  (a.isSignaling || b.isSignaling) && a.quantity?.isSome && b.quantity?.isSome && !a.same b

mutual

/-- Whether a comparison of two values comes to a signaling decimal and another number. -/
def clashes : Value → Value → Bool
  | list xs, b =>
    match b with
    | list ys => xs.length == ys.length && clashesAny xs ys
    | _ => false
  | tuple xs, b =>
    match b with
    | tuple ys => clashesAny xs ys
    | _ => false
  | dict es, b =>
    match b with
    | dict fs => es.length == fs.length && clashesEntry es fs
    | _ => false
  | entity kind id declared _ further, b =>
    match b with
    | entity kind' id' declared' _ further' =>
      kind == kind' && further.length == further'.length &&
        (clashesField further further' ||
          sameFields further further' &&
            (clashes id id' || same id id' && clashesField declared declared'))
    | _ => false
  | reference id, b =>
    match b with
    | reference id' => clashes id id'
    | _ => false
  | record kind _ parts, b =>
    match b with
    | record kind' _ parts' => kind == kind' && clashesField parts parts'
    | _ => false
  | a, b => clashesScalar a b
termination_by structural a => a

def clashesAny : List Value → List Value → Bool
  | [], _ => false
  | x :: xs, ys =>
    match ys with
    | [] => false
    | y :: ys => clashes x y || same x y && clashesAny xs ys
termination_by structural xs => xs

/-- The same for the entries of dicts, in the order of the first. -/
def clashesEntry : List (Value × Value) → List (Value × Value) → Bool
  | [], _ => false
  | (k, v) :: es, fs =>
    match fs.find? fun e => same k e.1 with
    | none => false
    | some (_, w) => clashes v w || same v w && clashesEntry es fs
termination_by structural es => es

/-- The same for named fields. -/
def clashesField : List (String × Value) → List (String × Value) → Bool
  | [], _ => false
  | (name, v) :: es, fs =>
    match fs.find? fun e => name == e.1 with
    | none => false
    | some (_, w) => clashes v w || same v w && clashesField es fs
termination_by structural es => es

end

end FieldQuery.Value
