import FieldQuery.Checked
import FieldQuery.Settings
import FieldQuery.Text.Case

/-!
# Reading settings

Settings come from values given directly, from the environment, and from the defaults, in this
order. Names match in any case, and unknown names are passed over.
-/

namespace FieldQuery.Settings

/-- The last value that a list gives to a name in any case. -/
def lastGiven {α : Type} (name : String) (entries : List (String × α)) : Option α :=
  (entries.reverse.find? fun e => Text.lower e.1 == Text.lower name).map (·.2)

/-- The value that a setting is read from, if anything gives one. -/
def source? (environment : List (String × String)) (given : List (String × Value)) (name : Name) :
    Option Value :=
  match lastGiven name.text given with
  | some v => some v
  | none => (lastGiven name.text environment).map .str

/-- Checks one setting: a text, or nothing for the zone. -/
def checkSource (name : Name) : Value → Checked Value
  | .null => if name = .timeZone then .ok .null else .error .notText
  | v => (Checked.text v).map .str

/-- Reads one setting after the others: the settings so far, and the issues so far. -/
def loadOne (environment : List (String × String)) (given : List (String × Value))
    (state : Settings × List Issue) (name : Name) : Settings × List Issue :=
  match source? environment given name with
  | none => state
  | some v =>
    match checkSource name v with
    | .error fault => (state.1, state.2 ++ [⟨[name.text], fault⟩])
    | .ok v => (state.1.put name v, state.2)

/-- The settings of an environment and of values given directly. -/
def load (environment : List (String × String)) (given : List (String × Value)) :
    Except Failure Settings :=
  match Name.all.foldl (loadOne environment given) ({}, []) with
  | (s, []) => .ok s
  | (_, issues) => .error (.invalid issues)

end FieldQuery.Settings
