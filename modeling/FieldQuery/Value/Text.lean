import FieldQuery.Value.Basic

/-!
# The two text forms of a value

`inspect` shows what a value is, with texts in quotes; it is used inside containers and in the
details of messages. `display` is the plain text of a value on its own. Both write a number with all
of its digits, however many.
-/

namespace FieldQuery

/-- A name and arguments in parentheses. -/
def Text.call (name : String) (arguments : List String) : String :=
  name ++ "(" ++ ", ".intercalate arguments ++ ")"

open Text (call quoted quotedBytes signed)

namespace TimeOfDay

/-- Hours and minutes, then seconds and microseconds as far as they are not zero. -/
def arguments (t : TimeOfDay) : List String :=
  [toString t.hour, toString t.minute] ++
    (if t.second = 0 ∧ t.micro = 0 then [] else [toString t.second]) ++
    (if t.micro = 0 then [] else [toString t.micro])

end TimeOfDay

/-- A fixed offset from Greenwich, as days, seconds and microseconds. -/
def inspectOffset (offset : Int) : String :=
  if offset = 0 then "datetime.timezone.utc" else
    let seconds := offset / secondMicros
    let days := seconds / 86400
    let part (name : String) (n : Int) : List String :=
      if n = 0 then [] else [name ++ "=" ++ String.ofList (signed n)]
    call "datetime.timezone"
      [call "datetime.timedelta" (part "days" days ++ part "seconds" (seconds % 86400) ++
        part "microseconds" (offset % secondMicros))]

namespace Anchor

def arguments : Anchor → List String
  | none | silent => []
  | offset micros => ["tzinfo=" ++ inspectOffset micros]
  | zone z => ["tzinfo=" ++ call "zoneinfo.ZoneInfo" ["key=" ++ quoted z.name]]

end Anchor

def Date.arguments (d : Date) : List String := [toString d.year, toString d.month, toString d.day]

def Date.inspect (d : Date) : String := call "datetime.date" d.arguments

def TimeOfDay.inspect (t : TimeOfDay) (offset : Option Int) : String :=
  call "datetime.time" (t.arguments ++
    match offset with
    | some o => ["tzinfo=" ++ inspectOffset o]
    | none => [])

def Moment.inspect (m : Moment) : String :=
  call "datetime.datetime" (m.civil.date.arguments ++ m.civil.time.arguments ++
    (if m.fold then ["fold=1"] else []) ++ m.anchor.arguments)

/-- A time of day and its offset. -/
def TimeOfDay.isoText (t : TimeOfDay) (offset : Option Int) : String :=
  String.ofList (t.isoChars ++
    match offset with
    | some o => offsetChars o
    | none => [])

/-- A fraction as numerator and denominator; a whole number stands alone. -/
def fractionText (q : Rat) : String :=
  if q.den = 1 then String.ofList (signed q.num)
  else String.ofList (signed q.num) ++ "/" ++ toString q.den

namespace Value

variable {texts : Texts}

mutual

/-- The form that shows what a value is. -/
def inspect : Value texts → String
  | null => "None"
  | absent => "ABSENT"
  | bool b => if b then "True" else "False"
  | int n => String.ofList (signed n)
  | float x => x.text
  | decimal d => call "Decimal" [quoted d.text]
  | fraction q => call "Fraction" [String.ofList (signed q.num), toString q.den]
  | str s => quoted s
  | surrogates _ t => t.quoted
  | bytes bs => quotedBytes bs
  | uuid u => call "UUID" [quoted u.text]
  | date d => d.inspect
  | time t offset => t.inspect offset
  | moment m => m.inspect
  | member m => m.inspect
  | list xs => "[" ++ ", ".intercalate (inspectAll xs) ++ "]"
  | tuple [x] => "(" ++ inspect x ++ ",)"
  | tuple xs => "(" ++ ", ".intercalate (inspectAll xs) ++ ")"
  | dict entries => "\x7b" ++ ", ".intercalate (inspectEntries entries) ++ "\x7d"
  | entity kind id declared _ further =>
    call kind (("id=" ++ inspect id) :: inspectFields declared ++ inspectFields further)
  | reference id => call "EntityRef" ["id=" ++ inspect id]
  | record kind _ parts => call kind (inspectFields parts)
  | bundle _ inspected _ _ => inspected
  | shared _ => ""
termination_by structural v => v

def inspectAll : List (Value texts) → List String
  | [] => []
  | x :: xs => inspect x :: inspectAll xs
termination_by structural xs => xs

def inspectEntries : List (Value texts × Value texts) → List String
  | [] => []
  | (k, v) :: entries => (inspect k ++ ": " ++ inspect v) :: inspectEntries entries
termination_by structural entries => entries

def inspectFields : List (String × Value texts) → List String
  | [] => []
  | (name, v) :: fields => (name ++ "=" ++ inspect v) :: inspectFields fields
termination_by structural fields => fields

end

/-- The plain text of a value that is no text itself. -/
def shown : Value texts → String
  | absent => "None"
  | decimal d => d.text
  | fraction q => fractionText q
  | uuid u => u.text
  | date d => String.ofList d.isoChars
  | time t offset => t.isoText offset
  | moment m => String.ofList (m.chars ' ')
  | member m => m.display
  | entity _ id declared _ further =>
    " ".intercalate (("id=" ++ id.inspect) :: inspectFields declared ++ inspectFields further)
  | reference id => "id=" ++ id.inspect
  | record _ shown _ => shown
  | bundle shown _ _ _ => shown
  | v => v.inspect

/-- The plain text of a value. -/
def display : Value → String
  | str s => s
  | v => v.shown

end Value

end FieldQuery
