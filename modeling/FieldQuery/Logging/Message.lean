import FieldQuery.Failure
import FieldQuery.Logging.Directive
import FieldQuery.Number.Rounded
import FieldQuery.Value.Equality

/-!
# Log messages

Arguments are filled into a message in the order of its directives. The letters `s`, `r` and `a`
show the text of any value, `d`, `i` and `u` a whole number, `o` and `x` one in base 8 and 16, `e`,
`f` and `g` a binary number, and `c` a single character; a capital letter writes in capitals. A
single dict as argument is looked up by the names in parentheses. Every argument has to be used,
unless there is a dict. Messages without arguments are taken as they are.
-/

namespace FieldQuery.Logging

/-! ## Numbers -/

/-- The whole number that an argument is cut down to. -/
def wholeNumber (v : Value) : Except Failure Int :=
  match v.quantity? with
  | some (.exact q) => .ok (q.num.tdiv q.den)
  | some (.infinite _) => .error .outOfRange
  | some (.nan _) => .error .refused
  | none =>
    match v with
    | .uuid u => .ok u.bits.toNat
    | _ => .error .unfit

/-- The whole number that an argument is, without cutting. -/
def exactNumber : Value → Except Failure Int
  | .bool b => .ok (if b then 1 else 0)
  | .int n | .member (.number _ _ n) => .ok n
  | _ => .error .unfit

/-- The binary number nearest to an exact one, if it is in range. -/
def inRange (q : Rat) : Except Failure Binary64 :=
  let x := Binary64.ofRatio (q < 0) q.num.natAbs q.den
  if x.isInfinite then .error .outOfRange else .ok x

/-- The binary number that an argument is taken for. -/
def binaryNumber : Value → Except Failure Binary64
  | .float x => .ok x
  | .decimal (.finite x) => .ok (Binary64.ofNumeral x)
  | .decimal (.infinite negative) => .ok (Binary64.infinity negative)
  | .decimal (.nan n) => if n.signaling then .error .refused else .ok (Binary64.nan 0)
  | .fraction q => inRange q
  | v =>
    match exactNumber v with
    | .error e => .error e
    | .ok n => inRange n

/-- The character that an argument stands for: a text of one character, or the number of one. -/
def character (v : Value) : Except Failure Char :=
  match v.text? with
  | some s =>
    match s.toList with
    | [c] => .ok c
    | _ => .error .unfit
  | none =>
    match exactNumber v with
    | .error e => .error e
    | .ok n => if 0 ≤ n ∧ n < 0x110000 then .ok (Char.ofNat n.toNat) else .error .outOfRange

/-! ## Layout -/

/-- A shown argument: its sign, the mark of its base, its digits or text, and whether it is a
number. -/
structure Shown where
  sign : List Char := []
  mark : List Char := []
  body : List Char
  isNumber : Bool := false

/-- The sign of a number. -/
def signOf (flags : Flags) (negative : Bool) : List Char :=
  if negative then ['-'] else if flags.plus then ['+'] else if flags.blank then [' '] else []

/-- The whole text of a shown argument in its width. -/
def Shown.laidOut (flags : Flags) (width : Nat) (s : Shown) : List Char :=
  let text := s.sign ++ s.mark ++ s.body
  let missing := width - text.length
  if flags.left then text ++ List.replicate missing ' '
  else if flags.zero && s.isNumber then s.sign ++ s.mark ++ List.replicate missing '0' ++ s.body
  else List.replicate missing ' ' ++ text

/-- A text, cut to a number of places. -/
def Shown.ofText (places : Option Nat) (text : String) : Shown where
  body := (places.map fun n => text.toList.take n).getD text.toList

/-- A whole number in base ten, with as many digits as there are places. -/
def Shown.ofWhole (flags : Flags) (places : Option Nat) (n : Int) : Except Failure Shown :=
  if Nat.pow 10 Text.maxDigits ≤ n.natAbs then .error .refused
  else
    .ok { sign := signOf flags (n < 0), body := Text.padded (places.getD 0) n.natAbs,
          isNumber := true }

/-- A whole number in another base, with a mark if that is asked for. -/
def Shown.inBase (base : Nat) (mark : List Char) (flags : Flags) (places : Option Nat) (n : Int) :
    Shown :=
  let ds := Nat.toDigits base n.natAbs
  { sign := signOf flags (n < 0), mark := if flags.alternate then mark else [],
    body := List.replicate (places.getD 0 - ds.length) '0' ++ ds, isNumber := true }

/-- A binary number; `form` writes a finite one with so many places. -/
def Shown.ofBinary (form : (keepPoint : Bool) → Nat → Binary64 → List Char) (flags : Flags)
    (places : Option Nat) (x : Binary64) : Shown where
  sign := signOf flags (x.negative && !x.isNaN)
  body :=
    if x.isNaN then "nan".toList
    else if x.isInfinite then "inf".toList
    else form flags.alternate (places.getD 6) x
  isNumber := true

/-- The same in capitals. -/
def Shown.capital (s : Shown) : Shown :=
  { s with mark := s.mark.map Char.toUpper, body := s.body.map Char.toUpper }

/-- A value under a letter. -/
def Shown.ofValue (flags : Flags) (places : Option Nat) (letter : Char) (v : Value) :
    Except Failure Shown :=
  match letter with
  | 's' => .ok (ofText places v.display)
  | 'r' => .ok (ofText places v.inspect)
  | 'a' => .ok (ofText places (Text.ascii v.inspect))
  | 'd' | 'i' | 'u' =>
    match wholeNumber v with
    | .error e => .error e
    | .ok n => ofWhole flags places n
  | 'o' => (exactNumber v).map (inBase 8 ['0', 'o'] flags places)
  | 'x' => (exactNumber v).map (inBase 16 ['0', 'x'] flags places)
  | 'X' => (exactNumber v).map fun n => (inBase 16 ['0', 'x'] flags places n).capital
  | 'e' => (binaryNumber v).map (ofBinary Binary64.scientificChars flags places)
  | 'E' => (binaryNumber v).map fun x => (ofBinary Binary64.scientificChars flags places x).capital
  | 'f' => (binaryNumber v).map (ofBinary Binary64.fixedChars flags places)
  | 'F' => (binaryNumber v).map fun x => (ofBinary Binary64.fixedChars flags places x).capital
  | 'g' => (binaryNumber v).map (ofBinary Binary64.generalChars flags places)
  | 'G' => (binaryNumber v).map fun x => (ofBinary Binary64.generalChars flags places x).capital
  | 'c' => (character v).map fun c => { body := [c] }
  | _ => .error .refused

/-! ## Arguments -/

/-- The arguments that remain, and the dict that names are looked up in. -/
structure Arguments where
  remaining : List Value
  named : Option (List (Value × Value))

namespace Arguments

def ofList : List Value → Arguments
  | [.dict (e :: es)] => ⟨[.dict (e :: es)], some (e :: es)⟩
  | vs => ⟨vs, none⟩

/-- The next argument. -/
def next (args : Arguments) : Except Failure (Value × Arguments) :=
  match args.remaining with
  | [] => .error .unfit
  | v :: vs => .ok (v, { args with remaining := vs })

/-- The arguments after a name: what is found under it is the only one left. -/
def underKey (args : Arguments) : Option (List Char) → Except Failure Arguments
  | none => .ok args
  | some key =>
    match args.named with
    | none => .error .unfit
    | some entries =>
      match Value.lookupText (String.ofList key) entries with
      | none => .error .unbound
      | some v => .ok { args with remaining := [v] }

/-- The number of a count, where an argument may be negative; no count is none. -/
def count (args : Arguments) (limit : Nat) : Option Count → Except Failure (Option Int × Arguments)
  | none => .ok (none, args)
  | some (.written n) => if n < limit then .ok (some n, args) else .error .refused
  | some .given =>
    match args.next with
    | .error e => .error e
    | .ok (v, args) =>
      match exactNumber v with
      | .error e => .error e
      | .ok n => if -limit ≤ n ∧ n < limit then .ok (some n, args) else .error .outOfRange

end Arguments

/-! ## Filling -/

/-- The largest width and number of places that a text is made for. -/
def maxSize : Nat := Nat.pow 10 8

/-- A bound on the widths that are read. -/
def widthLimit : Nat := Nat.pow 2 63

/-- A bound on the numbers of places that are read. -/
def placesLimit : Nat := Nat.pow 2 31

/-- A directive with its width and places known: a negative width turns to the left, unless it is
the least one, which has no opposite and counts as none; negative places are none. A value that the
letter does not take is an error before a size is. -/
def Directive.present (d : Directive) (args : Arguments) (width places : Option Int)
    (letter : Char) : Except Failure (List Char × Arguments) :=
  match args.next with
  | .error e => .error e
  | .ok (v, args) =>
    let width := if width = some (-(widthLimit : Int)) then 0 else width.getD 0
    let flags := { d.flags with left := d.flags.left || width < 0 }
    match Shown.ofValue flags none letter v with
    | .error e => .error e
    | .ok s =>
      if maxSize < width.natAbs ∨ (s.isNumber ∧ maxSize < (places.getD 0).toNat) then
        .error .tooLarge
      else
        (Shown.ofValue flags (places.map Int.toNat) letter v).map fun s =>
          (s.laidOut flags width.natAbs, args)

/-- The text of a directive, and the arguments after it. -/
def Directive.fill (d : Directive) (args : Arguments) : Except Failure (List Char × Arguments) :=
  match args.underKey d.key with
  | .error e => .error e
  | .ok args =>
    match args.count widthLimit d.width with
    | .error e => .error e
    | .ok (width, args) =>
      match args.count placesLimit d.places with
      | .error e => .error e
      | .ok (places, args) =>
        match d.letter with
        | none => .error .refused
        | some letter => d.present args width places letter

/-- Fills the arguments into the pieces of a message. -/
def fill : Arguments → List Piece → Except Failure (List Char)
  | args, [] => if args.remaining.isEmpty || args.named.isSome then .ok [] else .error .unfit
  | args, .character c :: ps => (fill args ps).map (c :: ·)
  | args, .openKey :: _ => .error (if args.named.isSome then .refused else .unfit)
  | args, .directive d :: ps =>
    match d.fill args with
    | .error e => .error e
    | .ok (text, args) => (fill args ps).map (text ++ ·)

/-- The text of a message with its arguments. -/
def format (message : String) (args : List Value) : Except Failure String :=
  if args.isEmpty then .ok message
  else (fill (Arguments.ofList args) (piecesOf message)).map String.ofList

end FieldQuery.Logging
