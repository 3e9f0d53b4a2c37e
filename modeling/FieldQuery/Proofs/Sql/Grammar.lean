import FieldQuery.Proofs.Node.Meaning
import FieldQuery.Proofs.Sql.Enclosed
import FieldQuery.Proofs.Text.Digits

/-!
# A grammar of SQL conditions

The derivation trees of a small grammar of conditions, and the text of a tree:

    disjunction = conjunction { " OR " conjunction }
    conjunction = factor { " AND " factor }
    factor      = "TRUE" | column " " predicate | "(" disjunction ")"
    column      = part { "." part }, a part between double quotes with quotes doubled
    predicate   = "IS NULL" | "IS NOT NULL" | comparator " " operand
    operand     = text between single quotes with quotes doubled | word
                | "(" [ operand { ", " operand } ] ")"

A word is a run without quotes, commas, blanks and parentheses. So AND binds closer than OR, and a
text is a condition when it is the text of some tree. The grammar is unambiguous
(`Disjunction.chars_injective`): no text has two trees. That is proved from the left with an
arbitrary rest after each part, of which only the first characters matter. Operands have a reader
(`Operand.read`), which finds the tree of every operand.
-/

namespace FieldQuery.Text

/-- The first text, and then every other one with the separator before it. -/
theorem joined_cons (separator t : List Char) (ts : List (List Char)) :
    joined separator (t :: ts) = t ++ ts.flatMap fun u => separator ++ u := by
  induction ts generalizing t with
  | nil => rw [joined, List.flatMap_nil, List.append_nil]
  | cons u us ih => rw [joined, ih, List.flatMap_cons, List.append_assoc, List.append_assoc]

end FieldQuery.Text

namespace FieldQuery.Sql

/-! ## Trees and their texts -/

/-- Whether a character may stand in a bare word. -/
def inWord (c : Char) : Bool := !(['\'', '"', ',', ' ', '(', ')'].contains c)

structure Word where
  chars : List Char
  ne_nil : chars ≠ []
  plain : ∀ c ∈ chars, inWord c = true

inductive Operand where
  | text (content : List Char)
  | word (w : Word)
  | group (items : List Operand)

namespace Operand

mutual

def chars : Operand → List Char
  | text content => enclosed '\'' content
  | word w => w.chars
  | group items => '(' :: Text.joined ", ".toList (charsEach items) ++ [')']
termination_by structural o => o

def charsEach : List Operand → List (List Char)
  | [] => []
  | o :: os => chars o :: charsEach os
termination_by structural os => os

end

theorem charsEach_eq_map (os : List Operand) : charsEach os = os.map chars := by
  induction os with
  | nil => rfl
  | cons o os ih => rw [charsEach, ih, List.map_cons]

end Operand

/-- A path of at least one part. -/
structure Column where
  parts : List (List Char)
  ne_nil : parts ≠ []

def Column.chars (c : Column) : List Char := Text.joined ['.'] (c.parts.map (enclosed '"'))

inductive Comparator where
  | equal
  | bound (b : Bound)

namespace Comparator

def chars : Comparator → List Char
  | equal => ['=']
  | bound b => sign b

def operator : Comparator → Operator
  | equal => .eq
  | bound b => .bound b

end Comparator

inductive Predicate where
  | presence (expected : Bool)
  | compare (c : Comparator) (o : Operand)

def Predicate.chars : Predicate → List Char
  | presence expected => if expected then "IS NOT NULL".toList else "IS NULL".toList
  | compare c o => c.chars ++ ' ' :: o.chars

mutual

inductive Factor where
  | always
  | test (column : Column) (p : Predicate)
  | group (d : Disjunction)

inductive Conjunction where
  | one (f : Factor)
  | and (f : Factor) (rest : Conjunction)

inductive Disjunction where
  | one (c : Conjunction)
  | or (c : Conjunction) (rest : Disjunction)

end

mutual

def Factor.chars : Factor → List Char
  | .always => "TRUE".toList
  | .test column p => column.chars ++ ' ' :: p.chars
  | .group d => '(' :: d.chars ++ [')']
termination_by structural f => f

def Conjunction.chars : Conjunction → List Char
  | .one f => f.chars
  | .and f rest => f.chars ++ (" AND ".toList ++ rest.chars)
termination_by structural c => c

def Disjunction.chars : Disjunction → List Char
  | .one c => c.chars
  | .or c rest => c.chars ++ (" OR ".toList ++ rest.chars)
termination_by structural d => d

end

/-! ## Meaning -/

/-- A truth assignment to tests of columns against written operands. -/
abbrev WrittenAssignment := Assignment (List (List Char)) (List Char)

def Predicate.holds (σ : WrittenAssignment) (column : Column) : Predicate → Bool
  | presence expected => σ.present column.parts == expected
  | compare c o => σ.test column.parts c.operator o.chars

mutual

def Factor.holds (σ : WrittenAssignment) : Factor → Bool
  | .always => true
  | .test column p => p.holds σ column
  | .group d => d.holds σ
termination_by structural f => f

def Conjunction.holds (σ : WrittenAssignment) : Conjunction → Bool
  | .one f => f.holds σ
  | .and f rest => f.holds σ && rest.holds σ
termination_by structural c => c

/-- Whether a condition holds. -/
def Disjunction.holds (σ : WrittenAssignment) : Disjunction → Bool
  | .one c => c.holds σ
  | .or c rest => c.holds σ || rest.holds σ
termination_by structural d => d

end

/-- The path of a column, and the written operand that it is compared with. -/
abbrev WrittenComparison := List (List Char) × List Char

def Predicate.compared? : Predicate → Option (List Char)
  | presence _ => none
  | compare _ o => some o.chars

mutual

def Factor.comparisons : Factor → List WrittenComparison
  | .always => []
  | .test column p => p.compared?.toList.map (column.parts, ·)
  | .group d => d.comparisons
termination_by structural f => f

def Conjunction.comparisons : Conjunction → List WrittenComparison
  | .one f => f.comparisons
  | .and f rest => f.comparisons ++ rest.comparisons
termination_by structural c => c

/-- The comparisons in a condition, in order. -/
def Disjunction.comparisons : Disjunction → List WrittenComparison
  | .one c => c.comparisons
  | .or c rest => c.comparisons ++ rest.comparisons
termination_by structural d => d

end

/-! ## Words end where they seem to -/

/-- What can follow an operand. -/
def Ends (r : List Char) : Prop := ∀ c ∈ r.head?, c = ' ' ∨ c = ',' ∨ c = ')'

theorem ends_nil : Ends [] := fun _ hc => absurd hc (by simp)

theorem ends_cons {c : Char} (r : List Char) (h : c = ' ' ∨ c = ',' ∨ c = ')') :
    Ends (c :: r) := by
  intro c' hc'
  obtain rfl : c = c' := Option.some.inj hc'
  exact h

theorem Ends.not_inWord {r : List Char} (h : Ends r) : ∀ c ∈ r.head?, inWord c = false := by
  intro c hc
  rcases h c hc with rfl | rfl | rfl <;> decide

theorem Ends.head?_ne {r : List Char} (h : Ends r) {mark : Char}
    (hmark : mark = '\'' ∨ mark = '"') : r.head? ≠ some mark := by
  intro hr
  rcases hmark with rfl | rfl <;> simpa using h _ hr

theorem Word.exists_cons (w : Word) : ∃ c cs, w.chars = c :: cs ∧ inWord c = true := by
  obtain ⟨c, cs, h⟩ := List.exists_cons_of_ne_nil w.ne_nil
  exact ⟨c, cs, h, w.plain c (by rw [h]; exact List.mem_cons_self)⟩

/-! ## Operands are read back -/

namespace Operand

/-- How the operands after the first one of a group are written. -/
def tailChars (os : List Operand) : List Char := os.flatMap fun o => ", ".toList ++ o.chars

theorem tailChars_cons (o : Operand) (os : List Operand) :
    tailChars (o :: os) = ',' :: ' ' :: (o.chars ++ tailChars os) := by
  rw [tailChars, List.flatMap_cons, ← tailChars]
  rfl

theorem group_cons_chars (o : Operand) (os : List Operand) :
    (group (o :: os)).chars = '(' :: (o.chars ++ (tailChars os ++ [')'])) := by
  have htail : (charsEach os).flatMap (fun u => ", ".toList ++ u) = tailChars os := by
    rw [charsEach_eq_map, List.flatMap_map, tailChars]
  rw [chars, charsEach, Text.joined_cons, htail, List.cons_append,
    List.append_assoc]

theorem tail_ends (os : List Operand) (r : List Char) : Ends (tailChars os ++ ')' :: r) := by
  cases os with
  | nil => exact ends_cons r (.inr (.inr rfl))
  | cons o os =>
    rw [tailChars_cons]
    exact ends_cons _ (.inr (.inl rfl))

/-- The first character tells the three kinds of operands apart. -/
theorem exists_cons (o : Operand) : ∃ c cs, o.chars = c :: cs ∧
    match o with
    | text _ => c = '\''
    | word _ => inWord c = true
    | group _ => c = '(' := by
  cases o with
  | text content => exact ⟨_, _, rfl, rfl⟩
  | word w => exact w.exists_cons
  | group items => exact ⟨_, _, rfl, rfl⟩

/-- Takes a word off the front. -/
def readWord (cs : List Char) : Option (Operand × List Char) :=
  if hne : cs.takeWhile inWord = [] then none
  else
    some (.word ⟨cs.takeWhile inWord, hne, List.all_eq_true.mp List.all_takeWhile⟩,
      cs.dropWhile inWord)

mutual

/-- Takes an operand of at most so many characters off the front. -/
def readWithin : Nat → List Char → Option (Operand × List Char)
  | fuel + 1, c :: cs =>
    if c = '\'' then (readEnclosed '\'' cs).map fun p => (text p.1, p.2)
    else if c = '(' then
      if cs.head? = some ')' then some (group [], cs.tail)
      else
        match readWithin fuel cs with
        | some (o, rest) => (readTail fuel rest).map fun p => (group (o :: p.1), p.2)
        | none => none
    else readWord (c :: cs)
  | _, _ => none
termination_by structural fuel => fuel

/-- Takes what is left of a group behind an operand. -/
def readTail : Nat → List Char → Option (List Operand × List Char)
  | _ + 1, ')' :: rest => some ([], rest)
  | fuel + 1, ',' :: ' ' :: cs =>
    match readWithin fuel cs with
    | some (o, rest) => (readTail fuel rest).map fun p => (o :: p.1, p.2)
    | none => none
  | _, _ => none
termination_by structural fuel => fuel

end

/-- Takes an operand off the front of a text. -/
def read (cs : List Char) : Option (Operand × List Char) := readWithin cs.length cs

theorem readWord_chars (w : Word) {r : List Char} (hr : Ends r) :
    readWord (w.chars ++ r) = some (word w, r) := by
  obtain ⟨htake, hdrop⟩ := Text.span_append w.plain hr.not_inWord
  simp only [readWord, htake, hdrop, dif_neg w.ne_nil]

mutual

theorem readWithin_chars (o : Operand) {r : List Char} (hr : Ends r) {fuel : Nat}
    (hfuel : o.chars.length ≤ fuel) : readWithin fuel (o.chars ++ r) = some (o, r) := by
  obtain ⟨c, cs, hchars, hc⟩ := o.exists_cons
  obtain ⟨fuel, rfl⟩ : ∃ n, fuel = n + 1 := by
    rw [hchars, List.length_cons] at hfuel
    exact ⟨fuel - 1, by omega⟩
  match o with
  | text content =>
    have hread := readEnclosed_doubled (hr.head?_ne (.inl rfl)) content
    rw [chars, enclosed_append, readWithin, if_pos rfl, hread, Option.map_some]
  | word w =>
    have hword : inWord c = true := hc
    have hmark : c ≠ '\'' ∧ c ≠ '(' := by
      constructor <;> rintro rfl <;> exact absurd hword (by decide)
    rw [hchars, List.cons_append, readWithin, if_neg hmark.1, if_neg hmark.2, ← List.cons_append,
      ← hchars]
    exact readWord_chars w hr
  | group [] =>
    have hempty : (group []).chars ++ r = '(' :: ')' :: r := rfl
    rw [hempty, readWithin, if_neg (by decide), if_pos rfl]
    rfl
  | group (p :: ps) =>
    obtain ⟨d, ds, hfirst, hd⟩ := p.exists_cons
    have hopen : (p.chars ++ (tailChars ps ++ ')' :: r)).head? ≠ some ')' := by
      rw [hfirst]
      intro hclose
      obtain rfl : d = ')' := Option.some.inj hclose
      cases p <;> simp [inWord] at hd
    have hlen := hfuel
    rw [group_cons_chars, List.length_cons, List.length_append, List.length_append] at hlen
    have hitem : readWithin fuel (p.chars ++ (tailChars ps ++ ')' :: r)) =
        some (p, tailChars ps ++ ')' :: r) :=
      readWithin_chars p (tail_ends ps r) (by omega)
    have htail : readTail fuel (tailChars ps ++ ')' :: r) = some (ps, r) :=
      readTail_chars ps (by simp at hlen; omega)
    have hgroup : (group (p :: ps)).chars ++ r =
        '(' :: (p.chars ++ (tailChars ps ++ ')' :: r)) := by
      simp [group_cons_chars]
    rw [hgroup, readWithin, if_neg (by decide), if_pos rfl, if_neg hopen, hitem]
    exact congrArg (Option.map _) htail
termination_by structural o

theorem readTail_chars (os : List Operand) {r : List Char} {fuel : Nat}
    (hfuel : (tailChars os).length < fuel) :
    readTail fuel (tailChars os ++ ')' :: r) = some (os, r) := by
  obtain ⟨fuel, rfl⟩ : ∃ n, fuel = n + 1 := ⟨fuel - 1, by omega⟩
  match os with
  | [] => rfl
  | p :: ps =>
    have hlen := hfuel
    rw [tailChars_cons, List.length_cons, List.length_cons, List.length_append] at hlen
    have hitem : readWithin fuel (p.chars ++ (tailChars ps ++ ')' :: r)) =
        some (p, tailChars ps ++ ')' :: r) :=
      readWithin_chars p (tail_ends ps r) (by omega)
    have htail : readTail fuel (tailChars ps ++ ')' :: r) = some (ps, r) :=
      readTail_chars ps (by omega)
    have hcons : tailChars (p :: ps) ++ ')' :: r =
        ',' :: ' ' :: (p.chars ++ (tailChars ps ++ ')' :: r)) := by
      simp [tailChars_cons]
    rw [hcons, readTail, hitem]
    exact congrArg (Option.map _) htail
termination_by structural os

end

/-- An operand is read back and nothing behind it is touched. -/
theorem read_chars (o : Operand) {r : List Char} (hr : Ends r) :
    read (o.chars ++ r) = some (o, r) := by
  refine readWithin_chars o hr ?_
  rw [List.length_append]
  exact Nat.le_add_right _ _

theorem append_inj {o o' : Operand} {r r' : List Char} (hr : Ends r) (hr' : Ends r')
    (h : o.chars ++ r = o'.chars ++ r') : o = o' ∧ r = r' := by
  have hread : some (o, r) = some (o', r') := by rw [← read_chars o hr, h, read_chars o' hr']
  exact Prod.mk.inj (Option.some.inj hread)

/-- No text is that of two operands. -/
theorem chars_injective {o o' : Operand} (h : o.chars = o'.chars) : o = o' :=
  (append_inj ends_nil ends_nil (congrArg (· ++ []) h)).1

end Operand

/-! ## The grammar is unambiguous -/

/-- The written form of a column after its first part. -/
def partTail (ps : List (List Char)) : List Char := ps.flatMap fun p => '.' :: enclosed '"' p

theorem partTail_cons (p : List Char) (ps : List (List Char)) :
    partTail (p :: ps) = '.' :: (enclosed '"' p ++ partTail ps) := rfl

theorem joined_parts (p : List Char) (ps : List (List Char)) :
    Text.joined ['.'] ((p :: ps).map (enclosed '"')) = enclosed '"' p ++ partTail ps := by
  rw [List.map_cons, Text.joined_cons, List.flatMap_map]
  rfl

theorem part_append_inj {p p' : List Char} {ps ps' : List (List Char)} {r r' : List Char}
    (h : enclosed '"' p ++ (partTail ps ++ ' ' :: r) =
      enclosed '"' p' ++ (partTail ps' ++ ' ' :: r')) :
    p = p' ∧ partTail ps ++ ' ' :: r = partTail ps' ++ ' ' :: r' := by
  have hstop : ∀ (qs : List (List Char)) (s : List Char),
      (partTail qs ++ ' ' :: s).head? ≠ some '"' := by
    intro qs s
    cases qs <;> simp [partTail]
  exact enclosed_append_inj (hstop ps r) (hstop ps' r') h

/-- A column ends at the first blank after a closing quote. -/
theorem partTail_append_inj (ps ps' : List (List Char)) {r r' : List Char}
    (h : partTail ps ++ ' ' :: r = partTail ps' ++ ' ' :: r') : ps = ps' ∧ r = r' := by
  induction ps generalizing ps' with
  | nil =>
    cases ps' with
    | nil => exact ⟨rfl, (List.cons.inj h).2⟩
    | cons p' ps' => simp [partTail] at h
  | cons p ps ih =>
    cases ps' with
    | nil => simp [partTail] at h
    | cons p' ps' =>
      obtain ⟨rfl, htail⟩ := part_append_inj (by simpa [partTail_cons] using h)
      obtain ⟨rfl, hrest⟩ := ih ps' htail
      exact ⟨rfl, hrest⟩

theorem Column.append_inj {c c' : Column} {r r' : List Char}
    (h : c.chars ++ ' ' :: r = c'.chars ++ ' ' :: r') : c = c' ∧ r = r' := by
  obtain ⟨parts, hne⟩ := c
  obtain ⟨parts', hne'⟩ := c'
  obtain ⟨p, ps, rfl⟩ := List.exists_cons_of_ne_nil hne
  obtain ⟨p', ps', rfl⟩ := List.exists_cons_of_ne_nil hne'
  rw [chars, chars, joined_parts, joined_parts, List.append_assoc, List.append_assoc] at h
  obtain ⟨rfl, htail⟩ := part_append_inj h
  obtain ⟨rfl, hrest⟩ := partTail_append_inj ps ps' htail
  exact ⟨rfl, hrest⟩

theorem Comparator.append_inj {c c' : Comparator} {r r' : List Char}
    (h : c.chars ++ ' ' :: r = c'.chars ++ ' ' :: r') : c = c' ∧ r = r' := by
  cases c with
  | equal =>
    cases c' with
    | equal => simpa [chars] using h
    | bound b' => cases b' <;> simp [chars, sign] at h
  | bound b =>
    cases c' with
    | equal => cases b <;> simp [chars, sign] at h
    | bound b' => cases b <;> cases b' <;> simp_all [chars, sign]

theorem Predicate.append_inj {p p' : Predicate} {r r' : List Char} (hr : Ends r) (hr' : Ends r')
    (h : p.chars ++ r = p'.chars ++ r') : p = p' ∧ r = r' := by
  have hsign : ∀ c : Comparator, ∃ x cs, c.chars = x :: cs ∧ x ≠ 'I' := by
    intro c
    cases c with
    | equal => exact ⟨_, _, rfl, by decide⟩
    | bound b => cases b <;> exact ⟨_, _, rfl, by decide⟩
  match p, p' with
  | presence b, presence b' => cases b <;> cases b' <;> simp_all [chars]
  | compare c o, presence b =>
    obtain ⟨x, cs, hchars, hx⟩ := hsign c
    cases b <;> simp [chars, hchars, hx] at h
  | presence b, compare c o =>
    obtain ⟨x, cs, hchars, hx⟩ := hsign c
    cases b <;> simp [chars, hchars, hx.symm] at h
  | compare c o, compare c' o' =>
    have hcompare : c.chars ++ ' ' :: (o.chars ++ r) = c'.chars ++ ' ' :: (o'.chars ++ r') := by
      simpa [chars] using h
    obtain ⟨rfl, hoperand⟩ := Comparator.append_inj hcompare
    obtain ⟨rfl, hrest⟩ := Operand.append_inj hr hr' hoperand
    exact ⟨rfl, hrest⟩

/-- What can follow a disjunction. -/
def Closes (r : List Char) : Prop := ∀ c ∈ r.head?, c = ')'

theorem Closes.ends {r : List Char} (h : Closes r) : Ends r := fun c hc => .inr (.inr (h c hc))

theorem Closes.ne_cons {r s : List Char} (h : Closes r) : r ≠ ' ' :: s := by
  rintro rfl
  exact absurd (h ' ' rfl) (by decide)

/-- The first character tells the three kinds of factors apart. -/
theorem Factor.exists_cons (f : Factor) : ∃ c cs, f.chars = c :: cs ∧
    match f with
    | .always => c = 'T'
    | .test _ _ => c = '"'
    | .group _ => c = '(' := by
  cases f with
  | always => exact ⟨_, _, rfl, rfl⟩
  | group d => exact ⟨_, _, rfl, rfl⟩
  | test column p =>
    obtain ⟨parts, hne⟩ := column
    obtain ⟨part, parts, rfl⟩ := List.exists_cons_of_ne_nil hne
    rw [chars, Column.chars, joined_parts]
    exact ⟨_, _, rfl, rfl⟩

mutual

theorem Factor.append_inj (f f' : Factor) {r r' : List Char} (hr : Ends r) (hr' : Ends r')
    (h : f.chars ++ r = f'.chars ++ r') : f = f' ∧ r = r' := by
  obtain ⟨c, cs, hchars, hc⟩ := f.exists_cons
  obtain ⟨c', cs', hchars', hc'⟩ := f'.exists_cons
  have hcc : c = c' := by
    rw [hchars, hchars'] at h
    exact (List.cons.inj h).1
  subst hcc
  match f, f' with
  | .always, .always => exact ⟨rfl, List.append_cancel_left h⟩
  | .test column p, .test column' p' =>
    have htest : column.chars ++ ' ' :: (p.chars ++ r) =
        column'.chars ++ ' ' :: (p'.chars ++ r') := by
      simpa [Factor.chars] using h
    obtain ⟨rfl, hpredicate⟩ := Column.append_inj htest
    obtain ⟨rfl, hrest⟩ := Predicate.append_inj hr hr' hpredicate
    exact ⟨rfl, hrest⟩
  | .group d, .group d' =>
    have hinside : d.chars ++ ')' :: r = d'.chars ++ ')' :: r' := by
      simpa [Factor.chars] using h
    have hcloses : ∀ s, Closes (')' :: s) := fun s c hc => (Option.some.inj hc).symm
    obtain ⟨rfl, hrest⟩ := Disjunction.append_inj d d' (hcloses r) (hcloses r') hinside
    exact ⟨rfl, (List.cons.inj hrest).2⟩
  | .always, .test _ _ | .always, .group _ | .test _ _, .always | .test _ _, .group _
  | .group _, .always | .group _, .test _ _ => simp_all
termination_by structural f

theorem Conjunction.append_inj (c c' : Conjunction) {r r' : List Char} (hr : Ends r)
    (hr' : Ends r') (hand : ∀ s, r ≠ " AND ".toList ++ s) (hand' : ∀ s, r' ≠ " AND ".toList ++ s)
    (h : c.chars ++ r = c'.chars ++ r') : c = c' ∧ r = r' := by
  have hfollow : ∀ s, Ends (" AND ".toList ++ s) := fun s => ends_cons _ (.inl rfl)
  -- where one side ends and the other goes on, the rest of the first would start with AND
  match c, c' with
  | .one f, .one f' =>
    obtain ⟨rfl, hrest⟩ := Factor.append_inj f f' hr hr' h
    exact ⟨rfl, hrest⟩
  | .one f, .and f' rest' =>
    have hfirst : f.chars ++ r = f'.chars ++ (" AND ".toList ++ (rest'.chars ++ r')) := by
      simpa only [Conjunction.chars, List.append_assoc] using h
    exact absurd (Factor.append_inj f f' hr (hfollow _) hfirst).2 (hand _)
  | .and f rest, .one f' =>
    have hfirst : f.chars ++ (" AND ".toList ++ (rest.chars ++ r)) = f'.chars ++ r' := by
      simpa only [Conjunction.chars, List.append_assoc] using h
    exact absurd (Factor.append_inj f f' (hfollow _) hr' hfirst).2.symm (hand' _)
  | .and f rest, .and f' rest' =>
    have hfirst : f.chars ++ (" AND ".toList ++ (rest.chars ++ r)) =
        f'.chars ++ (" AND ".toList ++ (rest'.chars ++ r')) := by
      simpa only [Conjunction.chars, List.append_assoc] using h
    obtain ⟨rfl, htail⟩ := Factor.append_inj f f' (hfollow _) (hfollow _) hfirst
    obtain ⟨rfl, hrest⟩ :=
      Conjunction.append_inj rest rest' hr hr' hand hand' (List.append_cancel_left htail)
    exact ⟨rfl, hrest⟩
termination_by structural c

theorem Disjunction.append_inj (d d' : Disjunction) {r r' : List Char} (hr : Closes r)
    (hr' : Closes r') (h : d.chars ++ r = d'.chars ++ r') : d = d' ∧ r = r' := by
  have hfollow : ∀ s, Ends (" OR ".toList ++ s) := fun s => ends_cons _ (.inl rfl)
  have hclose : ∀ {r}, Closes r → ∀ s, r ≠ " AND ".toList ++ s := fun hr s => hr.ne_cons
  have hor : ∀ s s', " OR ".toList ++ s ≠ " AND ".toList ++ s' := fun s s' heq => by
    simp at heq
  -- a rest that closes starts with no blank, and so neither with AND nor with OR
  match d, d' with
  | .one c, .one c' =>
    obtain ⟨rfl, hrest⟩ := Conjunction.append_inj c c' hr.ends hr'.ends (hclose hr) (hclose hr') h
    exact ⟨rfl, hrest⟩
  | .one c, .or c' rest' =>
    have hfirst : c.chars ++ r = c'.chars ++ (" OR ".toList ++ (rest'.chars ++ r')) := by
      simpa only [Disjunction.chars, List.append_assoc] using h
    have hrest :=
      (Conjunction.append_inj c c' hr.ends (hfollow _) (hclose hr) (hor _) hfirst).2
    exact absurd hrest hr.ne_cons
  | .or c rest, .one c' =>
    have hfirst : c.chars ++ (" OR ".toList ++ (rest.chars ++ r)) = c'.chars ++ r' := by
      simpa only [Disjunction.chars, List.append_assoc] using h
    have hrest :=
      (Conjunction.append_inj c c' (hfollow _) hr'.ends (hor _) (hclose hr') hfirst).2
    exact absurd hrest.symm hr'.ne_cons
  | .or c rest, .or c' rest' =>
    have hfirst : c.chars ++ (" OR ".toList ++ (rest.chars ++ r)) =
        c'.chars ++ (" OR ".toList ++ (rest'.chars ++ r')) := by
      simpa only [Disjunction.chars, List.append_assoc] using h
    obtain ⟨rfl, htail⟩ :=
      Conjunction.append_inj c c' (hfollow _) (hfollow _) (hor _) (hor _) hfirst
    obtain ⟨rfl, hrest⟩ :=
      Disjunction.append_inj rest rest' hr hr' (List.append_cancel_left htail)
    exact ⟨rfl, hrest⟩
termination_by structural d

end

/-- No text has two derivation trees. -/
theorem Disjunction.chars_injective {d d' : Disjunction} (h : d.chars = d'.chars) : d = d' := by
  have hnil : Closes [] := fun c hc => absurd hc (by simp)
  exact (Disjunction.append_inj d d' hnil hnil (congrArg (· ++ []) h)).1

end FieldQuery.Sql
