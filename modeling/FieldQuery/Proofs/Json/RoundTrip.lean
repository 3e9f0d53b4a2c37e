import FieldQuery.Proofs.Json.Scalars
import FieldQuery.Proofs.Json.Strings
import FieldQuery.Proofs.Value.Arranged

/-!
# Values come back from JSON

What is modelled. The writer puts the keys of every object in order and gives no text to a number of
too many digits. The reader is the one of the library, which also takes floating point numbers and
other escapes and blanks than are written here.

What is proved. The text of a native value with short numbers is read as that value with its keys in
order and its pairs of surrogates joined, whatever stands behind the text (`ReadsAs`). No part of
the text is longer than the whole, so a reader that takes as many digits and as many containers
inside each other as the text has characters never runs into its limits (`denoted?_write`). The
recursion is bounded likewise: a container that holds something takes two steps to get to it, and
its two brackets pay for them.

Nothing is said of texts that the reader was not given by the writer, or of the values that JSON
does not have.
-/

namespace FieldQuery.Json

variable {texts : Texts}

/-- The front of a value's text: no blank, and nothing that ends an array. -/
def Opens (t : List Char) : Prop := ∃ c cs, t = c :: cs ∧ isBlank c = false ∧ c ≠ ']'

/-- The text is read as the value by every reader that takes as much as its length. -/
structure ReadsAs (t : List Char) (v : Value texts) : Prop where
  opens : Opens t
  reads : ∀ {digits fuel depth : Nat} {rest : List Char}, t.length ≤ digits → t.length ≤ depth →
    t.length < fuel → Stops rest → value? digits fuel depth (t ++ rest) = some (v, rest)

theorem Opens.append {t : List Char} (h : Opens t) (rest : List Char) : Opens (t ++ rest) := by
  obtain ⟨c, cs, rfl, hc⟩ := h
  exact ⟨c, cs ++ rest, rfl, hc⟩

theorem Opens.skipBlank {t : List Char} (h : Opens t) : skipBlank t = t := by
  obtain ⟨c, cs, rfl, hblank, -⟩ := h
  exact List.dropWhile_cons_of_neg (by rw [hblank]; exact Bool.false_ne_true)

/-! ## Blanks in front -/

theorem value?_blank (digits fuel depth : Nat) (cs : List Char) :
    (value? digits fuel depth (' ' :: cs) : Option (Value texts × List Char)) =
      value? digits fuel depth cs := by
  cases fuel <;> rfl

theorem items?_blank (digits fuel depth : Nat) (cs : List Char) :
    (items? digits fuel depth (' ' :: cs) : Option (List (Value texts) × List Char)) =
      items? digits fuel depth cs := by
  cases fuel with
  | zero => rfl
  | succ fuel => rw [items?, value?_blank, items?]

theorem members?_blank (digits fuel depth : Nat) (cs : List Char) :
    (members? digits fuel depth (' ' :: cs) :
      Option (List (Value texts × Value texts) × List Char)) = members? digits fuel depth cs := by
  cases fuel <;> rfl

/-! ## What the first character decides -/

section

variable {digits fuel depth : Nat} {cs : List Char}

theorem value?_quote :
    (value? digits (fuel + 1) depth ('"' :: cs) : Option (Value texts × List Char)) =
      string? cs := rfl

theorem value?_emptyArray :
    value? digits (fuel + 1) (depth + 1) ('[' :: ']' :: cs) =
      some ((.list [] : Value texts), cs) := rfl

theorem value?_array (h : Opens cs) :
    (value? digits (fuel + 1) (depth + 1) ('[' :: cs) : Option (Value texts × List Char)) =
      (items? digits fuel depth cs).map fun r => (.list r.1, r.2) := by
  have hskip := h.skipBlank
  obtain ⟨c, rest, rfl, -, hc⟩ := h
  have hbracket : skipBlank ('[' :: c :: rest) = '[' :: c :: rest := rfl
  unfold value?
  simp only [hbracket, hskip]
  split
  · next heq => exact absurd (List.cons.inj heq).1 hc
  · rfl

theorem value?_emptyObject :
    value? digits (fuel + 1) (depth + 1) ('\x7b' :: '\x7d' :: cs) =
      some ((.dict [] : Value texts), cs) := rfl

theorem value?_object :
    (value? digits (fuel + 1) (depth + 1) ('\x7b' :: '"' :: cs) :
        Option (Value texts × List Char)) =
      (members? digits fuel depth ('"' :: cs)).map fun r => (Value.dictOf r.1, r.2) := rfl

theorem value?_scalar {c : Char} (hblank : isBlank c = false)
    (hc : c ≠ '"' ∧ c ≠ '[' ∧ c ≠ '\x7b') :
    (value? digits (fuel + 1) depth (c :: cs) : Option (Value texts × List Char)) =
      scalar? digits (c :: cs) := by
  have hskip : skipBlank (c :: cs) = c :: cs :=
    List.dropWhile_cons_of_neg (by rw [hblank]; exact Bool.false_ne_true)
  rw [value?, hskip]
  split
  · next heq => exact absurd (List.cons.inj heq).1 hc.1
  · next heq => exact absurd (List.cons.inj heq).1 hc.2.1
  · next heq => exact absurd (List.cons.inj heq).1 hc.2.2
  · rfl

end

/-! ## Words, numbers and strings -/

theorem ReadsAs.of_scalar {t : List Char} {v : Value texts} {c : Char} {cs : List Char}
    (ht : t = c :: cs) (hblank : isBlank c = false)
    (hc : c ≠ ']' ∧ c ≠ '"' ∧ c ≠ '[' ∧ c ≠ '\x7b')
    (h : ∀ digits rest, t.length ≤ digits → Stops rest →
      scalar? digits (t ++ rest) = some (v, rest)) : ReadsAs t v := by
  refine ⟨⟨c, cs, ht, hblank, hc.1⟩, fun {digits fuel depth rest} hdigits _ hfuel hrest => ?_⟩
  obtain ⟨fuel, rfl⟩ := Nat.exists_eq_add_one_of_ne_zero (Nat.ne_zero_of_lt hfuel)
  rw [← h digits rest hdigits hrest, ht]
  exact value?_scalar hblank hc.2

theorem readsAs_null : ReadsAs "null".toList (.null : Value texts) :=
  .of_scalar rfl rfl (by decide) fun digits rest _ _ => scalar?_word digits rest rfl

theorem readsAs_bool (b : Bool) : ReadsAs (boolChars b) (.bool b : Value texts) := by
  cases b
  · exact .of_scalar rfl rfl (by decide) fun digits rest _ _ => scalar?_word digits rest rfl
  · exact .of_scalar rfl rfl (by decide) fun digits rest _ _ => scalar?_word digits rest rfl

theorem readsAs_signed (n : Int) : ReadsAs (Text.signed n) (.int n : Value texts) := by
  have hread : ∀ digits rest, (Text.signed n).length ≤ digits → Stops rest →
      scalar? digits (Text.signed n ++ rest) = some ((.int n : Value texts), rest) :=
    fun _ _ hdigits hrest => scalar?_signed n hdigits hrest
  obtain ⟨c, cs, hc, h | h⟩ := exists_cons_signed n
  · have hne : ∀ d, d.isDigit = false → c ≠ d := by
      rintro d hd rfl
      rw [hc] at hd
      cases hd
    refine .of_scalar h ?_ ⟨hne _ rfl, hne _ rfl, hne _ rfl, hne _ rfl⟩ hread
    simp [isBlank, hne ' ' rfl, hne '\t' rfl, hne '\n' rfl, hne '\r' rfl]
  · exact .of_scalar h rfl (by decide) hread

theorem readsAs_textChars {v : Value texts} (h : v.IsString) :
    ReadsAs (textChars v) v.joinPairs := by
  refine ⟨⟨'"', _, rfl, rfl, by decide⟩, fun {digits fuel depth rest} _ _ hfuel _ => ?_⟩
  obtain ⟨fuel, rfl⟩ := Nat.exists_eq_add_one_of_ne_zero (Nat.ne_zero_of_lt hfuel)
  obtain ⟨body, hbody, hread⟩ := string?_textChars h rest
  rw [hbody, value?_quote, hread]

/-! ## Arrays -/

section

variable {α : Type} {t : α → List Char} {v : α → Value texts} {digits depth : Nat}

/-- The items of an array, up to its end. -/
theorem items?_joined {x : α} {xs : List α} (h : ∀ y ∈ x :: xs, ReadsAs (t y) (v y)) {fuel : Nat}
    (hdigits : (Text.joined [',', ' '] ((x :: xs).map t)).length ≤ digits)
    (hdepth : (Text.joined [',', ' '] ((x :: xs).map t)).length ≤ depth)
    (hfuel : (Text.joined [',', ' '] ((x :: xs).map t)).length + 1 < fuel) (rest : List Char) :
    items? digits fuel depth (Text.joined [',', ' '] ((x :: xs).map t) ++ ']' :: rest) =
      some ((x :: xs).map v, rest) := by
  obtain ⟨fuel, rfl⟩ := Nat.exists_eq_add_one_of_ne_zero (Nat.ne_zero_of_lt hfuel)
  induction xs generalizing x fuel with
  | nil =>
    have hx := (h x List.mem_cons_self).reads hdigits hdepth (Nat.lt_of_succ_lt_succ hfuel)
      (stops_cons (c := ']') rfl rest)
    rw [items?, List.map_singleton, Text.joined, hx]
    rfl
  | cons y xs ih =>
    obtain ⟨hx, hys⟩ := List.forall_mem_cons.mp h
    have hjoined : Text.joined [',', ' '] ((x :: y :: xs).map t) =
        t x ++ ',' :: ' ' :: Text.joined [',', ' '] ((y :: xs).map t) := by
      simp [Text.joined]
    rw [hjoined] at hdigits hdepth hfuel ⊢
    simp only [List.length_append, List.length_cons] at hdigits hdepth hfuel
    obtain ⟨fuel, rfl⟩ := Nat.exists_eq_add_one_of_ne_zero (n := fuel) (by omega)
    have hrest := ih hys (by omega) (by omega) fuel (by omega)
    have hread (cs : List Char) :
        value? digits (fuel + 1) depth (t x ++ ',' :: cs) = some (v x, ',' :: cs) :=
      hx.reads (by omega) (by omega) (by omega) (stops_cons rfl cs)
    rw [List.append_assoc, items?, List.cons_append, List.cons_append, hread]
    change ((items? digits (fuel + 1) depth (' ' :: _)).map _) = _
    rw [items?_blank, hrest]
    rfl

/-! ## Objects -/

/-- The members of an object, once the first one has been read up to the end of its value. -/
def membersFrom (digits fuel depth : Nat) (member : Value texts × Value texts)
    (rest : List Char) : Option (List (Value texts × Value texts) × List Char) :=
  match skipBlank rest with
  | ',' :: rest => (members? digits fuel depth rest).map fun r => (member :: r.1, r.2)
  | '\x7d' :: rest => some ([member], rest)
  | _ => none

theorem members?_member {key w : Value texts} {cs : List Char} (hkey : key.IsString)
    (h : ReadsAs cs w) {fuel : Nat} (hdigits : cs.length ≤ digits) (hdepth : cs.length ≤ depth)
    (hfuel : cs.length < fuel) {rest : List Char} (hrest : Stops rest) :
    members? digits (fuel + 1) depth (textChars key ++ ':' :: ' ' :: (cs ++ rest)) =
      membersFrom digits fuel depth (key.joinPairs, w) rest := by
  obtain ⟨body, hbody, hname⟩ := string?_textChars hkey (':' :: ' ' :: (cs ++ rest))
  have hvalue := h.reads hdigits hdepth hfuel hrest
  have hskip : skipBlank ('"' :: body) = '"' :: body := rfl
  have hcolon : skipBlank (':' :: ' ' :: (cs ++ rest)) = ':' :: ' ' :: (cs ++ rest) := rfl
  rw [hbody, members?]
  simp only [hskip, hname, hcolon, value?_blank, hvalue]
  rfl

/-- A member of an object, with what is written for its value. -/
def memberChars (t : α → List Char) (f : Value texts × α) : List Char :=
  textChars f.1 ++ ':' :: ' ' :: t f.2

/-- The members of an object, up to its end. -/
theorem members?_joined {f : Value texts × α} {fs : List (Value texts × α)}
    (keys : ∀ g ∈ f :: fs, g.1.IsString) (h : ∀ g ∈ f :: fs, ReadsAs (t g.2) (v g.2)) {fuel : Nat}
    (hdigits : (Text.joined [',', ' '] ((f :: fs).map (memberChars t))).length ≤ digits)
    (hdepth : (Text.joined [',', ' '] ((f :: fs).map (memberChars t))).length ≤ depth)
    (hfuel : (Text.joined [',', ' '] ((f :: fs).map (memberChars t))).length + 1 < fuel)
    (rest : List Char) :
    members? digits fuel depth
        (Text.joined [',', ' '] ((f :: fs).map (memberChars t)) ++ '\x7d' :: rest) =
      some ((f :: fs).map fun g => (g.1.joinPairs, v g.2), rest) := by
  obtain ⟨fuel, rfl⟩ := Nat.exists_eq_add_one_of_ne_zero (Nat.ne_zero_of_lt hfuel)
  induction fs generalizing f fuel with
  | nil =>
    have hjoined : Text.joined [',', ' '] ([f].map (memberChars t)) =
        textChars f.1 ++ ':' :: ' ' :: t f.2 := rfl
    rw [hjoined] at hdigits hdepth hfuel ⊢
    simp only [List.length_append, List.length_cons] at hdigits hdepth hfuel
    rw [List.append_assoc, List.cons_append, List.cons_append,
      members?_member (keys f List.mem_cons_self) (h f List.mem_cons_self) (by omega) (by omega)
        (by omega) (stops_cons (c := '\x7d') rfl rest)]
    rfl
  | cons g fs ih =>
    obtain ⟨hkey, hkeys⟩ := List.forall_mem_cons.mp keys
    obtain ⟨hf, hgs⟩ := List.forall_mem_cons.mp h
    have hjoined : Text.joined [',', ' '] ((f :: g :: fs).map (memberChars t)) =
        textChars f.1 ++ ':' :: ' ' :: (t f.2 ++
          ',' :: ' ' :: Text.joined [',', ' '] ((g :: fs).map (memberChars t))) := by
      simp [Text.joined, memberChars]
    rw [hjoined] at hdigits hdepth hfuel ⊢
    simp only [List.length_append, List.length_cons] at hdigits hdepth hfuel
    obtain ⟨fuel, rfl⟩ := Nat.exists_eq_add_one_of_ne_zero (n := fuel) (by omega)
    have hrest := ih hkeys hgs (by omega) (by omega) fuel (by omega)
    rw [List.append_assoc, List.cons_append, List.cons_append, List.append_assoc,
      List.cons_append, List.cons_append,
      members?_member hkey hf (by omega) (by omega) (by omega) (stops_cons (c := ',') rfl _)]
    change ((members? digits (fuel + 1) depth (' ' :: _)).map _) = _
    rw [members?_blank, hrest]
    rfl

/-! ## Containers -/

theorem ReadsAs.list {xs : List α} (h : ∀ x ∈ xs, ReadsAs (t x) (v x)) :
    ReadsAs ('[' :: Text.joined [',', ' '] (xs.map t) ++ [']']) (.list (xs.map v)) := by
  refine ⟨⟨'[', _, rfl, rfl, by decide⟩, fun {digits fuel depth rest} hdigits hdepth hfuel _ => ?_⟩
  simp only [List.length_append, List.length_cons] at hdigits hdepth hfuel
  obtain ⟨fuel, rfl⟩ := Nat.exists_eq_add_one_of_ne_zero (Nat.ne_zero_of_lt hfuel)
  obtain ⟨depth, rfl⟩ := Nat.exists_eq_add_one_of_ne_zero (n := depth) (by omega)
  rw [List.append_assoc, List.cons_append, List.singleton_append]
  cases xs with
  | nil => exact value?_emptyArray
  | cons x xs =>
    have hopens : Opens (Text.joined [',', ' '] ((x :: xs).map t)) := by
      have hx := (h x List.mem_cons_self).opens
      cases xs with
      | nil => exact hx
      | cons y xs =>
        rw [List.map_cons, List.map_cons, Text.joined, List.append_assoc]
        exact hx.append _
    rw [value?_array (hopens.append _), items?_joined h (by omega) (by omega) (by omega) rest]
    rfl

theorem ReadsAs.dict {fs : List (Value texts × α)} (keys : ∀ f ∈ fs, f.1.IsString)
    (h : ∀ f ∈ fs, ReadsAs (t f.2) (v f.2)) :
    ReadsAs ('\x7b' :: Text.joined [',', ' '] (fs.map (memberChars t)) ++ ['\x7d'])
      (Value.dictOf (fs.map fun f => (f.1.joinPairs, v f.2))) := by
  refine ⟨⟨'\x7b', _, rfl, rfl, by decide⟩,
    fun {digits fuel depth rest} hdigits hdepth hfuel _ => ?_⟩
  simp only [List.length_append, List.length_cons] at hdigits hdepth hfuel
  obtain ⟨fuel, rfl⟩ := Nat.exists_eq_add_one_of_ne_zero (Nat.ne_zero_of_lt hfuel)
  obtain ⟨depth, rfl⟩ := Nat.exists_eq_add_one_of_ne_zero (n := depth) (by omega)
  rw [List.append_assoc, List.cons_append, List.singleton_append]
  cases fs with
  | nil => exact value?_emptyObject
  | cons f fs =>
    obtain ⟨cs, hcs⟩ : ∃ cs,
        Text.joined [',', ' '] ((f :: fs).map (memberChars t)) = '"' :: cs := by
      cases fs with
      | nil => exact ⟨_, rfl⟩
      | cons g fs => exact ⟨_, rfl⟩
    have hmembers : members? digits fuel depth
        (Text.joined [',', ' '] ((f :: fs).map (memberChars t)) ++ '\x7d' :: rest) =
          some ((f :: fs).map fun g => (g.1.joinPairs, v g.2), rest) :=
      members?_joined keys h (by omega) (by omega) (by omega) rest
    rw [hcs, List.cons_append] at hmembers ⊢
    rw [value?_object, hmembers, Option.map_some]

end

/-! ## Native values -/

/-- The JSON text of a value that has one. -/
def text (v : Value texts) : List Char := (chars v).toOption.getD []

theorem text_eq {v : Value texts} {t : List Char} (h : chars v = .ok t) : text v = t := by
  rw [text, h]
  rfl

theorem charsAll_native {xs : List (Value texts)} (h : ∀ x ∈ xs, chars x = .ok (text x)) :
    charsAll xs = .ok (xs.map text) := by
  induction xs with
  | nil => rfl
  | cons x xs ih =>
    obtain ⟨hx, hxs⟩ := List.forall_mem_cons.mp h
    rw [charsAll, hx, ih hxs]
    rfl

theorem keyPoints_of_isString {key : Value texts} (h : key.IsString) :
    keyPoints key = .ok (key.points?.getD []) := by
  cases key with
  | str s => rfl
  | surrogates _ t => rfl
  | _ => cases h

theorem members_native {entries : List (Value texts × Value texts)}
    (keys : ∀ e ∈ entries, e.1.IsString) (h : ∀ e ∈ entries, chars e.2 = .ok (text e.2)) :
    members entries = .ok (entries.map fun e => (e.1, memberChars text e)) := by
  induction entries with
  | nil => rfl
  | cons e entries ih =>
    obtain ⟨hkey, hkeys⟩ := List.forall_mem_cons.mp keys
    obtain ⟨he, hentries⟩ := List.forall_mem_cons.mp h
    have hmember : textChars e.1 ++ ": ".toList ++ text e.2 = memberChars text e := by
      simp [memberChars]
    rw [members, keyPoints_of_isString hkey, he, ih hkeys hentries, List.map_cons, ← hmember]
    rfl

theorem keyOrder_native {entries : List (Value texts × Value texts)}
    (keys : ∀ e ∈ entries, e.1.IsString) : keyOrder (entries.map Prod.fst) = .ok .texts := by
  rw [keyOrder, if_pos]
  rw [List.all_map, List.all_eq_true]
  intro e he
  obtain ⟨ps, hps, -⟩ := Value.ofPoints?_joinPairs (keys e he)
  rw [Function.comp_apply, hps]
  rfl

theorem chars_list {xs : List (Value texts)} (h : ∀ x ∈ xs, chars x = .ok (text x)) :
    chars (.list xs) = .ok ('[' :: Text.joined [',', ' '] (xs.map text) ++ [']']) := by
  rw [chars, charsAll_native h]
  rfl

theorem chars_dict {entries : List (Value texts × Value texts)}
    (keys : ∀ e ∈ entries, e.1.IsString) (h : ∀ e ∈ entries, chars e.2 = .ok (text e.2)) :
    chars (.dict entries) = .ok ('\x7b' ::
      Text.joined [',', ' '] ((inOrder entries).map (memberChars text)) ++ ['\x7d']) := by
  have hsorted : KeyOrder.texts.sorted (entries.map fun e => (e.1, memberChars text e)) =
      (inOrder entries).map fun e => (e.1, memberChars text e) := inOrder_map entries _
  rw [chars, keyOrder_native keys, members_native keys h]
  dsimp only
  rw [Except.map, hsorted, List.map_map]
  rfl

end FieldQuery.Json

namespace FieldQuery.Value

variable {texts : Texts}

/-- Whether a whole number does not have too many digits; holds of all values that are none. -/
def Short : Value texts → Prop
  | int n => n.natAbs < Nat.pow 10 Text.maxDigits
  | _ => True

end FieldQuery.Value

namespace FieldQuery.Json

open Value (NativeOf Short)

variable {texts : Texts}

theorem chars_int {n : Int} (h : (Value.int n : Value texts).Short) :
    chars (.int n : Value texts) = .ok (Text.signed n) := by
  rw [chars, wholeChars, if_neg (Nat.not_le.mpr h)]

/-- A native value with short numbers has a text, which is read as the value with its keys in order
and its pairs of surrogates joined. -/
theorem native_text {v : Value texts} (h : NativeOf Short v) :
    chars v = .ok (text v) ∧ ReadsAs (text v) v.arranged.joinPairs := by
  have of_chars {v w : Value texts} {t : List Char} (hchars : chars v = .ok t)
      (hread : ReadsAs t w) : chars v = .ok (text v) ∧ ReadsAs (text v) w := by
    rw [text_eq hchars]
    exact ⟨hchars, hread⟩
  induction h with
  | null => exact of_chars rfl readsAs_null
  | bool b => exact of_chars rfl (readsAs_bool b)
  | int hn => exact of_chars (chars_int hn) (readsAs_signed _)
  | str _ => exact of_chars rfl (readsAs_textChars (v := .str _) trivial)
  | surrogates _ => exact of_chars rfl (readsAs_textChars (v := .surrogates _ _) trivial)
  | @list xs _ ih =>
    rw [Value.arranged, Value.arrangedAll_eq_map, Value.joinPairs, Value.joinPairsAll_eq_map,
      List.map_map]
    exact of_chars (chars_list fun x hx => (ih x hx).1) (.list fun x hx => (ih x hx).2)
  | @dict entries keys _ _ ih =>
    have hperm := inOrder_perm entries
    rw [Value.arranged_dict, Value.joinPairs, Value.joinPairsEntries_eq_map, List.map_map]
    have hread := ReadsAs.dict (t := text) (v := fun w => w.arranged.joinPairs)
      (fun e he => (keys e (hperm.mem_iff.mp he)).1) fun e he => (ih e (hperm.mem_iff.mp he)).2
    exact of_chars (chars_dict (fun e he => (keys e he).1) fun e he => (ih e he).1) hread

/-- The value of a whole text for a reader without limits: no text has containers inside each other
deeper, or numbers longer, than it is long. -/
def denoted? (text : String) : Option (Value texts) :=
  parseWithin text.toList.length text.toList.length text.toList

/-- What is written for a native value with short numbers is read as the value with its keys in
order and its pairs of surrogates joined. -/
theorem denoted?_write {v : Value texts} (h : NativeOf Short v) :
    ∃ s, write v = .ok s ∧ denoted? s = some v.arranged.joinPairs := by
  obtain ⟨hchars, -, hreads⟩ := native_text h
  refine ⟨String.ofList (text v), by rw [write, hchars]; rfl, ?_⟩
  have hread : value? (text v).length ((text v).length + 1) (text v).length (text v ++ []) =
      some (v.arranged.joinPairs, []) :=
    hreads Nat.le.refl Nat.le.refl (Nat.lt_succ_self _) stops_nil
  rw [List.append_nil] at hread
  rw [denoted?, String.toList_ofList, parseWithin, hread]
  rfl

end FieldQuery.Json
