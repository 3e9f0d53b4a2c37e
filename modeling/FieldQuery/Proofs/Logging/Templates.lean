import FieldQuery.Composite

/-!
# What is reported is a filled template

What is modelled. Rendering and combining report to the log with a template and texts that are
filled in for its directives; a report whose texts do not fit would be lost. Only templates with
plain text directives are used.

What is proved. Every report reaches the log, as one entry with the texts put in their places
(`Constraint.entries_renderReport`, `Composite.combineEntries_eq`). A text is taken as it is, so
percent signs in a field, in a label or in what stands for a value stay percent signs
(`Logging.fill_textDirective`).

Which of the entries are kept is not said here; that hangs on the level of the logger.
-/

namespace FieldQuery

namespace Logging

/-! ## Templates of texts -/

/-- The directive that shows a text as it is. -/
def textDirective : Directive := ⟨none, ⟨false, false, false, false, false⟩, none, none, some 's'⟩

/-- What stands in a message for each argument: the directive, and the text up to the next one. -/
def places (parts : List (String × String)) : List Char :=
  parts.flatMap fun p => '%' :: 's' :: p.2.toList

def placePieces (parts : List (String × String)) : List Piece :=
  parts.flatMap fun p => .directive textDirective :: p.2.toList.map .character

/-- The arguments with the texts after them. -/
def fillings (parts : List (String × String)) : String :=
  parts.foldr (fun p text => p.1 ++ (p.2 ++ text)) ""

theorem pieces_characters {cs : List Char} (h : '%' ∉ cs) (fuel : Nat) (rest : List Char) :
    pieces (cs.length + fuel) (cs ++ rest) = cs.map .character ++ pieces fuel rest := by
  induction cs with
  | nil => rw [List.length_nil, Nat.zero_add]; rfl
  | cons c cs ih =>
    rw [List.mem_cons, not_or] at h
    obtain ⟨hc, hcs⟩ := h
    rw [List.length_cons, Nat.succ_add, List.cons_append, pieces, if_neg (Ne.symm hc), ih hcs]
    rfl

/-- As many pieces as characters suffice for a message. -/
theorem pieces_places (parts : List (String × String)) (h : ∀ p ∈ parts, '%' ∉ p.2.toList)
    {fuel : Nat} (hfuel : (places parts).length ≤ fuel) :
    pieces fuel (places parts) = placePieces parts := by
  induction parts generalizing fuel with
  | nil => cases fuel <;> rfl
  | cons p parts ih =>
    obtain ⟨hp, hparts⟩ := List.forall_mem_cons.mp h
    have hcons : places (p :: parts) = '%' :: 's' :: (p.2.toList ++ places parts) := rfl
    rw [hcons] at hfuel ⊢
    simp only [List.length_cons, List.length_append] at hfuel
    obtain ⟨rest, rfl⟩ : ∃ rest, fuel = p.2.toList.length + rest + 1 :=
      ⟨fuel - (p.2.toList.length + 1), by omega⟩
    have hdirective : splitPiece ('s' :: (p.2.toList ++ places parts)) =
        (.directive textDirective, p.2.toList ++ places parts) := rfl
    rw [pieces, if_pos rfl, hdirective]
    dsimp only
    rw [pieces_characters hp, ih hparts (by omega)]
    rfl

theorem fill_characters (args : Arguments) (cs : List Char) (ps : List Piece) :
    fill args (cs.map .character ++ ps) = (fill args ps).map (cs ++ ·) := by
  induction cs with
  | nil => cases h : fill args ps <;> simp [h, Except.map]
  | cons c cs ih =>
    rw [List.map_cons, List.cons_append, fill, ih]
    cases fill args ps <;> rfl

/-- A text is filled in as it is, whatever characters it has. -/
theorem fill_textDirective (a : String) (vs : List Value) :
    textDirective.fill ⟨.str a :: vs, none⟩ = .ok (a.toList, ⟨vs, none⟩) := by
  simp [Directive.fill, textDirective, Arguments.underKey, Arguments.count, Directive.present,
    Arguments.next, Shown.ofValue, Shown.ofText, Shown.laidOut, Value.display, Except.map]

theorem fill_places (parts : List (String × String)) :
    fill ⟨parts.map fun p => .str p.1, none⟩ (placePieces parts) = .ok (fillings parts).toList := by
  induction parts with
  | nil => rfl
  | cons p parts ih =>
    have hcons : placePieces (p :: parts) =
        .directive textDirective :: (p.2.toList.map .character ++ placePieces parts) := rfl
    rw [hcons, List.map_cons, fill, fill_textDirective]
    dsimp only
    rw [fill_characters, ih]
    simp [Except.map, fillings]

/-- A message with a place for each of some texts, filled with them. -/
theorem format_places (message front : String) (parts : List (String × String))
    (hfront : '%' ∉ front.toList) (h : ∀ p ∈ parts, '%' ∉ p.2.toList)
    (hmessage : message.toList = front.toList ++ places parts) :
    format message (parts.map fun p => .str p.1) =
      .ok (front ++ fillings parts) := by
  have hpieces : piecesOf message = front.toList.map .character ++ placePieces parts := by
    rw [piecesOf, hmessage, List.length_append, pieces_characters hfront,
      pieces_places parts h (Nat.le_refl _)]
  have hfill : (fill ⟨parts.map fun p => .str p.1, none⟩ (piecesOf message)).map String.ofList =
      .ok (front ++ fillings parts) := by
    rw [hpieces, fill_characters, fill_places]
    simp [Except.map]
  cases parts with
  | nil =>
    have hfront' : message = front := by
      rw [← String.toList_inj, hmessage]
      simp [places]
    simp [format, hfront', fillings]
  | cons p parts => exact hfill

/-- A report with a place for each of its texts reaches the log as one entry. -/
theorem Report.entries_places (logger template front : String) (parts : List (String × String))
    (hfront : '%' ∉ front.toList) (h : ∀ p ∈ parts, '%' ∉ p.2.toList)
    (htemplate : template.toList = front.toList ++ places parts) :
    Report.entries ⟨logger, template, parts.map Prod.fst⟩ =
      [⟨.debug, logger, front ++ fillings parts⟩] := by
  have hformat := format_places template front parts hfront h htemplate
  rw [entries, List.map_map]
  have htexts : parts.map (Value.str ∘ Prod.fst) = parts.map fun p => (.str p.1 : Value) := rfl
  rw [htexts, hformat]

end Logging

/-! ## Reports of rendering and combining -/

namespace Constraint

/-- What the log says of rendering for one use. -/
def renderText (s : Settings) (c : Constraint) (mode : Mode) : String :=
  match c.artifact? mode with
  | none => "No " ++ mode.text ++ " for " ++ c.redacted s
  | some a => "Rendered " ++ a.kind ++ " " ++ mode.text ++ " for " ++ c.redacted s

theorem entries_renderReport (s : Settings) (c : Constraint) (mode : Mode) :
    (c.renderReport s mode).entries =
      [⟨.debug, "constraintkit.constraints.base", c.renderText s mode⟩] := by
  unfold renderReport renderText
  cases c.artifact? mode with
  | none =>
    have h := Logging.Report.entries_places "constraintkit.constraints.base" "No %s for %s" "No "
      [(mode.text, " for "), (c.redacted s, "")] (by simp) (by simp) (by simp [Logging.places])
    simpa [Logging.fillings, String.append_assoc] using h
  | some a =>
    have h := Logging.Report.entries_places "constraintkit.constraints.base"
      "Rendered %s %s for %s" "Rendered "
      [(a.kind, " "), (mode.text, " for "), (c.redacted s, "")] (by simp) (by simp)
      (by simp [Logging.places])
    simpa [Logging.fillings, String.append_assoc] using h

theorem entries_skipReport (s : Settings) (c : Constraint) :
    (c.skipReport s).entries = [⟨.debug, "constraintkit.querydsl.composite",
      "Skipping constraint without artifacts: " ++ c.redacted s⟩] := by
  have h := Logging.Report.entries_places "constraintkit.querydsl.composite"
    "Skipping constraint without artifacts: %s" "Skipping constraint without artifacts: "
    [(c.redacted s, "")] (by simp) (by simp) (by simp [Logging.places])
  simpa [Logging.fillings, skipReport] using h

end Constraint

/-- What combining says: for every constraint one entry for each use, and a third one if it leaves
no artifact. Nothing is lost on the way, whatever the descriptions are made of. -/
theorem Composite.combineEntries_eq (s : Settings) (cs : List Constraint) :
    combineEntries s cs = cs.flatMap fun c =>
      [⟨.debug, "constraintkit.constraints.base", c.renderText s .query⟩,
        ⟨.debug, "constraintkit.constraints.base", c.renderText s .filter⟩] ++
      if c.query?.isNone && c.filter?.isNone then
        [⟨.debug, "constraintkit.querydsl.composite",
          "Skipping constraint without artifacts: " ++ c.redacted s⟩]
      else [] := by
  refine congrArg (cs.flatMap ·) (funext fun c => ?_)
  rw [Constraint.renderEntries, c.entries_renderReport s, c.entries_renderReport s,
    c.entries_skipReport s]
  rfl

end FieldQuery
