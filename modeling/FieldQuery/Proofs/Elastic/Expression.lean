import FieldQuery.Backend
import FieldQuery.Proofs.Json.RoundTrip
import Mathlib.Data.List.Nodup

/-!
# Queries come back from their expressions

What is modelled. The expression of a node is the JSON text of the query that it compiles to. Nodes
are native values here, and their texts, names of fields among them, may be any sequences of code
points: everything takes the kind of texts as a parameter. Reading is reading without limits
(`Json.denoted?`), with two escaped units that are a pair as one character.

What is proved. A native node that compiles gives a native query: fields are texts, an operator
stands once under its field, so a bound stands once in its range clause, and operands are handed on
as they are. What all numbers and texts of the node have, those of the query have too
(`native_where?`). If no number of the node has too many digits, its expression is a JSON text, read
as the query with its keys in order and its pairs of surrogates joined; if no text of the node has
such pairs either, that is the query, and no other such node has the expression unless its query is
equal (`expression_reads_back`). Neither condition can be left out
(`expression_merges_or_fails`).

Left out are tuples, floating point numbers and all values that are written as texts that they show,
and limits on how deep a node may be.
-/

namespace FieldQuery

open Value (NativeOf Short Unpaired)

variable {texts : Texts} {P : Value texts → Prop}

/-- A result that was mapped was there before. -/
theorem exists_of_map_eq_ok {ε β γ : Type} {f : β → γ} {r : Except ε β} {c : γ}
    (h : r.map f = .ok c) : ∃ b, r = .ok b ∧ f b = c := by
  cases r with
  | error e => cases h
  | ok b => exact ⟨b, rfl, Except.ok.inj h⟩

/-! ## Conditions of native nodes -/

/-- The tests of one field: a text for the field, native operands, every operator once. -/
structure Test.NativeEntry (P : Value texts → Prop) (entry : Value texts × List (Test texts)) :
    Prop where
  field : entry.1.IsString ∧ P entry.1
  operands : ∀ t ∈ entry.2, NativeOf P t.operand
  operators : (entry.2.map Test.operator).Nodup

namespace Condition

/-- The conditions that native nodes say. -/
inductive Native (P : Value texts → Prop) : Condition (Value texts) texts → Prop
  | always : Native P .always
  | all {branches : List (Condition (Value texts) texts)} (h : ∀ c ∈ branches, Native P c) :
      Native P (.all branches)
  | any {branches : List (Condition (Value texts) texts)} (h : ∀ c ∈ branches, Native P c) :
      Native P (.any branches)
  | fields {entries : List (Value texts × List (Test texts))}
      (h : ∀ e ∈ entries, Test.NativeEntry P e) : Native P (.fields entries)

/-- A key that is a text and names an operator is the name of the operator. -/
theorem eq_text_of_operator {key : Value texts} {op : Operator} (hkey : key.IsString)
    (hop : Elastic.dialect.operator? key = some op) : key = .str op.text := by
  rw [Elastic.dialect.agrees, Operator.ofKey?] at hop
  cases key with
  | str s =>
    have hname := List.find?_some (p := fun o : Operator => o.text == s) hop
    rw [eq_of_beq hname]
  | surrogates _ _ => cases hop
  | _ => cases hkey

/-- The tests that are read are the entries. -/
theorem readTests_entries {field : Value texts} {entries : List (Value texts × Value texts)}
    (keys : ∀ e ∈ entries, e.1.IsString) {tests : List (Test texts)}
    (h : readTests Elastic.dialect field entries = .ok tests) :
    tests.map (fun t => ((.str t.operator.text : Value texts), t.operand)) = entries := by
  induction entries generalizing tests with
  | nil =>
    obtain rfl := Except.ok.inj h
    rfl
  | cons e entries ih =>
    obtain ⟨key, operand⟩ := e
    obtain ⟨hkey, hkeys⟩ := List.forall_mem_cons.mp keys
    rw [readTests] at h
    split at h
    · cases h
    · next op hop =>
      split at h
      · cases h
      · next rest hrest =>
        obtain rfl := Except.ok.inj h
        rw [List.map_cons, ih hkeys hrest, ← eq_text_of_operator hkey hop]

theorem nativeEntry_dict {field : Value texts} (hfield : field.IsString ∧ P field)
    {entries : List (Value texts × Value texts)} (keys : ∀ e ∈ entries, e.1.IsString)
    (names : (entries.map Prod.fst).Nodup) (hentries : ∀ e ∈ entries, NativeOf P e.2)
    {tests : List (Test texts)} (h : readTests Elastic.dialect field entries = .ok tests) :
    Test.NativeEntry P (field, tests) := by
  have hread := readTests_entries keys h
  refine ⟨hfield, fun t ht => ?_, ?_⟩
  · have hmem := List.mem_map_of_mem
      (f := fun t : Test texts => ((.str t.operator.text : Value texts), t.operand)) ht
    rw [hread] at hmem
    exact hentries _ hmem
  · have hkeys : entries.map Prod.fst =
        (tests.map Test.operator).map fun op => (.str op.text : Value texts) := by
      rw [← hread, List.map_map, List.map_map]
      rfl
    rw [hkeys] at names
    exact names.of_map _

theorem readField_native {field v : Value texts} (hfield : field.IsString ∧ P field)
    (hv : NativeOf P v) {entry : Value texts × List (Test texts)}
    (h : readField Elastic.dialect field v = .ok entry) : Test.NativeEntry P entry := by
  have hplain : readField Elastic.dialect field v = .ok (field, [⟨.eq, v⟩]) →
      Test.NativeEntry P entry := by
    intro hread
    rw [hread] at h
    obtain rfl := Except.ok.inj h
    exact ⟨hfield, List.forall_mem_singleton.mpr hv, List.nodup_singleton _⟩
  cases hv with
  | @dict entries keys names hentries =>
    obtain ⟨tests, hread, rfl⟩ :=
      exists_of_map_eq_ok (r := readTests Elastic.dialect field entries) h
    exact nativeEntry_dict hfield (fun e he => (keys e he).1) names hentries hread
  | _ => exact hplain rfl

theorem readFields_native {fields : List (Value texts × Value texts)}
    (keys : ∀ f ∈ fields, f.1.IsString ∧ P f.1)
    (hfields : ∀ f ∈ fields, NativeOf P f.2)
    {entries : List (Value texts × List (Test texts))}
    (h : readFields Elastic.dialect fields = .ok entries) :
    ∀ e ∈ entries, Test.NativeEntry P e := by
  induction fields generalizing entries with
  | nil =>
    obtain rfl := Except.ok.inj h
    exact nofun
  | cons f fields ih =>
    obtain ⟨hkey, hkeys⟩ := List.forall_mem_cons.mp keys
    obtain ⟨hf, hrest⟩ := List.forall_mem_cons.mp hfields
    rw [readFields] at h
    split at h
    · cases h
    · next entry hentry =>
      split at h
      · cases h
      · next rest hread =>
        obtain rfl := Except.ok.inj h
        exact List.forall_mem_cons.mpr ⟨readField_native hkey hf hentry, ih hkeys hrest hread⟩

/-! ## Branches -/

/-- A value that is no dict says everything, if it is a node at all. -/
theorem readLeaf_native {v : Value texts} {c : Condition (Value texts) texts}
    (h : readLeaf v = .ok c) : c.Native P := by
  unfold readLeaf at h
  split at h
  · cases h
  · obtain rfl := Except.ok.inj h
    exact .always

theorem readLeaves_native {vs : List (Value texts)} {cs : List (Condition (Value texts) texts)}
    (h : readLeaves vs = .ok cs) : ∀ c ∈ cs, c.Native P := by
  induction vs generalizing cs with
  | nil =>
    obtain rfl := Except.ok.inj h
    exact nofun
  | cons v vs ih =>
    unfold readLeaves at ih h
    rw [List.mapM_cons] at h
    cases hv : (readLeaf v : Except (Failure texts) (Condition (Value texts) texts)) with
    | error e =>
      rw [hv] at h
      cases h
    | ok c =>
      cases hvs : (vs.mapM readLeaf : Except (Failure texts) (List (Condition (Value texts) texts)))
        with
      | error e =>
        rw [hv, hvs] at h
        cases h
      | ok cs' =>
        rw [hv, hvs] at h
        obtain rfl := Except.ok.inj h
        exact List.forall_mem_cons.mpr ⟨readLeaf_native hv, ih hvs⟩

section

variable {d : Dialect (Value texts) texts} {cs : List (Condition (Value texts) texts)}

theorem readAll_native {nodes : List (Value texts)}
    (hnodes : ∀ node ∈ nodes, ∀ c, read d node = .ok c → c.Native P)
    (h : readAll d nodes = .ok cs) : ∀ c ∈ cs, c.Native P := by
  induction nodes generalizing cs with
  | nil =>
    obtain rfl := Except.ok.inj h
    exact nofun
  | cons node nodes ih =>
    obtain ⟨hnode, hrest⟩ := List.forall_mem_cons.mp hnodes
    rw [readAll] at h
    split at h
    · cases h
    · next c hc =>
      split at h
      · cases h
      · next cs' hcs =>
        obtain rfl := Except.ok.inj h
        exact List.forall_mem_cons.mpr ⟨hnode c hc, ih hrest hcs⟩

/-- A key that is a text is no dict. -/
theorem read_key {key : Value texts} (hkey : key.IsString) : read d key = readLeaf key := by
  cases key with
  | str _ | surrogates _ _ => rfl
  | _ => cases hkey

theorem readKeys_native {entries : List (Value texts × Value texts)}
    (keys : ∀ e ∈ entries, e.1.IsString) (h : readKeys d entries = .ok cs) :
    ∀ c ∈ cs, c.Native P := by
  induction entries generalizing cs with
  | nil =>
    obtain rfl := Except.ok.inj h
    exact nofun
  | cons e entries ih =>
    obtain ⟨hkey, hkeys⟩ := List.forall_mem_cons.mp keys
    rw [readKeys, read_key hkey] at h
    split at h
    · cases h
    · next c hc =>
      split at h
      · cases h
      · next cs' hcs =>
        obtain rfl := Except.ok.inj h
        exact List.forall_mem_cons.mpr ⟨readLeaf_native hc, ih hkeys hcs⟩

/-- What stands under a joining key is read as branches. -/
theorem readUnder_native {key : String} {entries : List (Value texts × Value texts)}
    (hentries : ∀ e ∈ entries, ∀ cs, readBranches d e.2 = .ok cs → ∀ c ∈ cs, c.Native P)
    (h : readUnder d key entries = some (.ok cs)) : ∀ c ∈ cs, c.Native P := by
  induction entries with
  | nil => cases h
  | cons e entries ih =>
    obtain ⟨he, hrest⟩ := List.forall_mem_cons.mp hentries
    rw [readUnder] at h
    split at h
    · exact he cs (Option.some.inj h)
    · exact ih hrest h

end

/-- A native node says a native condition, and so does every branch of a native container. -/
theorem read_native {v : Value texts} (hv : NativeOf P v) :
    (∀ c, read Elastic.dialect v = .ok c → c.Native P) ∧
      ∀ cs, readBranches Elastic.dialect v = .ok cs → ∀ c ∈ cs, c.Native P := by
  induction hv with
  | null | bool _ | int _ => exact ⟨fun c h => readLeaf_native h, nofun⟩
  | str _ | surrogates _ =>
    exact ⟨fun c h => readLeaf_native h, fun cs h => readLeaves_native h⟩
  | list _ ih =>
    exact ⟨fun c h => readLeaf_native h, fun cs h => readAll_native (fun x hx => (ih x hx).1) h⟩
  | @dict entries keys _ hentries ih =>
    refine ⟨fun c h => ?_, fun cs h => readKeys_native (fun e he => (keys e he).1) h⟩
    rw [read] at h
    split at h
    · obtain rfl := Except.ok.inj h
      exact .always
    · split at h
      · next r hunder =>
        obtain ⟨cs, rfl, rfl⟩ := exists_of_map_eq_ok h
        exact .all (readUnder_native (fun e he => (ih e he).2) hunder)
      · split at h
        · next r hunder =>
          obtain ⟨cs, rfl, rfl⟩ := exists_of_map_eq_ok h
          exact .any (readUnder_native (fun e he => (ih e he).2) hunder)
        · obtain ⟨entries, hread, rfl⟩ := exists_of_map_eq_ok h
          exact .fields (readFields_native keys hentries hread)

end Condition

/-! ## Queries of native conditions -/

theorem Bound.text_inj {b b' : Bound} (h : b.text = b'.text) : b = b' := by
  cases b <;> cases b' <;> first | rfl | exact absurd h (by decide)

namespace Elastic

theorem toValues_eq_map (qs : List (Query texts)) : Query.toValues qs = qs.map Query.toValue := by
  induction qs with
  | nil => rfl
  | cons q qs ih => rw [Query.toValues, ih, List.map_cons]

/-- A property of numbers and texts that those of the query language have. -/
structure Query.Admits (P : Value texts → Prop) : Prop where
  word : ∀ s, P (.str s)
  one : P (.int 1)

theorem admits_short : Query.Admits (Short : Value texts → Prop) where
  word _ := trivial
  one := by
    have hpow (n : Nat) (hn : n ≠ 0) : 1 < Nat.pow 10 n := Nat.one_lt_pow hn (by decide)
    exact hpow Text.maxDigits (by decide)

theorem admits_unpaired : Query.Admits (Unpaired : Value texts → Prop) :=
  ⟨fun _ => trivial, trivial⟩

theorem native_object (hP : Query.Admits P) {fields : List (String × Value texts)}
    (names : (fields.map Prod.fst).Nodup) (h : ∀ f ∈ fields, NativeOf P f.2) :
    NativeOf P (.object fields) :=
  .object hP.word names h

theorem native_single (hP : Query.Admits P) {name : String} {v : Value texts}
    (h : NativeOf P v) : NativeOf P (.object [(name, v)]) :=
  native_object hP (List.nodup_singleton _) (List.forall_mem_singleton.mpr h)

theorem native_about (hP : Query.Admits P) {name : String} {field body : Value texts}
    (hfield : field.IsString ∧ P field) (h : NativeOf P body) :
    NativeOf P (Query.about name field body) :=
  native_single hP (.dict (List.forall_mem_singleton.mpr hfield) (List.nodup_singleton _)
    (List.forall_mem_singleton.mpr h))

theorem native_field {field : Value texts} (h : field.IsString ∧ P field) : NativeOf P field := by
  cases field with
  | str s => exact .str h.2
  | surrogates allowed t => exact .surrogates h.2
  | _ => cases h.1

theorem native_toValues {qs : List (Query texts)} (h : ∀ q ∈ qs, NativeOf P q.toValue) :
    NativeOf P (.list (Query.toValues qs)) := by
  rw [toValues_eq_map]
  refine .list fun v hv => ?_
  obtain ⟨q, hq, rfl⟩ := List.mem_map.mp hv
  exact h q hq

theorem native_must (hP : Query.Admits P) {qs : List (Query texts)}
    (h : ∀ q ∈ qs, NativeOf P q.toValue) : NativeOf P (Query.must qs).toValue :=
  native_single hP (native_single hP (native_toValues h))

theorem native_joined (hP : Query.Admits P) {qs : List (Query texts)}
    (h : ∀ q ∈ qs, NativeOf P q.toValue) : NativeOf P (joined qs).toValue := by
  rcases qs with _ | ⟨q, _ | ⟨q', qs⟩⟩
  · exact native_must hP h
  · exact h q (List.mem_singleton_self q)
  · exact native_must hP h

theorem native_clauseOf (hP : Query.Admits P) {field : Value texts}
    (hfield : field.IsString ∧ P field) {t : Test texts} {q : Query texts}
    (ht : NativeOf P t.operand) (h : clauseOf field t = some q) : NativeOf P q.toValue := by
  have hexist : NativeOf P (Query.exist field).toValue :=
    native_single hP (native_single hP (native_field hfield))
  unfold clauseOf at h
  split at h
  · obtain rfl := Option.some.inj h
    exact native_about hP hfield ht
  · obtain rfl := Option.some.inj h
    split
    · exact hexist
    · have hclauses := native_toValues (List.forall_mem_singleton.mpr hexist)
      exact native_single hP (native_single hP hclauses)
  · cases h

theorem boundOf_inv {t : Test texts} {b : Bound × Value texts} (h : boundOf t = some b) :
    t.operator = .bound b.1 ∧ t.operand = b.2 := by
  unfold boundOf at h
  split at h
  · next hop =>
    obtain rfl := Option.some.inj h
    exact ⟨hop, rfl⟩
  · cases h

/-- Bounds of different operators have different words. -/
theorem native_range (hP : Query.Admits P) {field : Value texts} (hfield : field.IsString ∧ P field)
    {tests : List (Test texts)} (operands : ∀ t ∈ tests, NativeOf P t.operand)
    (operators : (tests.map Test.operator).Nodup) :
    NativeOf P (Query.range field (tests.filterMap boundOf)).toValue := by
  refine native_about hP hfield (native_object hP ?_ fun f hf => ?_)
  · rw [List.map_map]
    have hdifferent := List.pairwise_map.mp operators
    refine List.pairwise_map.mpr (List.Pairwise.filterMap boundOf ?_ hdifferent)
    intro t t' hne b hb b' hb' heq
    rw [(boundOf_inv hb).1, (boundOf_inv hb').1] at hne
    have hword : b.1.text = b'.1.text := heq
    exact hne (congrArg Operator.bound (Bound.text_inj hword))
  · obtain ⟨b, hb, rfl⟩ := List.mem_map.mp hf
    obtain ⟨t, ht, hbound⟩ := List.mem_filterMap.mp hb
    exact (boundOf_inv hbound).2 ▸ operands t ht

theorem native_fieldClauses (hP : Query.Admits P) {entry : Value texts × List (Test texts)}
    (h : Test.NativeEntry P entry) :
    ∀ q ∈ fieldClauses entry.1 entry.2, NativeOf P q.toValue := by
  intro q hq
  rcases List.mem_append.mp hq with hq | hq
  · obtain ⟨t, ht, hclause⟩ := List.mem_filterMap.mp hq
    exact native_clauseOf hP h.field (h.operands t ht) hclause
  · split at hq
    · exact absurd hq List.not_mem_nil
    · obtain rfl := List.mem_singleton.mp hq
      exact native_range hP h.field h.operands h.operators

theorem native_ofCondition (hP : Query.Admits P) {c : Condition (Value texts) texts}
    (h : c.Native P) : NativeOf P (ofCondition c).toValue := by
  have heach {cs : List (Condition (Value texts) texts)}
      (h : ∀ c ∈ cs, NativeOf P (ofCondition c).toValue) :
      ∀ q ∈ ofConditions cs, NativeOf P q.toValue := by
    induction cs with
    | nil => exact nofun
    | cons c cs ih =>
      obtain ⟨hc, hcs⟩ := List.forall_mem_cons.mp h
      exact List.forall_mem_cons.mpr ⟨hc, ih hcs⟩
  induction h with
  | always =>
    have hempty : NativeOf P (.object []) := native_object hP List.nodup_nil nofun
    exact native_single hP hempty
  | all _ ih => exact native_must hP (heach ih)
  | any _ ih =>
    have names : ["should", "minimum_should_match"].Nodup := by decide
    exact native_single hP (native_object hP names (List.forall_mem_cons.mpr
      ⟨native_toValues (heach ih), List.forall_mem_singleton.mpr (.int hP.one)⟩))
  | fields h =>
    refine native_joined hP fun q hq => ?_
    obtain ⟨entry, hentry, hq⟩ := List.mem_flatMap.mp hq
    exact native_fieldClauses hP (h entry hentry) q hq

/-- A native node that compiles gives a native query, with its JSON text for the expression. -/
theorem native_where? (hP : Query.Admits P) {node query : Value texts} (hnode : NativeOf P node)
    (h : where? node = .ok query) :
    NativeOf P query ∧ expression node = Json.write query := by
  have hcompile : (compile node).map Query.toValue = .ok query := by
    cases hnode with
    | dict _ _ _ => exact h
    | _ => cases h
  obtain ⟨q, hq, rfl⟩ := exists_of_map_eq_ok hcompile
  obtain ⟨c, hc, rfl⟩ := exists_of_map_eq_ok hq
  refine ⟨native_ofCondition hP ((Condition.read_native hnode).1 c hc), ?_⟩
  rw [expression, hq]

/-! ## Expressions -/

/-- Compiling a plain value for this backend is compiling the value. -/
theorem where?_value (v : Value) : Backend.elastic.where? (.value v) = where? v := by
  rw [Backend.where?, Item.node, where?]
  cases v.node <;> rfl

/-- The expression of a native node with short numbers that compiles is a text that is read as the
compiled query with its keys in order and its pairs of surrogates joined. If there are no such pairs
in the node, this is the query, and two such nodes have one expression only if their queries are
equal. -/
theorem expression_reads_back {node query : Value texts} (hnode : NativeOf Short node)
    (h : where? node = .ok query) :
    ∃ text, expression node = .ok text ∧
      Json.denoted? text = some query.arranged.joinPairs ∧
      (NativeOf Unpaired node →
        query.arranged.joinPairs.same query = true ∧
        ∀ node' query' : Value texts, NativeOf Short node' → NativeOf Unpaired node' →
          where? node' = .ok query' → expression node' = .ok text →
          query'.same query = true) := by
  obtain ⟨hshort, hexpression⟩ := native_where? admits_short hnode h
  obtain ⟨text, hwrite, hread⟩ := Json.denoted?_write hshort
  refine ⟨text, hexpression.trans hwrite, hread, fun hunpaired => ?_⟩
  have hquery := (native_where? admits_unpaired hunpaired h).1
  rw [hquery.arranged.joinPairs] at hread ⊢
  refine ⟨hquery.arranged_same, ?_⟩
  intro node' query' hnode' hunpaired' h' htext
  obtain ⟨hshort', hexpression'⟩ := native_where? admits_short hnode' h'
  have hquery' := (native_where? admits_unpaired hunpaired' h').1
  obtain ⟨text', hwrite', hread'⟩ := Json.denoted?_write hshort'
  rw [hquery'.arranged.joinPairs] at hread'
  obtain rfl : text' = text := Except.ok.inj (hwrite'.symm.trans (hexpression'.symm.trans htext))
  exact hquery'.same_of_arranged_eq hquery (Option.some.inj (hread'.symm.trans hread))

/-- The statement at a disjunction whose second branch has two bounds, out of order, under a field
with a low surrogate in front, a character of one unit, a character of two, and a high surrogate at
the end. -/
theorem expression_reads_back_escaped :
    let field : Value .codePoints :=
      .surrogates rfl ⟨[.surrogate 0x600, .scalar 'é', .scalar '😀', .surrogate 0x3D], rfl⟩
    let node : Value .codePoints := .object [("$or", .list [.object [],
      .dict [(field, .object [("$lt", .int (-12)), ("$gte", .bool true)])]])]
    let query : Value .codePoints := .object [("bool", .object [
      ("should", .list [.object [("match_all", .object [])],
        .object [("range", .dict [(field, .object [("lt", .int (-12)), ("gte", .bool true)])])]]),
      ("minimum_should_match", .int 1)])]
    let text := "\x7b\"bool\": \x7b\"minimum_should_match\": 1, \"should\": [" ++
      "\x7b\"match_all\": \x7b\x7d\x7d, \x7b\"range\": " ++
      "\x7b\"\\ude00\\u00e9\\ud83d\\ude00\\ud83d\": " ++
      "\x7b\"gte\": true, \"lt\": -12\x7d\x7d\x7d]\x7d\x7d"
    NativeOf Short node ∧ NativeOf Unpaired node ∧ where? node = .ok query ∧
      expression node = .ok text ∧ Json.denoted? text = some query.arranged.joinPairs ∧
      query.arranged.joinPairs.same query = true := by
  intro field node query text
  have hnode {P : Value .codePoints → Prop} (hP : Query.Admits P) (hfield : P field)
      (hlt : P (.int (-12))) : NativeOf P node := by
    have hbounds : NativeOf P (.object [("$lt", .int (-12)), ("$gte", .bool true)]) :=
      native_object hP (by decide) (List.forall_mem_cons.mpr
        ⟨.int hlt, List.forall_mem_singleton.mpr (.bool true)⟩)
    have hempty : NativeOf P (.object []) := native_object hP List.nodup_nil nofun
    have hbranch : NativeOf P
        (.dict [(field, .object [("$lt", .int (-12)), ("$gte", .bool true)])]) :=
      .dict (List.forall_mem_singleton.mpr ⟨trivial, hfield⟩) (List.nodup_singleton _)
        (List.forall_mem_singleton.mpr hbounds)
    exact native_single hP (.list (List.forall_mem_cons.mpr
      ⟨hempty, List.forall_mem_singleton.mpr hbranch⟩))
  have hdigits : 12 < Nat.pow 10 Text.maxDigits := by decide +kernel
  have hpairs : Text.Unpaired
      [.surrogate 0x600, .scalar 'é', .scalar '😀', .surrogate 0x3D] := by decide
  have hshort : NativeOf Short node := hnode admits_short trivial hdigits
  have hunpaired : NativeOf Unpaired node := hnode admits_unpaired hpairs trivial
  have hquery : where? node = .ok query := rfl
  obtain ⟨written, hwritten, hread, hequal⟩ := expression_reads_back hshort hquery
  have htext : (expression node).toOption = some text := by decide +kernel
  rw [hwritten] at htext
  obtain rfl : written = text := Option.some.inj htext
  exact ⟨hshort, hunpaired, hquery, hwritten, hread, (hequal hunpaired).1⟩

/-- A single member without a text leaves its object without one. -/
theorem chars_single_error {key v : Value texts} {e : Failure texts} (hkey : key.IsString)
    (h : Json.chars v = .error e) : Json.chars (.dict [(key, v)]) = .error e := by
  have horder : Json.keyOrder ([(key, v)].map Prod.fst) = .ok .texts :=
    Json.keyOrder_native (List.forall_mem_singleton.mpr hkey)
  rw [Json.chars, horder, Json.members, Json.keyPoints_of_isString hkey, h]
  rfl

/-- A node with a number of too many digits is accepted and has no expression. -/
theorem expression_long {n : Int} (h : Nat.pow 10 Text.maxDigits ≤ n.natAbs) :
    expression (.object [("f", .int n)] : Value texts) = .error .refused := by
  have hcompile : compile (.object [("f", .int n)] : Value texts) =
      .ok (.term (.str "f") (.int n)) := rfl
  have hwhole : Json.chars (.int n : Value texts) = .error .refused := by
    rw [Json.chars, Json.wholeChars, if_pos h]
  have hchars : Json.chars (Query.term (.str "f") (.int n) : Query texts).toValue =
      .error .refused :=
    chars_single_error trivial (chars_single_error trivial hwhole)
  rw [expression, hcompile]
  dsimp only
  rw [Json.write, hchars]
  rfl

/-- A pair of surrogates and the character that it makes, as operands, are two values with one
expression, which is read as the second; and a number of too many digits is accepted in a node that
has no expression. -/
theorem expression_merges_or_fails :
    let pair : Value .codePoints :=
      .surrogates rfl ⟨[.surrogate 0x3D, .surrogate 0x600], rfl⟩
    let node (v : Value .codePoints) : Value .codePoints := .object [("f", v)]
    let query (v : Value .codePoints) : Value .codePoints :=
      .object [("term", .object [("f", v)])]
    let text := "\x7b\"term\": \x7b\"f\": \"\\ud83d\\ude00\"\x7d\x7d"
    let long : Value .codePoints := .int (Nat.pow 10 Text.maxDigits : Nat)
    ((node pair).Native ∧ where? (node pair) = .ok (query pair) ∧
      expression (node pair) = .ok text) ∧
    ((node (.str "😀")).Native ∧ where? (node (.str "😀")) = .ok (query (.str "😀")) ∧
      expression (node (.str "😀")) = .ok text) ∧
    (query pair).same (query (.str "😀")) = false ∧
    (Json.denoted? text).map (fun v => v.same (query pair)) = some false ∧
    (Json.denoted? text).map (fun v => v.same (query (.str "😀"))) = some true ∧
    (node long).Native ∧ where? (node long) = .ok (query long) ∧
      expression (node long) = .error .refused := by
  intro pair node query text long
  have hnode {v : Value .codePoints} (hv : v.Native) : (node v).Native :=
    .object (List.nodup_singleton _) (List.forall_mem_singleton.mpr hv)
  have hwritten {v : Value .codePoints} (h : (expression (node v)).toOption = some text) :
      expression (node v) = .ok text := by
    cases hv : expression (node v) with
    | error e =>
      rw [hv] at h
      cases h
    | ok t =>
      rw [hv] at h
      exact congrArg Except.ok (Option.some.inj h)
  refine ⟨⟨hnode (.surrogates trivial), rfl, hwritten (by decide +kernel)⟩,
    ⟨hnode (.str _), rfl, hwritten (by decide +kernel)⟩, by decide +kernel, by decide +kernel,
    by decide +kernel, hnode (.int _), rfl, expression_long ?_⟩
  exact Nat.le_of_eq (Int.natAbs_natCast _).symm

end Elastic

end FieldQuery
