import FieldQuery.Proofs.Elastic.Meaning
import FieldQuery.Proofs.Node.Acceptance
import FieldQuery.Proofs.Node.Grouping
import FieldQuery.Proofs.Sql.Grammar

/-!
# Merging in groups

What is modelled. Groupings of nodes of any depth, with empty groups and empty nodes anywhere,
merged from the inside out.

What is proved. However a list of nodes is grouped before it is merged, nothing of that is left
after compiling (`Grouping.merged_as_one`).
* `Sql.chars_of_conjoins`: the clause of a nested conjunction joins the clauses of its conditions,
  because texts can be joined in groups (`Text.joined_flatten`).
* `Elastic.where?_merged`: the query of one is true when all of them are.
* `Grouping.fails_as_first`: where nodes cannot be compiled, every grouping fails as the first of
  these does.

Elasticsearch queries of different groupings are different data; they are compared by truth alone.
-/

namespace FieldQuery

namespace Text

theorem joined_append (separator : List Char) {ts us : List (List Char)} (hts : ts ≠ [])
    (hus : us ≠ []) :
    joined separator (ts ++ us) = joined separator ts ++ separator ++ joined separator us := by
  obtain ⟨t, ts, rfl⟩ := List.exists_cons_of_ne_nil hts
  obtain ⟨u, us, rfl⟩ := List.exists_cons_of_ne_nil hus
  rw [List.cons_append, joined_cons, joined_cons, joined_cons, List.flatMap_append,
    List.flatMap_cons]
  simp only [List.append_assoc]

/-- Joining groups of texts, and then what comes of them, is joining all the texts. -/
theorem joined_flatten (separator : List Char) (groups : List (List (List Char)))
    (h : ∀ ts ∈ groups, ts ≠ []) :
    joined separator (groups.map (joined separator)) = joined separator groups.flatten := by
  induction groups with
  | nil => rfl
  | cons ts groups ih =>
    obtain ⟨hts, hrest⟩ := List.forall_mem_cons.mp h
    cases groups with
    | nil => rw [List.map_singleton, List.flatten_singleton, joined]
    | cons us groups =>
      have hne : (us :: groups).flatten ≠ [] :=
        List.flatten_ne_nil_iff.mpr ⟨us, List.mem_cons_self, hrest us List.mem_cons_self⟩
      rw [List.flatten_cons, joined_append separator hts hne, ← ih hrest]
      rfl

end Text

/-! ## Clauses -/

namespace Sql

open Condition (isAlways meet Conjoins)

/-- The clause of a conjunction, from the clauses that it joins. -/
def conjunctionChars (ts : List (List Char)) : List Char :=
  if ts = [] then "TRUE".toList else Text.joined " AND ".toList ts

/-- The clauses of those conditions that come of nodes that are not empty. -/
def conjuncts (cs : List (Condition String)) : List (List Char) :=
  (cs.filter (!·.isAlways)).map chars

theorem conjuncts_eq_nil_iff (cs : List (Condition String)) :
    conjuncts cs = [] ↔ cs.all isAlways = true := by
  simp [conjuncts]

theorem conjuncts_append (cs ds : List (Condition String)) :
    conjuncts (cs ++ ds) = conjuncts cs ++ conjuncts ds := by
  rw [conjuncts, List.filter_append, List.map_append, conjuncts, conjuncts]

theorem charsAll_eq_map (cs : List (Condition String)) : charsAll cs = cs.map chars := by
  induction cs with
  | nil => rfl
  | cons c cs ih => rw [charsAll, ih, List.map_cons]

theorem chars_meet (cs : List (Condition String)) :
    chars (meet cs) = conjunctionChars (conjuncts cs) := by
  rw [meet, conjuncts]
  generalize cs.filter (!·.isAlways) = kept
  rcases kept with _ | ⟨c, _ | ⟨c', kept⟩⟩
  · rfl
  · rfl
  · change chars (.all (c :: c' :: kept)) = _
    rw [chars, charsAll_eq_map]
    rfl

/-- Groups that are not empty may be joined first. -/
theorem conjunctionChars_flatten (groups : List (List (List Char))) (h : ∀ ts ∈ groups, ts ≠ []) :
    conjunctionChars (groups.map (Text.joined " AND ".toList)) =
      conjunctionChars groups.flatten := by
  cases groups with
  | nil => rfl
  | cons ts groups =>
    have hmap : (ts :: groups).map (Text.joined " AND ".toList) ≠ [] := List.cons_ne_nil _ _
    have hflatten : (ts :: groups).flatten ≠ [] :=
      List.flatten_ne_nil_iff.mpr ⟨ts, List.mem_cons_self, h ts List.mem_cons_self⟩
    rw [conjunctionChars, conjunctionChars, if_neg hmap, if_neg hflatten]
    exact Text.joined_flatten _ _ h

/-- The groups that say something are the conjuncts of a meet of groups. -/
theorem conjuncts_parts {parts : List (List (Condition String) × Condition String)}
    (halways : ∀ p ∈ parts, p.2.isAlways = p.1.all isAlways)
    (hchars : ∀ p ∈ parts, chars p.2 = conjunctionChars (conjuncts p.1)) :
    ∃ groups : List (List (List Char)), (∀ ts ∈ groups, ts ≠ []) ∧
      conjuncts (parts.map Prod.snd) = groups.map (Text.joined " AND ".toList) ∧
      conjuncts (parts.flatMap Prod.fst) = groups.flatten := by
  induction parts with
  | nil => exact ⟨[], nofun, rfl, rfl⟩
  | cons p parts ih =>
    obtain ⟨hp, hrest⟩ := List.forall_mem_cons.mp halways
    obtain ⟨hpchars, hrestchars⟩ := List.forall_mem_cons.mp hchars
    obtain ⟨groups, hne, hmap, hflatten⟩ := ih hrest hrestchars
    rw [List.map_cons, List.flatMap_cons, conjuncts_append, hflatten]
    by_cases hempty : conjuncts p.1 = []
    · -- a group of empty nodes is dropped like an empty node
      have hdropped : p.2.isAlways = true := hp.trans ((conjuncts_eq_nil_iff p.1).mp hempty)
      refine ⟨groups, hne, ?_, by rw [hempty, List.nil_append]⟩
      rw [conjuncts, List.filter_cons_of_neg (by simp [hdropped])]
      exact hmap
    · have hkept : ¬ p.2.isAlways = true := by
        rw [hp, ← conjuncts_eq_nil_iff]
        exact hempty
      refine ⟨conjuncts p.1 :: groups, List.forall_mem_cons.mpr ⟨hempty, hne⟩, ?_, rfl⟩
      rw [conjuncts, List.filter_cons_of_pos (by simp [hkept]), List.map_cons, hpchars,
        conjunctionChars, if_neg hempty, List.map_cons]
      exact congrArg _ hmap

/-- The clause of a nested conjunction joins the clauses of its conditions. -/
theorem chars_of_conjoins {cs : List (Condition String)} {c : Condition String}
    (h : Conjoins cs c) : chars c = conjunctionChars (conjuncts cs) := by
  induction h with
  | one c => cases c <;> rfl
  | @meet parts h ih =>
    obtain ⟨groups, hne, hmap, hflatten⟩ :=
      conjuncts_parts (fun p hp => (h p hp).eq_all Condition.isAlways_meet) ih
    rw [chars_meet, hmap, hflatten, conjunctionChars_flatten groups hne]

/-- All groupings of some nodes have the same clause. -/
theorem where?_merged {g : Grouping} {cs : List (Condition String)}
    (h : Condition.readAll dialect g.nodes = .ok cs) :
    Backend.sql.where? (.value g.merged) =
        .ok (.str (String.ofList (conjunctionChars (conjuncts cs)))) ∧
      Backend.sql.where? (.value (Node.merge g.nodes)) =
        .ok (.str (String.ofList (conjunctionChars (conjuncts cs)))) := by
  constructor
  · obtain ⟨entries, hdict⟩ := g.merged_dict
    obtain ⟨c, hread, hc⟩ := Condition.read_merged_ok h
    rw [hdict] at hread ⊢
    rw [where?_dict, hread, ← chars_of_conjoins hc]
    rfl
  · obtain ⟨entries, hdict⟩ := Node.merge_dict g.nodes_dicts
    have hread := Condition.read_merge_dicts (d := dialect) g.nodes_dicts
    rw [hdict, h] at hread
    rw [hdict, where?_dict, hread, ← chars_meet]
    rfl

end Sql

/-! ## Queries -/

namespace Elastic

/-- Whether a node is compiled to a query that is true. -/
def Matches (σ : Assignment String Value) (node : Value) : Prop :=
  ∃ query, Backend.elastic.where? (.value node) = .ok query ∧ evaluate σ query = some true

theorem evaluate_ofCondition (σ : Assignment String Value) (c : Condition Value) :
    evaluate σ (ofCondition c).toValue = some (c.holds (σ.comap Value.fieldName id)) := by
  rw [evaluate_toValue, holds_ofCondition]

theorem matches_iff (σ : Assignment String Value) {entries : List (Value × Value)}
    {c : Condition Value} (h : Condition.read dialect (.dict entries) = .ok c) :
    Matches σ (.dict entries) ↔ c.holds (σ.comap Value.fieldName id) = true := by
  rw [Matches, where?_dict, h]
  constructor
  · rintro ⟨query, hquery, htrue⟩
    obtain rfl := Except.ok.inj hquery
    rw [evaluate_ofCondition] at htrue
    exact Option.some.inj htrue
  · intro htrue
    exact ⟨_, rfl, by rw [evaluate_ofCondition, htrue]⟩

theorem all_holds_iff (σ : Assignment String Value) {nodes : List Value}
    {cs : List (Condition Value)} (hdicts : ∀ node ∈ nodes, ∃ entries, node = .dict entries)
    (h : Condition.readAll dialect nodes = .ok cs) :
    cs.all (Condition.holds (σ.comap Value.fieldName id)) = true ↔
      ∀ node ∈ nodes, Matches σ node := by
  induction nodes generalizing cs with
  | nil =>
    obtain rfl := Except.ok.inj h
    simp
  | cons node nodes ih =>
    obtain ⟨⟨entries, rfl⟩, hrest⟩ := List.forall_mem_cons.mp hdicts
    rw [Condition.readAll_cons] at h
    cases hread : Condition.read dialect (.dict entries) with
    | error e =>
      rw [hread] at h
      cases h
    | ok c =>
      rw [hread] at h
      obtain ⟨cs, hreads, rfl⟩ := exists_of_map_eq_ok h
      rw [List.all_cons, Bool.and_eq_true, List.forall_mem_cons, matches_iff σ hread,
        ih hrest hreads]

/-- A dict that is read as the conjunction of what some nodes are read as. -/
theorem where?_of_all {v : Value} {nodes : List Value} {c : Condition Value}
    {cs : List (Condition Value)} (hv : ∃ entries, v = .dict entries)
    (hdicts : ∀ node ∈ nodes, ∃ entries, node = .dict entries)
    (hread : Condition.read dialect v = .ok c) (hreads : Condition.readAll dialect nodes = .ok cs)
    (hmean : ∀ σ, c.holds σ = cs.all (Condition.holds σ)) :
    ∃ query, Backend.elastic.where? (.value v) = .ok query ∧
      ∀ σ, evaluate σ query = some true ↔ ∀ node ∈ nodes, Matches σ node := by
  obtain ⟨entries, rfl⟩ := hv
  refine ⟨(ofCondition c).toValue, by rw [where?_dict, hread]; rfl, fun σ => ?_⟩
  rw [evaluate_ofCondition, Option.some_inj, hmean, all_holds_iff σ hdicts hreads]

/-- The queries of all groupings of some nodes are true when those of all the nodes are. -/
theorem where?_merged {g : Grouping} {cs : List (Condition Value)}
    (h : Condition.readAll dialect g.nodes = .ok cs) :
    ∃ query query', Backend.elastic.where? (.value g.merged) = .ok query ∧
      Backend.elastic.where? (.value (Node.merge g.nodes)) = .ok query' ∧
      ∀ σ, (evaluate σ query = some true ↔ ∀ node ∈ g.nodes, Matches σ node) ∧
        (evaluate σ query' = some true ↔ ∀ node ∈ g.nodes, Matches σ node) := by
  obtain ⟨c, hread, hc⟩ := Condition.read_merged_ok h
  have hmerge : Condition.read dialect (Node.merge g.nodes) = .ok (Condition.meet cs) := by
    rw [Condition.read_merge_dicts g.nodes_dicts, h]
    rfl
  obtain ⟨query, hquery, htrue⟩ := where?_of_all g.merged_dict g.nodes_dicts hread h
    fun σ => hc.eq_all (Condition.holds_meet σ)
  obtain ⟨query', hquery', htrue'⟩ := where?_of_all (Node.merge_dict g.nodes_dicts) g.nodes_dicts
    hmerge h fun σ => Condition.holds_meet σ cs
  exact ⟨query, query', hquery, hquery', fun σ => ⟨htrue σ, htrue' σ⟩⟩

end Elastic

/-! ## Every grouping -/

namespace Grouping

theorem readAll_of_accepts {α : Type} {d : Dialect α} {out : Condition α → Value} {b : Backend}
    (h : ∀ entries, b.where? (.value (.dict entries)) =
      (Condition.read d (.dict entries)).map out) {g : Grouping}
    (hg : ∀ node ∈ g.nodes, b.Accepts node) : ∃ cs, Condition.readAll d g.nodes = .ok cs := by
  refine Condition.readAll_of_forall fun node hn => ?_
  obtain ⟨entries, rfl⟩ := g.nodes_dicts node hn
  exact (Backend.accepts_iff h entries).mp (hg _ hn)

/-- Once a backend cannot compile one of the nodes, it fails on every grouping of them as it fails
on the first such node. -/
theorem fails_as_first (g : Grouping) {b : Backend} (h : ∃ node ∈ g.nodes, ¬ b.Accepts node) :
    ∃ before node after e, g.nodes = before ++ node :: after ∧
      (∀ n ∈ before, b.Accepts n) ∧ b.where? (.value node) = .error e ∧
      b.where? (.value g.merged) = .error e ∧
      b.where? (.value (Node.merge g.nodes)) = .error e := by
  obtain ⟨rejected, hmem, hrejected⟩ := h
  have hb : b ≠ .generic := by
    rintro rfl
    obtain ⟨entries, rfl⟩ := g.nodes_dicts rejected hmem
    exact hrejected ⟨_, rfl⟩
  obtain ⟨α, d, out, hwhere⟩ := Backend.where?_dict hb
  have haccepts : ∀ node ∈ g.nodes, (∃ c, Condition.read d node = .ok c) → b.Accepts node := by
    intro node hn hread
    obtain ⟨entries, rfl⟩ := g.nodes_dicts node hn
    exact (Backend.accepts_iff hwhere entries).mpr hread
  have hfails {v : Value} {e : Failure} (hv : ∃ entries, v = .dict entries)
      (hread : Condition.read d v = .error e) : b.where? (.value v) = .error e := by
    obtain ⟨entries, rfl⟩ := hv
    rw [hwhere, hread]
    rfl
  rcases Condition.readAll_cases d g.nodes with
    ⟨cs, -, hall⟩ | ⟨before, node, after, e, hnodes, hreads, hbefore, hnode⟩
  · exact absurd (haccepts _ hmem (hall _ hmem)) hrejected
  · have hmerge : Condition.read d (Node.merge g.nodes) = .error e := by
      rw [Condition.read_merge_dicts g.nodes_dicts, hreads]
      rfl
    have hfirst : node ∈ g.nodes := by
      rw [hnodes]
      exact List.mem_append_right _ List.mem_cons_self
    refine ⟨before, node, after, e, hnodes, fun n hn => ?_, hfails (g.nodes_dicts _ hfirst) hnode,
      hfails g.merged_dict (Condition.read_merged_error hreads),
      hfails (Node.merge_dict g.nodes_dicts) hmerge⟩
    exact haccepts n (by rw [hnodes]; exact List.mem_append_left _ hn) (hbefore n hn)

/-- Merging in groups, to any depth and with empty groups and nodes anywhere, is merging at once.
When SQL compiles all the nodes, both have the same clause, and Elasticsearch compiles both to
queries that are true when the queries of all the nodes are. When a backend cannot compile one of
the nodes, it fails on both as it fails on the first such node. -/
theorem merged_as_one (g : Grouping) :
    ((∀ node ∈ g.nodes, Backend.sql.Accepts node) →
      (∃ clause, Backend.sql.where? (.value g.merged) = .ok (.str clause) ∧
        Backend.sql.where? (.value (Node.merge g.nodes)) = .ok (.str clause)) ∧
      ∃ query query', Backend.elastic.where? (.value g.merged) = .ok query ∧
        Backend.elastic.where? (.value (Node.merge g.nodes)) = .ok query' ∧
        ∀ σ, (Elastic.evaluate σ query = some true ↔ ∀ node ∈ g.nodes, Elastic.Matches σ node) ∧
          (Elastic.evaluate σ query' = some true ↔ ∀ node ∈ g.nodes, Elastic.Matches σ node)) ∧
    ∀ b : Backend, (∃ node ∈ g.nodes, ¬ b.Accepts node) →
      ∃ before node after e, g.nodes = before ++ node :: after ∧
        (∀ n ∈ before, b.Accepts n) ∧ b.where? (.value node) = .error e ∧
        b.where? (.value g.merged) = .error e ∧
        b.where? (.value (Node.merge g.nodes)) = .error e := by
  refine ⟨fun hsql => ⟨?_, ?_⟩, fun b h => g.fails_as_first h⟩
  · obtain ⟨cs, hcs⟩ := readAll_of_accepts Sql.where?_dict hsql
    exact ⟨_, Sql.where?_merged hcs⟩
  · obtain ⟨cs, hcs⟩ := readAll_of_accepts Elastic.where?_dict fun node hn => (hsql node hn).elastic
    exact Elastic.where?_merged hcs

/-- The statement at groups that hold empty nodes and a single node, beside an empty group and a
disjunction; and at groups where two nodes have operators that no backend supports. -/
theorem merged_as_one_nested :
    let g : Grouping := .group [
      .group [.node [], .node [(.str "a", .int 1)], .group [.node [(.str "b", .null)], .node []]],
      .group [],
      .node [(.str "$or", .list [.object [("c", .str "x")], .object [("d", .list [])]])]]
    let bad : Grouping := .group [.group [.node [(.str "a", .int 1)], .node []],
      .group [.group [.node [(.str "b", .object [("$in", .list [])])]],
        .node [(.str "c", .object [("$regex", .str "x")])]]]
    let inner : Value := .object [("$and", .list [.object [("a", .int 1)], .object [("b", .null)]])]
    let failure : Failure :=
      .unsupportedOperator (.str "b") (.str "$in") ["$eq", "$gt", "$gte", "$lt", "$lte"]
    (∀ node ∈ g.nodes, Backend.sql.Accepts node) ∧
    g.merged = .object [("$and", .list [inner,
      .object [("$or", .list [.object [("c", .str "x")], .object [("d", .list [])]])]])] ∧
    Backend.sql.where? (.value g.merged) =
      .ok (.str "\"a\" = 1 AND \"b\" = NULL AND (\"c\" = 'x' OR \"d\" = ())") ∧
    Backend.sql.where? (.value (Node.merge g.nodes)) = Backend.sql.where? (.value g.merged) ∧
    (∃ query query', Backend.elastic.where? (.value g.merged) = .ok query ∧
      Backend.elastic.where? (.value (Node.merge g.nodes)) = .ok query' ∧
      ∀ σ, (Elastic.evaluate σ query = some true ↔ ∀ node ∈ g.nodes, Elastic.Matches σ node) ∧
        (Elastic.evaluate σ query' = some true ↔ ∀ node ∈ g.nodes, Elastic.Matches σ node)) ∧
    (∃ node ∈ bad.nodes, ¬ Backend.sql.Accepts node) ∧
    Backend.sql.where? (.value bad.merged) = .error failure ∧
    Backend.sql.where? (.value (Node.merge bad.nodes)) = .error failure := by
  intro g bad inner failure
  have haccepted : ∀ node ∈ g.nodes, Backend.sql.Accepts node := by
    have hnodes : g.nodes = [.dict [], .object [("a", .int 1)], .object [("b", .null)], .dict [],
        .object [("$or", .list [.object [("c", .str "x")], .object [("d", .list [])]])]] := rfl
    rw [hnodes]
    simp only [List.forall_mem_cons]
    exact ⟨⟨_, rfl⟩, ⟨_, rfl⟩, ⟨_, rfl⟩, ⟨_, rfl⟩, ⟨_, rfl⟩, nofun⟩
  have hrejected : ∃ node ∈ bad.nodes, ¬ Backend.sql.Accepts node := by
    refine ⟨.object [("b", .object [("$in", .list [])])], ?_, fun ⟨_, hout⟩ => by cases hout⟩
    exact List.mem_cons_of_mem _ (List.mem_cons_of_mem _ List.mem_cons_self)
  obtain ⟨⟨clause, hmerged, hmerge⟩, hqueries⟩ := g.merged_as_one.1 haccepted
  obtain ⟨_, _, _, e, _, _, _, hbad, hbad'⟩ := bad.merged_as_one.2 .sql hrejected
  have hfailure : Backend.sql.where? (.value bad.merged) = .error failure := rfl
  obtain rfl : failure = e := Except.error.inj (hfailure.symm.trans hbad)
  exact ⟨haccepted, rfl, rfl, hmerge.trans hmerged.symm, hqueries, hrejected, hbad, hbad'⟩

end Grouping

end FieldQuery
