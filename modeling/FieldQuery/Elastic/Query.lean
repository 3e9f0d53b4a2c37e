import FieldQuery.Bound
import FieldQuery.Value.Basic

/-!
# Elasticsearch queries

The part of the query language that compiled nodes use, and its form as data. A search keeps the
queries that score apart from the filters that only restrict.
-/

namespace FieldQuery.Elastic

inductive Query (texts : Texts := .unicode) where
  | matchAll
  /-- Matches when every clause does. -/
  | must (clauses : List (Query texts))
  /-- Matches when no clause does. -/
  | mustNot (clauses : List (Query texts))
  /-- Matches when at least `minimum` clauses do. -/
  | should (minimum : Nat) (clauses : List (Query texts))
  | term (field operand : Value texts)
  | range (field : Value texts) (bounds : List (Bound × Value texts))
  | exist (field : Value texts)

namespace Query

variable {texts : Texts}

/-- A compound query with the given occurrences. -/
def boolean (entries : List (String × Value texts)) : Value texts :=
  .object [("bool", .object entries)]

/-- What a query of the given name says about a field. -/
def about (name : String) (field body : Value texts) : Value texts :=
  .object [(name, .dict [(field, body)])]

mutual

/-- The query as data. -/
def toValue : Query texts → Value texts
  | matchAll => .object [("match_all", .dict [])]
  | must clauses => boolean [("must", .list (toValues clauses))]
  | mustNot clauses => boolean [("must_not", .list (toValues clauses))]
  | should minimum clauses =>
    boolean [("should", .list (toValues clauses)), ("minimum_should_match", .int minimum)]
  | term field operand => about "term" field operand
  | range field bounds => about "range" field (.object (bounds.map fun b => (b.1.text, b.2)))
  | exist field => .object [("exists", .object [("field", field)])]
termination_by structural q => q

def toValues : List (Query texts) → List (Value texts)
  | [] => []
  | q :: qs => toValue q :: toValues qs
termination_by structural qs => qs

end

end Query

/-- Queries that score, and filters. -/
structure Search where
  must : List Query
  filter : List Query

/-- The search as data: an empty part is left out, and a search without parts matches everything. -/
def Search.toValue (s : Search) : Value :=
  if s.must.isEmpty && s.filter.isEmpty then Query.matchAll.toValue
  else
    let part (name : String) (qs : List Query) : List (String × Value) :=
      if qs.isEmpty then [] else [(name, .list (Query.toValues qs))]
    Query.boolean (part "must" s.must ++ part "filter" s.filter)

end FieldQuery.Elastic
