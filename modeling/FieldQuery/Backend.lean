import FieldQuery.Elastic.Compile
import FieldQuery.Item
import FieldQuery.Sql.Clause

/-!
# Backends

The forms that a node and a search can be compiled to. The generic backend leaves nodes as they are;
Elasticsearch keeps scoring queries and filters apart; SQL has no scores and joins everything.
-/

namespace FieldQuery

inductive Backend where
  | generic
  | elastic
  | sql
deriving DecidableEq

namespace Backend

/-- The backend of a name; any other name is the generic one. -/
def named (s : String) : Backend :=
  if s = "elasticsearch" then elastic else if s = "sql" then sql else generic

/-- Compiles a node. -/
def compile (b : Backend) (node : Value) : Except Failure Value :=
  match b with
  | generic => .ok node
  | elastic => (Elastic.compile node).map Elastic.Query.toValue
  | sql => (Sql.compile node).map .str

/-- Compiles the node of an item. -/
def where? (b : Backend) (item : Item) : Except Failure Value :=
  match item.node with
  | .error e => .error e
  | .ok node => b.compile node

/-- Compiles a node to a text: the query in JSON, or the clause. -/
def expression (b : Backend) (node : Value) : Except Failure String :=
  match b with
  | generic => Json.write node
  | elastic => Elastic.expression node
  | sql => Sql.compile node

/-- Compiles every item to a query of its own. -/
def queries : List Item → Except Failure (List Elastic.Query)
  | [] => .ok []
  | item :: items =>
    match item.node with
    | .error e => .error e
    | .ok node =>
      match Elastic.compile node with
      | .error e => .error e
      | .ok q => (queries items).map (q :: ·)

/-- The nodes of all items. -/
def nodes : List Item → Except Failure (List Value)
  | [] => .ok []
  | item :: items =>
    match item.node with
    | .error e => .error e
    | .ok node => (nodes items).map (node :: ·)

/-- Compiles scoring items and filters into one search. -/
def search (b : Backend) (scored filters : List Item) : Except Failure Value :=
  match b with
  | generic =>
    match nodes scored with
    | .error e => .error e
    | .ok qs =>
      (nodes filters).map fun fs => .object [("queries", .list qs), ("filters", .list fs)]
  | elastic =>
    match queries scored with
    | .error e => .error e
    | .ok must => (queries filters).map fun filter => (Elastic.Search.mk must filter).toValue
  | sql =>
    match nodes (scored ++ filters) with
    | .error e => .error e
    | .ok ns => b.compile (Node.merge ns)

end Backend

namespace Composite

/-- All artifacts, compiled as one conjunction. -/
def where? (c : Composite) (b : Backend) : Except Failure Value := b.where? (.composite c)

/-- The artifacts, compiled into a search. -/
def search (c : Composite) (b : Backend) : Except Failure Value :=
  b.search (c.queries.map .artifact) (c.filters.map .artifact)

end Composite

end FieldQuery
