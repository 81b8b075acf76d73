import ShardedSql.Sql.Tables

/-!
How the answers of several shards to one statement become one answer. The statement decides.
-/

namespace ShardedSql

open Sql

inductive MergeStrategy where
  /-- A single aggregate is reduced again; averages cannot be. -/
  | aggregate (kind : Aggregate)
  | distinct
  | ordered
  | concatenated
deriving DecidableEq

namespace MergeStrategy

/-- A query for a single aggregate is reduced; otherwise `DISTINCT` counts before `ORDER BY`. -/
def ofSelect (query : Select) : MergeStrategy :=
  match query.aggregate with
  | some kind => .aggregate kind
  | none =>
      if query.distinct then .distinct
      else if query.order.isEmpty then .concatenated
      else .ordered

def ofStatement : Statement → MergeStrategy
  | .select query => ofSelect query
  | _ => .concatenated

def name : MergeStrategy → String
  | .aggregate .avg => "avg"
  | .aggregate .count => "count"
  | .aggregate .max => "max"
  | .aggregate .min => "min"
  | .aggregate .sum => "sum"
  | .distinct => "distinct"
  | .ordered => "order_by"
  | .concatenated => "default"

end MergeStrategy

end ShardedSql
