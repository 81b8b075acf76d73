import ShardedSql.Merge.Rows
import ShardedSql.Merge.SortKey
import ShardedSql.Merge.Sorting
import ShardedSql.Merge.Strategy
import ShardedSql.Merge.Window
import ShardedSql.Value.Sum

/-!
Merging: the answers of several shards become the answer of the whole. The answer of a single shard
is that answer already. Otherwise a single aggregate is reduced again, ordered rows are sorted again
and cut to their window, and everything else is put together shard by shard.
-/

namespace ShardedSql

open Numeric Sql

variable {R : Type} [ResultRow R]

/-! ## Aggregates -/

/-- The values of the rows that are something. -/
def scalars (results : List (List R)) : List Value :=
  (results.flatten.filterMap ResultRow.scalar?).filter (!·.isNull)

/-- One row for a value, named as the first row of the answers. -/
def singleRow (results : List (List R)) (v : Value) : MergedRows R :=
  .listed [match results.flatten with
    | template :: _ => ResultRow.withScalar template v
    | [] => ResultRow.ofScalar v]

/-- A count with the counts of further rows. -/
def countFrom (total : SizedInt) : List Value → Except ShardError SizedInt
  | [] => .ok total
  | v :: rest =>
      match v.int64?.bind (SizedInt.ofInt? .big) with
      | none => .error (.unsupportedAggregate (.count v.kindName))
      | some n =>
          match total.add? n with
          | some sum => countFrom sum rest
          | none => .error (.overflow .count)

def totalCount (values : List Value) : Except ShardError Value :=
  (countFrom (.ofInt64 0) values).map .integer

/-- A sum with further values. -/
def sumFrom (total : Value) : List Value → Except ShardError Value
  | [] => .ok total
  | v :: rest => do sumFrom (← total.add v) rest

def totalSum : List Value → Except ShardError Value
  | [] => .ok .null
  | first :: rest => sumFrom first rest

/-- The first of the values that come furthest on the wanted side. -/
def extreme (wanted : Ordering) : List Value → Value
  | [] => .null
  | first :: rest => rest.foldl (fun best v => if v.order best = wanted then v else best) first

/-- Reduces the values of a single aggregate. -/
def reduce (kind : Aggregate) (values : List Value) : Except ShardError Value :=
  match kind with
  | .avg => .error (.unsupportedAggregate .average)
  | .count => totalCount values
  | .sum => totalSum values
  | .max => .ok (extreme .gt values)
  | .min => .ok (extreme .lt values)

/-! ## Rows in order -/

/-- A row with its values for the keys. -/
structure KeyedRow (R : Type) where
  row : R
  values : List Value

def attachKeys (keys : List SortKey) (row : R) : Except ShardError (KeyedRow R) :=
  return ⟨row, ← keys.mapM (SortKey.valueIn row)⟩

/-- The rows of all shards by the keys; rows that compare equal keep their order. -/
def sortRows (keys : List SortKey) (rows : List R) : Except ShardError (List R) := do
  let keyed ← rows.mapM (attachKeys keys)
  return (stableSort (fun a b => SortKey.compareAll keys a.values b.values) keyed).map (·.row)

def mergeOrdered (results : List (List R)) (query : Select) (mapper : ColumnMapper)
    (bindings : Bindings) : Except ShardError (List R) := do
  if query.hasWildcard then
    throw (.unmergeable .wildcardOrder)
  -- Keys and window come before the rows: their errors show even without rows.
  let keys ← SortKey.ofQuery query mapper
  let window ← Window.resolve bindings query
  let sorted ← sortRows keys results.flatten
  return window.apply sorted

/-! ## All answers -/

/-- The rows of the shards one after the other; a window whose bounds are written out is kept. -/
def mergeConcatenated (results : List (List R)) (query : Select) : MergedRows R :=
  match Window.literal? query with
  | some window => .listed (window.apply results.flatten)
  | none => .concatenated results

/-- Merges the answers of several shards to a query. -/
def mergeQuery (results : List (List R)) (query : Select) (mapper : ColumnMapper)
    (bindings : Bindings) : Except ShardError (MergedRows R) :=
  match MergeStrategy.ofSelect query with
  | .aggregate kind => (reduce kind (scalars results)).map (singleRow results)
  -- Rows that several shards have in common stay.
  | .distinct => .ok (.concatenated results)
  | .ordered => (mergeOrdered results query mapper bindings).map .listed
  | .concatenated => .ok (mergeConcatenated results query)

/-- The answer to a statement from the answers of its shards; without a shard there is none. -/
def merge (results : List (List R)) (statement : Statement) (mapper : ColumnMapper)
    (bindings : Bindings) : Except ShardError (Option (MergedRows R)) :=
  match results, statement with
  | [], _ => .ok none
  | [rows], _ => .ok (some (.listed rows))
  | _, .select query => (mergeQuery results query mapper bindings).map some
  | _, _ => .ok (some (.concatenated results))

theorem merge_several {results : List (List R)} (several : 2 ≤ results.length) (query : Select)
    (mapper : ColumnMapper) (bindings : Bindings) :
    merge results (.select query) mapper bindings =
      (mergeQuery results query mapper bindings).map some := by
  match results with
  | _ :: _ :: _ => rfl

end ShardedSql
