import ShardedSql.Router
import ShardedSql.Segment.Rename

/-!
One statement becomes one statement for every combination of shards of its tables. A plan lists the
shards of each table; the rewrites of a plan are produced one at a time, the shards of the last
table changing fastest.
-/

namespace ShardedSql

open Numeric Sql Text

/-- The shards of one table. A table without suffixes keeps its name. -/
structure TableShards where
  table : String
  suffixes : List String
deriving DecidableEq

/-- A statement for one combination of shards. -/
structure ShardStatement where
  sql : String
  index : Nat
  /-- The tables that were renamed, with their names on the shard. -/
  tables : List (String × String)
deriving DecidableEq

/-- The name of a table on a shard. -/
def physicalName (table suffix : String) : String :=
  table ++ "_" ++ suffix

/-! ## Plans -/

structure Rewriter where
  routers : RouterTable
  /-- Whether an insert has to find its shard. -/
  mandatory : Bool

namespace Rewriter

/-- The table an insert writes to, in lower case. -/
def insertTarget? : Statement → Option String
  | .insert s => some (lowerCase s.table)
  | _ => none

/-- The shards of one table of a statement. Rows are inserted into one shard at most. -/
def planTable (rewriter : Rewriter) (bindings : Bindings) (prepared : PreparedStatement)
    (table : String) : Except ShardError TableShards := do
  let suffixes ← match rewriter.routers.get? table with
    | some router => router.subTables bindings prepared
    | none => pure ∅
  -- The tables an insert only reads from may have any number of shards.
  if insertTarget? prepared.statement = some table then
    if 1 < suffixes.size then
      throw (.crossShardInsert table suffixes.size)
    if suffixes.isEmpty && rewriter.mandatory then
      throw (.missingRouteTarget table)
  return ⟨table, suffixes.toList⟩

/-- The shards of every table of a statement, in the order of the names. -/
def plan (rewriter : Rewriter) (bindings : Bindings) (prepared : PreparedStatement) :
    Except ShardError (List TableShards) :=
  prepared.tableNames.toList.mapM (rewriter.planTable bindings prepared)

end Rewriter

/-! ## Rewrites -/

/-- The statements of a plan that are still to come. -/
structure Rewrites where
  sql : String
  /-- The tables with at least one suffix. -/
  dimensions : List TableShards
  /-- For each dimension the position of the suffix that comes next. -/
  odometer : List Nat
  nextIndex : Nat
  total : Nat
deriving DecidableEq

namespace Rewrites

/-- The number of combinations; what does not fit into 64 bits counts as the largest number that
does. -/
def combinations (dimensions : List TableShards) : Nat :=
  dimensions.foldl (fun product shards => min (product * shards.suffixes.length) maxUInt64) 1

def ofPlan (sql : String) (plan : List TableShards) : Rewrites :=
  let dimensions := plan.filter fun shards => !shards.suffixes.isEmpty
  ⟨sql, dimensions, dimensions.map fun _ => 0, 0, combinations dimensions⟩

/-- The number of statements still to come. -/
def left (rewrites : Rewrites) : Nat :=
  rewrites.total - rewrites.nextIndex

/-- The odometer one step on, and whether it turned over. -/
def turn : List TableShards → List Nat → List Nat × Bool
  | shards :: dimensions, position :: odometer =>
      -- The last table turns first, and the others only when it turns over.
      match turn dimensions odometer with
      | (turned, false) => (position :: turned, false)
      | (turned, true) =>
          if position + 1 < shards.suffixes.length then ((position + 1) :: turned, false)
          else (0 :: turned, true)
  | _, odometer => (odometer, true)

/-- The names at the positions of the odometer. -/
def names (rewrites : Rewrites) : List (String × String) :=
  List.zipWith
    (fun shards position =>
      (shards.table, physicalName shards.table (shards.suffixes[position]?.getD "")))
    rewrites.dimensions rewrites.odometer

/-- The text of the statement with the tables renamed. -/
def textFor (rewrites : Rewrites) (names : List (String × String)) : String :=
  if names.isEmpty then rewrites.sql
  else renameWords (names.map fun (old, new) => ⟨old, new⟩) rewrites.sql

/-- The next statement and the rewrites behind it. -/
def next? (rewrites : Rewrites) : Option (ShardStatement × Rewrites) :=
  if rewrites.nextIndex < rewrites.total then
    let names := rewrites.names
    some (⟨rewrites.textFor names, rewrites.nextIndex, names⟩,
      { rewrites with
        odometer := (turn rewrites.dimensions rewrites.odometer).1
        nextIndex := rewrites.nextIndex + 1 })
  else none

/-- Passes over some statements. -/
def skip : Nat → Rewrites → Rewrites
  | 0, rewrites => rewrites
  | count + 1, rewrites =>
      match rewrites.next? with
      | some (_, rest) => skip count rest
      | none => rewrites

/-- The first statements, at most `count` of them. -/
def take : Nat → Rewrites → List ShardStatement
  | 0, _ => []
  | count + 1, rewrites =>
      match rewrites.next? with
      | some (statement, rest) => statement :: take count rest
      | none => []

/-- All statements still to come. -/
def toList (rewrites : Rewrites) : List ShardStatement :=
  rewrites.take rewrites.left

end Rewrites

/-- The statements that answer the prepared one together. -/
def Rewriter.rewrite (rewriter : Rewriter) (bindings : Bindings) (prepared : PreparedStatement) :
    Except ShardError Rewrites := do
  return .ofPlan prepared.sql (← rewriter.plan bindings prepared)

end ShardedSql
