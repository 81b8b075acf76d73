import ShardedSql.Configuration
import ShardedSql.Expansion
import ShardedSql.Merge
import ShardedSql.Rewrite
import ShardedSql.StatementCache

/-!
The pipeline: a statement is expanded, read, routed and rewritten, its shards are asked one after
the other, and their answers become one.
-/

namespace ShardedSql

open Numeric

/-- Runs statements on shards. A failure is given by its reason. -/
structure ShardExecutor (m : Type → Type) (R : Type) where
  query : ShardStatement → Parameters → m (Except String (List R))
  /-- The number of rows that a statement changed. -/
  update : ShardStatement → Parameters → m (Except String UInt64)

/-- A statement that is ready to be run on its shards. -/
structure FanOut where
  statement : PreparedStatement
  parameters : Parameters
  rewrites : Rewrites

structure Pipeline where
  cache : StatementCache
  rewriter : Rewriter

namespace Pipeline

variable {m : Type → Type} [Monad m]

def ofConfiguration (configuration : Configuration) : Pipeline where
  cache := .ofCapacity configuration.settings.cacheCapacity
  rewriter := ⟨configuration.routers, configuration.settings.mandatory⟩

/-- Expands, reads and rewrites a statement. What was read stays in the cache, whatever follows. -/
def fanOut (pipeline : Pipeline) (sql : String) (parameters : Parameters) :
    Except ShardError FanOut × Pipeline :=
  match expandLists sql parameters.positional with
  | .error e => (.error e, pipeline)
  | .ok expanded =>
      let flat := parameters.withPositional expanded.values
      let (prepared, cache) := pipeline.cache.prepare expanded.sql
      let planned : Except ShardError FanOut := do
        let statement ← prepared
        return ⟨statement, flat, ← pipeline.rewriter.rewrite flat.bindings statement⟩
      (planned, { pipeline with cache })

/-- Runs at most `count` of the statements in order and collects what they give, up to the first
failure. -/
def dispatch (run : ShardStatement → m (Except String α)) (collect : β → α → Except ShardError β) :
    Nat → Rewrites → β → m (Except ShardError β)
  | 0, _, collected => return .ok collected
  | count + 1, rewrites, collected =>
      match rewrites.next? with
      | none => return .ok collected
      | some (statement, rest) => do
          match ← run statement with
          -- The shards behind a failing one are not asked.
          | .error reason => return .error (.execution reason)
          | .ok part =>
              match collect collected part with
              | .error e => return .error e
              | .ok collected => dispatch run collect count rest collected

def dispatchAll (run : ShardStatement → m (Except String α)) (collect : β → α → Except ShardError β)
    (rewrites : Rewrites) (start : β) : m (Except ShardError β) :=
  dispatch run collect rewrites.left rewrites start

/-- Runs a query on its shards and merges their rows. -/
def query {R : Type} [ResultRow R] (pipeline : Pipeline) (executor : ShardExecutor m R)
    (sql : String) (parameters : Parameters) (mapper : ColumnMapper) :
    m (Except ShardError (Option (MergedRows R)) × Pipeline) := do
  match pipeline.fanOut sql parameters with
  | (.error e, pipeline) => return (.error e, pipeline)
  | (.ok fan, pipeline) =>
      let results ← dispatchAll (executor.query · fan.parameters)
        (fun results rows => .ok (results ++ [rows])) fan.rewrites []
      return (results.bind fun rows =>
        merge rows fan.statement.statement mapper fan.parameters.bindings, pipeline)

/-- The sum of two numbers of changed rows. -/
def addAffected (total affected : UInt64) : Except ShardError UInt64 :=
  if total.toNat + affected.toNat ≤ maxUInt64 then .ok (total + affected)
  else .error (.overflow .affectedRows)

/-- Runs a statement that changes rows on its shards and sums the numbers of changed rows. -/
def update {R : Type} (pipeline : Pipeline) (executor : ShardExecutor m R) (sql : String)
    (parameters : Parameters) : m (Except ShardError UInt64 × Pipeline) := do
  match pipeline.fanOut sql parameters with
  | (.error e, pipeline) => return (.error e, pipeline)
  | (.ok fan, pipeline) =>
      let total ← dispatchAll (executor.update · fan.parameters) addAffected fan.rewrites 0
      return (total, pipeline)

end Pipeline

end ShardedSql
