import ShardedSql.Router
import ShardedSql.Strategy.Registry

/-!
Configurations: which tables are sharded and how, and the settings of the whole.
-/

namespace ShardedSql

open Numeric Text

/-- A table and the call of its strategy, as written. -/
structure Route where
  table : String
  strategy : String
deriving DecidableEq

/-- What a configuration is made from. -/
structure Settings where
  cacheCapacity : Nat
  mandatory : Bool
  routes : List Route
deriving DecidableEq

/-- The number of statements that are remembered unless something else is asked for. -/
def defaultCacheCapacity : Nat :=
  389

def Settings.default : Settings :=
  ⟨defaultCacheCapacity, false, []⟩

/-- Settings with the routers they ask for. -/
structure Configuration where
  settings : Settings
  routers : RouterTable

/-- The capacity that the environment asks for, if it asks for a number. -/
def capacityOverride (raw : Option String) (configured : Nat) : Nat :=
  ((raw.map trimmed).bind readUInt64?).getD configured

namespace Configuration

/-- An error in the strategy of a route, with the table it is for. -/
def inRoute (table : String) : ShardError → ShardError
  | .configuration cause => .configuration (.inRoute table cause)
  | other => other

/-- The routers with one more; the table has to have a name and no router yet. -/
def addRoute (registry : StrategyRegistry) (routers : RouterTable) (route : Route) :
    Except ShardError RouterTable := do
  let table := trimmed route.table
  if table.isEmpty then
    throw (.configuration .routeWithoutTable)
  -- The strategy is built before the table is looked up, so its error comes first.
  let strategy ← (registry.build route.strategy).mapError (inRoute table)
  let router := Router.ofTable table strategy
  if (routers.find? router.table).isSome then
    throw (.configuration (.duplicateRoute table))
  return routers.insert router

/-- Builds every router, in the order of the routes. -/
def build (registry : StrategyRegistry) (settings : Settings) :
    Except ShardError Configuration := do
  return ⟨settings, ← settings.routes.foldlM (addRoute registry) .empty⟩

end Configuration

end ShardedSql
