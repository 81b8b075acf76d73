import ShardedSql.Configuration
import ShardedSql.Toml.Document

/-!
Configurations read from a document: the section `parser` holds the capacity of the cache, the
section `sharding` whether inserts have to find their shard, and every `route` names a table and the
call of its strategy. Nothing else may stand in the document.
-/

namespace ShardedSql

namespace Settings

def hasOnly (keys : List String) (table : Toml.Table) : Bool :=
  table.entries.all fun entry => keys.contains entry.1

def readCapacity : Toml.Value → Option Nat
  | .integer n => if 0 ≤ n then some n.toNat else none
  | _ => none

def readFlag : Toml.Value → Option Bool
  | .boolean b => some b
  | _ => none

def readText : Toml.Value → Option String
  | .text content => some content
  | _ => none

/-- The only setting of a section, by its key or as the first of a list of values. -/
def readSection (key : String) (read : Toml.Value → Option α) (default : α) :
    Option Toml.Value → Option α
  | none => some default
  | some (.table content) =>
      if hasOnly [key] content then
        match content.find? key with
        | some value => read value
        | none => some default
      else none
  | some (.array []) => some default
  | some (.array (first :: _)) => read first
  | some _ => none

/-- A route by its keys, or as a list of values in their order. -/
def readRoute : Toml.Value → Option Route
  | .table content =>
      if hasOnly ["table", "strategy"] content then do
        return ⟨← readText (← content.find? "table"), ← readText (← content.find? "strategy")⟩
      else none
  | .array (table :: strategy :: _) => do return ⟨← readText table, ← readText strategy⟩
  | _ => none

def readRoutes : Option Toml.Value → Option (List Route)
  | none => some []
  | some (.array items) => items.mapM readRoute
  | some (.tables contents) => contents.mapM fun content => readRoute (.table content)
  | some _ => none

/-- The settings that a document asks for. -/
def ofDocument (document : String) : Option Settings := do
  let table ← Toml.Table.ofDocument document
  guard (hasOnly ["parser", "sharding", "route"] table)
  let capacity ←
    readSection "cache_capacity" readCapacity defaultCacheCapacity (table.find? "parser")
  let mandatory ← readSection "mandatory" readFlag false (table.find? "sharding")
  return ⟨capacity, mandatory, ← readRoutes (table.find? "route")⟩

end Settings

/-- Builds the configuration that a document asks for; `capacity` may ask for another capacity. -/
def Configuration.ofDocument (registry : StrategyRegistry) (capacity : Option String)
    (document : String) : Except ShardError Configuration :=
  match Settings.ofDocument document with
  | none => .error (.configuration .malformedDocument)
  | some settings =>
      Configuration.build registry
        { settings with cacheCapacity := capacityOverride capacity settings.cacheCapacity }

end ShardedSql
