import ShardedSql.Parameters
import ShardedSql.Prepared
import ShardedSql.Strategy

/-!
Routing: which shards of one table a statement has to visit. A router looks for comparisons that pin
the column the table is sharded by, and never guesses: where the statement does not pin the column,
or compares it to something unknown, every shard is visited.
-/

namespace ShardedSql

open Sql Text

structure Router where
  /-- The table, in lower case. -/
  table : String
  strategy : Strategy

/-- The suffixes that a predicate pins, and whether something in it asks for every suffix. -/
structure Routed where
  suffixes : NameSet
  failOpen : Bool
deriving DecidableEq

namespace Routed

def nothing : Routed :=
  ⟨∅, false⟩

def everything : Routed :=
  ⟨∅, true⟩

def pinned (suffixes : NameSet) : Routed :=
  ⟨suffixes, false⟩

/-- What either of the two asks for. -/
def absorb (left right : Routed) : Routed :=
  ⟨left.suffixes ∪ right.suffixes, left.failOpen || right.failOpen⟩

/-- Whether no suffix is pinned and none is asked for. -/
def isSilent (routed : Routed) : Bool :=
  routed.suffixes.isEmpty && !routed.failOpen

end Routed

/-- Folds what each item asks for, the first error winning. -/
def absorbAll (route : α → Except ShardError Routed) : List α → Except ShardError Routed
  | [] => .ok .nothing
  | item :: rest => do
      let here ← route item
      let others ← absorbAll route rest
      return here.absorb others

namespace Router

def ofTable (table : String) (strategy : Strategy) : Router :=
  ⟨lowerCase table, strategy⟩

/-- Whether a bound table is the one this router is for. -/
def owns (router : Router) (bound : BoundTable) : Bool :=
  sameWord bound.name router.table

/-- The suffixes for every one of the values. -/
def suffixesForAll (router : Router) : List Value → Except ShardError NameSet
  | [] => .ok ∅
  | v :: rest => do
      let here ← router.strategy.suffixesFor v
      let others ← router.suffixesForAll rest
      return here ∪ others

/-- The suffixes for a value; a list stands for each of its elements. -/
def suffixesFor (router : Router) : Value → Except ShardError NameSet
  | .list items => router.suffixesForAll items
  | v => router.strategy.suffixesFor v

/-- Whether an expression is the sharding column of this router's table. Without a qualifier it is,
if the table is among the bound ones; with one, a bound table has to answer to it. -/
def isShardColumn (router : Router) (bound : List BoundTable) (e : Expr) : Bool :=
  match e.unparenthesized with
  | .column table name _ =>
      -- A column of another table may have the same name.
      let own := bound.filter router.owns
      sameWord name router.strategy.column &&
        match table with
        | some qualifier => own.any (·.answersTo qualifier)
        | none => !own.isEmpty
  | _ => false

section Predicates

variable (router : Router) (bindings : Bindings)

mutual

/-- What a predicate over the bound tables asks for. -/
def visit (bound : List BoundTable) : Expr → Except ShardError Routed
  | .paren inner => visit bound inner
  | .binary left .and right => do
      let l ← visit bound left
      let r ← visit bound right
      return l.absorb r
  | .binary left .or right => do
      let l ← visit bound left
      let r ← visit bound right
      return l.absorb r
  | .binary left .eq right =>
      if router.isShardColumn bound left then compared right
      else if router.isShardColumn bound right then compared left
      else .ok .nothing
  | .inList operand items false =>
      if router.isShardColumn bound operand then
        match items with
        -- The query may answer any values at all.
        | [.subquery _] => .ok .everything
        | _ => comparedAll items
      else .ok .nothing
  | _ => .ok .nothing

/-- What a comparison of the sharding column to the expression asks for. -/
def compared : Expr → Except ShardError Routed
  | .paren inner => compared inner
  | .literal l => (router.suffixesFor (.ofLiteral l)).map .pinned
  | .placeholder place =>
      match bindings.placeholder? place with
      | some v => (router.suffixesFor v).map .pinned
      | none => .ok .everything
  | .subquery query => visitQuery query
  | _ => .ok .everything

def comparedAll : List Expr → Except ShardError Routed
  | [] => .ok .nothing
  | e :: rest => do
      let here ← compared e
      let others ← comparedAll rest
      return here.absorb others

/-- What a query inside a predicate asks for; only if it reads the table at all. -/
def visitQuery : Select → Except ShardError Routed
  | query@⟨_, _, _, condition, _, _, _, _, _⟩ =>
      if router.table ∈ query.tableNames then
        match condition with
        | some predicate => visit query.boundTables predicate
        | none => .ok (if query.boundTables.any router.owns then .everything else .nothing)
      else .ok .nothing

end

/-- The queries an insert reads from. -/
def insertQueries (s : Insert) : List Select :=
  (match s.source with
    | .query query => [query]
    | .values rows => rows.flatten.flatMap Expr.subqueries
    | .defaults => [])
    ++ s.onDuplicate.flatMap fun assignment => assignment.value.subqueries

/-- What a query that an insert reads from asks for; it has to pin the column. -/
def visitInsertQuery (query : Select) : Except ShardError Routed := do
  let routed ← visitQuery router bindings query
  return if routed.isSilent then .everything else routed

/-- What an insert asks for. An insert into the table pins the column in each of its rows; an insert
into another table may read this one. -/
def visitInsert (s : Insert) : Except ShardError Routed :=
  if sameWord s.table router.table then
    match s.source, s.columns.findIdx? (sameWord · router.strategy.column) with
    -- A row too short to have a value in the column pins nothing.
    | .values rows, some index =>
        absorbAll (compared router bindings) (rows.filterMap (·[index]?))
    | _, _ => .ok .nothing
  else
    absorbAll (visitInsertQuery router bindings)
      ((insertQueries s).filter fun query => router.table ∈ query.tableNames)

def visitStatement : Statement → Except ShardError Routed
  | .insert s => visitInsert router bindings s
  | statement =>
      match statement.condition with
      | some predicate => visit router bindings statement.boundTables predicate
      | none => .ok .nothing

/-- The suffixes that the head comment asks for. -/
def overrides (head : HeadComment) : Except ShardError NameSet :=
  (head.valuesFor router.strategy.column).foldlM
    (fun suffixes reference => do
      return suffixes ∪ (← router.suffixesFor (bindings.resolve reference)))
    ∅

def isInsert : Statement → Bool
  | .insert _ => true
  | _ => false

/-- The suffixes of the shards that a statement has to visit. The head comment counts first; without
it, a statement that reads or changes rows and pins nothing visits every shard. -/
def subTables (prepared : PreparedStatement) : Except ShardError NameSet := do
  let overridden ← overrides router bindings prepared.head
  let routed ← visitStatement router bindings prepared.statement
  -- An insert that pins nothing is no insert into every shard.
  let undetermined :=
    overridden.isEmpty && !isInsert prepared.statement && routed.isSilent
  let found := overridden ∪ routed.suffixes
  return if routed.failOpen || undetermined then found ∪ router.strategy.allSuffixes else found

end Predicates

end Router

/-- Routers by the lower-cased names of their tables. -/
structure RouterTable where
  routers : List Router

namespace RouterTable

def empty : RouterTable :=
  ⟨[]⟩

def size (table : RouterTable) : Nat :=
  table.routers.length

def find? (table : RouterTable) (name : String) : Option Router :=
  table.routers.find? (·.table == name)

/-- The router for a table, whatever the case of its name. -/
def get? (table : RouterTable) (name : String) : Option Router :=
  table.find? (lowerCase name)

/-- A router takes the place of an earlier one for the same table. -/
def insert (table : RouterTable) (router : Router) : RouterTable :=
  ⟨router :: table.routers.filter (·.table != router.table)⟩

/-- The routers in the order of their tables. -/
def sorted (table : RouterTable) : List Router :=
  (NameSet.ofList (table.routers.map (·.table))).toList.filterMap table.find?

end RouterTable

end ShardedSql
