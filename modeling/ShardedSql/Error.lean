import ShardedSql.Sql.ParseError

/-!
Why a statement cannot be routed, rewritten or answered. Every error is a cause; `message` words it.
-/

namespace ShardedSql

open Numeric Sql

/-- What is wrong with a configuration. -/
inductive ConfigurationError where
  | nonPositiveModulus (modulus : Int)
  | modulusNotInteger (text : String)
  | wrongArity (name usage : String) (count : Nat)
  | malformedStrategy (spec : String)
  | emptyArgument (spec : String)
  | unknownStrategy (name : String)
  /-- A reason given by a strategy that was registered from outside. -/
  | rejected (reason : String)
  | routeWithoutTable
  | inRoute (table : String) (cause : ConfigurationError)
  | duplicateRoute (table : String)
  /-- The document is no TOML, or not of the expected shape. -/
  | malformedDocument
deriving DecidableEq

def tick : String :=
  String.singleton (Char.ofNat 0x60)

/-- A text between backticks. -/
def ticked (text : String) : String :=
  tick ++ text ++ tick

def ConfigurationError.message : ConfigurationError → String
  | .nonPositiveModulus modulus =>
      "mod strategy needs a positive modulus, got " ++ intText modulus
  | .modulusNotInteger text => "mod modulus " ++ ticked text ++ " is not an integer"
  | .wrongArity name usage count =>
      name ++ " strategy takes " ++ ticked usage ++ ", got " ++ natText count ++ " argument(s)"
  | .malformedStrategy spec => "malformed strategy " ++ ticked spec
  | .emptyArgument spec => "empty argument in strategy " ++ ticked spec
  | .unknownStrategy name => "unknown strategy " ++ ticked name
  | .rejected reason => reason
  | .routeWithoutTable => "route without a table name"
  | .inRoute table cause => "table " ++ ticked table ++ ": " ++ cause.message
  | .duplicateRoute table => "table " ++ ticked table ++ " is routed more than once"
  | .malformedDocument => "TOML parse error"

/-- An aggregate that cannot be reduced again. -/
inductive UnsupportedAggregate where
  | average
  | sum (left right : String)
  | count (kind : String)
deriving DecidableEq

def UnsupportedAggregate.message : UnsupportedAggregate → String
  | .average => "AVG cannot be merged across shards"
  | .sum left right => "SUM over " ++ left ++ " and " ++ right
  | .count kind => "COUNT over " ++ kind

/-- Why rows of several shards cannot be put in order. -/
inductive UnmergeableShape where
  | wildcardOrder
  | orderPosition (position : Int)
  | orderExpression (outline : String)
  | missingKey (property : String)
  | limitBound (outline : String)
deriving DecidableEq

def UnmergeableShape.message : UnmergeableShape → String
  | .wildcardOrder => "ORDER BY over a wildcard projection"
  | .orderPosition position => "ORDER BY position " ++ intText position
  | .orderExpression outline => "ORDER BY expression " ++ outline ++ " is not a projected column"
  | .missingKey property => "row has no value for ORDER BY key " ++ ticked property
  | .limitBound outline => "LIMIT bound " ++ outline ++ " is not an integer"

/-- The sums that are taken over shards. -/
inductive Tally where
  | sum
  | count
  | affectedRows
deriving DecidableEq

def Tally.name : Tally → String
  | .sum => "SUM"
  | .count => "COUNT"
  | .affectedRows => "affected row count"

inductive ShardError where
  | parse (cause : ParseError)
  /-- A kind of statement that is not handled, with the reason it was turned away for. -/
  | unsupportedStatement (reason : String)
  | unsupportedAggregate (cause : UnsupportedAggregate)
  | unmergeable (cause : UnmergeableShape)
  | configuration (cause : ConfigurationError)
  | missingRouteTarget (table : String)
  | invalidShardValue (strategy value : String)
  | crossShardInsert (table : String) (shards : Nat)
  | overflow (tally : Tally)
  /-- What the shard said that failed. -/
  | execution (reason : String)
  | io (reason : String)
deriving DecidableEq

namespace ShardError

/-- A parse error as an error of the whole: statements turned away are kept apart. -/
def ofParse : ParseError → ShardError
  | .unsupported kind span => .unsupportedStatement (ParseError.unsupported kind span).reason
  | cause => .parse cause

def message : ShardError → String
  | .parse cause => "malformed SQL: " ++ cause.message
  | .unsupportedStatement reason => "unsupported statement kind: " ++ reason
  | .unsupportedAggregate cause => "unsupported aggregate: " ++ cause.message
  | .unmergeable cause => "unmergeable result shape: " ++ cause.message
  | .configuration cause => "configuration error: " ++ cause.message
  | .missingRouteTarget table => "no shard for insert into " ++ ticked table
  | .invalidShardValue strategy value => "invalid shard value for " ++ strategy ++ ": " ++ value
  | .crossShardInsert table shards =>
      "insert into " ++ ticked table ++ " spans " ++ natText shards ++ " shards"
  | .overflow tally => tally.name ++ " overflowed while merging shard results"
  | .execution reason => "shard execution failed: " ++ reason
  | .io reason => "I/O error: " ++ reason

end ShardError

end ShardedSql
