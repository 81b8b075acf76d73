import ShardedSql.CommandLine.Arguments
import ShardedSql.CommandLine.Help
import ShardedSql.CommandLine.JsonText
import ShardedSql.Configuration
import ShardedSql.Expansion
import ShardedSql.Numeric.FloatText
import ShardedSql.Rewrite

/-!
What explaining a statement shows: the shards of its tables and the statements it becomes.
-/

namespace ShardedSql.CommandLine

open Numeric Text

/-! ## Values to bind -/

/-- What stands between brackets around the whole. -/
def insideBrackets? : List Char → Option (List Char)
  | '[' :: rest =>
      match rest.reverse with
      | ']' :: inside => some inside.reverse
      | _ => none
  | _ => none

/-- The value that a typed word means when it is no list. -/
def plainValue (typed : String) : Value :=
  if sameWord typed "null" then .null
  else
    match (readInt64? typed).bind (SizedInt.ofInt? .big) with
    | some n => .integer n
    | none =>
        match Binary.read? .double typed with
        | some x => .double x
        | none =>
            match Date.read? typed with
            | some date => .date date
            | none =>
                if sameWord typed "true" then .bool true
                else if sameWord typed "false" then .bool false
                else .text typed

/-- The value that typed characters mean; a list may be in brackets `depth` deep. -/
def typedValue : Nat → List Char → Value
  | 0, typed => plainValue (String.ofList (trim typed))
  | depth + 1, typed =>
      match insideBrackets? (trim typed) with
      | none => plainValue (String.ofList (trim typed))
      | some inside =>
          if (trim inside).isEmpty then .list []
          else .list ((splitAt ',' inside).map (typedValue depth))

/-- The value that a typed word means: a number, a day, a truth value, `null`, or a list of such in
brackets. Anything else is a text. -/
def readTyped (typed : String) : Value :=
  typedValue typed.length typed.toList

def ExplainRequest.parameters (request : ExplainRequest) : Parameters where
  positional := request.positional.map readTyped
  named := request.named.map fun (name, typed) => (name, readTyped typed)

/-! ## Explanations -/

structure Explanation where
  tables : List TableShards
  statements : List ShardStatement

namespace Explanation

/-- Expands, reads, routes and rewrites a statement. -/
def ofRequest (configuration : Configuration) (request : ExplainRequest) :
    Except ShardError Explanation := do
  let parameters := request.parameters
  let expanded ← expandLists request.sql parameters.positional
  let bindings := (parameters.withPositional expanded.values).bindings
  let prepared ← PreparedStatement.ofText expanded.sql
  let rewriter : Rewriter := ⟨configuration.routers, configuration.settings.mandatory⟩
  let plan ← rewriter.plan bindings prepared
  return ⟨plan, (Rewrites.ofPlan prepared.sql plan).toList⟩

def dashes : String :=
  String.ofList (List.replicate 60 '-')

/-- A name filled up with blanks. -/
def column (name : String) : String :=
  String.ofList (name.toList ++ List.replicate (24 - name.length) ' ')

def tableLine (shards : TableShards) : String :=
  " " ++ column shards.table ++ " " ++
    if shards.suffixes.isEmpty then "(unchanged)" else joined ", " shards.suffixes

def statementLine (statement : ShardStatement) : String :=
  " [" ++ natText statement.index ++ "] " ++ statement.sql

def text (explanation : Explanation) : String :=
  linesText (["", "Tables:", dashes] ++ explanation.tables.map tableLine
    ++ ["", "Statements:", dashes] ++ explanation.statements.map statementLine ++ [""])

def tableJson (shards : TableShards) : JsonText :=
  .object [("table", .string shards.table), ("suffixes", .array (shards.suffixes.map .string))]

def statementJson (statement : ShardStatement) : JsonText :=
  .object [("sql", .string statement.sql), ("index", .number statement.index),
    ("tables", .array (statement.tables.map fun (logical, physical) =>
      .array [.string logical, .string physical]))]

def json (explanation : Explanation) : JsonText :=
  .object [("tables", .array (explanation.tables.map tableJson)),
    ("statements", .array (explanation.statements.map statementJson))]

end Explanation

end ShardedSql.CommandLine
