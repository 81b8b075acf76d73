import ShardedSql.NameSet
import ShardedSql.Sql.Syntax
import ShardedSql.Text.LetterCase

/-!
The tables a statement names. `tableNames` looks into every query nested in the clauses that choose,
filter, group or order rows; `boundTables` lists only the tables the statement itself ranges over.
-/

namespace ShardedSql.Sql

open Text

mutual

/-- The queries in an expression, but not the queries inside those. -/
def Expr.subqueries : Expr → List Select
  | .subquery query => [query]
  | .existence query _ => [query]
  | .binary left _ right => left.subqueries ++ right.subqueries
  | .unary _ operand => operand.subqueries
  | .isNull operand _ => operand.subqueries
  | .cast operand _ => operand.subqueries
  | .paren inner => inner.subqueries
  | .call _ args _ => listSubqueries args
  | .inList operand items _ => operand.subqueries ++ listSubqueries items
  | .between operand low high _ => operand.subqueries ++ low.subqueries ++ high.subqueries
  | .choice subject branches otherwise =>
      (match subject with | some e => e.subqueries | none => [])
        ++ branchSubqueries branches
        ++ (match otherwise with | some e => e.subqueries | none => [])
  | .literal _ => []
  | .column _ _ _ => []
  | .placeholder _ => []
  | .wildcard _ => []

def listSubqueries : List Expr → List Select
  | [] => []
  | e :: rest => e.subqueries ++ listSubqueries rest

def branchSubqueries : List Branch → List Select
  | [] => []
  | ⟨condition, result⟩ :: rest =>
      condition.subqueries ++ result.subqueries ++ branchSubqueries rest

end

mutual

/-- The tables named in the queries of an expression, at any depth, in lower case. -/
def Expr.tables : Expr → List String
  | .subquery query => query.tables
  | .existence query _ => query.tables
  | .binary left _ right => left.tables ++ right.tables
  | .unary _ operand => operand.tables
  | .isNull operand _ => operand.tables
  | .cast operand _ => operand.tables
  | .paren inner => inner.tables
  | .call _ args _ => listTables args
  | .inList operand items _ => operand.tables ++ listTables items
  | .between operand low high _ => operand.tables ++ low.tables ++ high.tables
  | .choice subject branches otherwise =>
      (match subject with | some e => e.tables | none => [])
        ++ branchTables branches
        ++ (match otherwise with | some e => e.tables | none => [])
  | .literal _ => []
  | .column _ _ _ => []
  | .placeholder _ => []
  | .wildcard _ => []

def listTables : List Expr → List String
  | [] => []
  | e :: rest => e.tables ++ listTables rest

def branchTables : List Branch → List String
  | [] => []
  | ⟨condition, result⟩ :: rest => condition.tables ++ result.tables ++ branchTables rest

def itemTables : List SelectItem → List String
  | [] => []
  | ⟨e, _⟩ :: rest => e.tables ++ itemTables rest

def orderTables : List OrderItem → List String
  | [] => []
  | ⟨e, _⟩ :: rest => e.tables ++ orderTables rest

/-- The tables of a `FROM` list: those it names and those of its queries and join conditions. -/
def TableRef.tables : TableRef → List String
  | .table _ name _ => [lowerCase name]
  | .derived query _ => query.tables
  | .join left _ right condition _ =>
      left.tables ++ right.tables
        ++ (match condition with | some e => e.tables | none => [])

/-- The tables of a query; its limit and offset are not searched. -/
def Select.tables : Select → List String
  | ⟨_, items, source, condition, groups, having, order, _, _⟩ =>
      (match source with | some t => t.tables | none => [])
        ++ itemTables items
        ++ (match condition with | some e => e.tables | none => [])
        ++ listTables groups
        ++ (match having with | some e => e.tables | none => [])
        ++ orderTables order

end

def Select.tableNames (query : Select) : NameSet :=
  .ofList query.tables

def optionTables (e : Option Expr) : List String :=
  (e.map Expr.tables).getD []

def assignmentTables (assignments : List Assignment) : List String :=
  assignments.flatMap fun assignment => assignment.value.tables

def InsertSource.tables : InsertSource → List String
  | .values rows => rows.flatten.flatMap Expr.tables
  | .query q => q.tables
  | .defaults => []

/-- Every table a statement names, in lower case. -/
def Statement.tableNames : Statement → NameSet
  | .select query => query.tableNames
  | .insert s =>
      .ofList (lowerCase s.table :: (s.source.tables ++ assignmentTables s.onDuplicate))
  | .update s =>
      .ofList (lowerCase s.table :: (assignmentTables s.assignments ++ optionTables s.condition))
  | .delete s => .ofList (lowerCase s.table :: optionTables s.condition)

/-- A table that columns may be qualified with, by its name or by its label. -/
structure BoundTable where
  name : String
  label : Option String
deriving DecidableEq

/-- Whether the qualifier of a column means this table. -/
def BoundTable.answersTo (table : BoundTable) (qualifier : String) : Bool :=
  table.label.any (sameWord · qualifier) || sameWord table.name qualifier

def TableRef.boundTables : TableRef → List BoundTable
  | .table _ name label => [⟨name, label⟩]
  | .derived _ _ => []
  | .join left _ right _ _ => left.boundTables ++ right.boundTables

def Select.boundTables (query : Select) : List BoundTable :=
  (query.source.map TableRef.boundTables).getD []

/-- The tables whose rows the statement itself ranges over. -/
def Statement.boundTables : Statement → List BoundTable
  | .select query => query.boundTables
  | .insert s => [⟨s.table, none⟩]
  | .update s => [⟨s.table, s.label⟩]
  | .delete s => [⟨s.table, s.label⟩]

/-- The condition rows have to meet. -/
def Statement.condition : Statement → Option Expr
  | .select query => query.condition
  | .insert _ => none
  | .update s => s.condition
  | .delete s => s.condition

/-- The functions that reduce many rows to one value. -/
inductive Aggregate where
  | count | sum | max | min | avg
deriving DecidableEq, Repr

def Aggregate.spelling : Aggregate → String
  | .count => "COUNT" | .sum => "SUM" | .max => "MAX" | .min => "MIN" | .avg => "AVG"

def Aggregate.all : List Aggregate :=
  [.count, .sum, .max, .min, .avg]

def Aggregate.ofName (name : String) : Option Aggregate :=
  all.find? fun aggregate => sameWord aggregate.spelling name

/-- The aggregate of a query that selects nothing else. -/
def Select.aggregate (query : Select) : Option Aggregate :=
  match query.items with
  | [item] =>
      match item.expr.unparenthesized with
      | .call function _ _ => Aggregate.ofName function
      | _ => none
  | _ => none

def Select.hasWildcard (query : Select) : Bool :=
  query.items.any (·.expr.isWildcard)

end ShardedSql.Sql
