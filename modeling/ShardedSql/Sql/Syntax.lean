import ShardedSql.Sql.Token

/-!
Statements: the four kinds that read or change rows, and the expressions and tables in them.
-/

namespace ShardedSql.Sql

open Numeric Text

inductive Literal where
  | integer (n : Int64)
  | float (x : Double)
  | string (text : String)
  | blob (bytes : List UInt8)
  | boolean (b : Bool)
  | null
deriving DecidableEq

/-- A place for a value that is bound when the statement runs. -/
inductive Placeholder where
  /-- The placeholders `?` are numbered from 0 in the order of the text. -/
  | positional (ordinal : Nat)
  | named (name : String)
deriving DecidableEq

inductive BinaryOp where
  | add | sub | mul | div | mod
  | eq | notEq | lt | ltEq | gt | gtEq
  | and | or
  | concat | like | notLike
  | bitAnd | bitOr | leftShift | rightShift
deriving DecidableEq, Repr

def BinaryOp.all : List BinaryOp :=
  [.add, .sub, .mul, .div, .mod, .eq, .notEq, .lt, .ltEq, .gt, .gtEq, .and, .or, .concat, .like,
   .notLike, .bitAnd, .bitOr, .leftShift, .rightShift]

def BinaryOp.spelling : BinaryOp → String
  | .add => "+" | .sub => "-" | .mul => "*" | .div => "/" | .mod => "%"
  | .eq => "=" | .notEq => "<>" | .lt => "<" | .ltEq => "<=" | .gt => ">" | .gtEq => ">="
  | .and => "AND" | .or => "OR"
  | .concat => "||" | .like => "LIKE" | .notLike => "NOT LIKE"
  | .bitAnd => "&" | .bitOr => "|" | .leftShift => "<<" | .rightShift => ">>"

inductive UnaryOp where
  | neg | not | bitNot
deriving DecidableEq, Repr

inductive JoinKind where
  | inner | left | right | full | cross
deriving DecidableEq, Repr

def JoinKind.spelling : JoinKind → String
  | .inner => "INNER JOIN" | .left => "LEFT JOIN" | .right => "RIGHT JOIN"
  | .full => "FULL JOIN" | .cross => "CROSS JOIN"

inductive Direction where
  | ascending | descending
deriving DecidableEq, Repr

def Direction.spelling : Direction → String
  | .ascending => "ASC"
  | .descending => "DESC"

mutual

inductive Expr where
  | literal (value : Literal)
  | column (table : Option String) (name : String) (span : Span)
  | binary (left : Expr) (op : BinaryOp) (right : Expr)
  | unary (op : UnaryOp) (operand : Expr)
  | call (function : String) (args : List Expr) (distinct : Bool)
  | subquery (query : Select)
  /-- Whether the query has a row, or with `negated` whether it has none. -/
  | existence (query : Select) (negated : Bool)
  | isNull (operand : Expr) (negated : Bool)
  /-- Membership in a list; a list that is a query holds it as its only item. -/
  | inList (operand : Expr) (items : List Expr) (negated : Bool)
  | between (operand low high : Expr) (negated : Bool)
  | choice (subject : Option Expr) (branches : List Branch) (otherwise : Option Expr)
  | cast (operand : Expr) (typeName : String)
  | paren (inner : Expr)
  | placeholder (place : Placeholder)
  /-- All columns, of one table or of every table. -/
  | wildcard (table : Option String)

/-- One `WHEN` of a `CASE`. -/
structure Branch where
  condition : Expr
  result : Expr

structure SelectItem where
  expr : Expr
  label : Option String

structure OrderItem where
  expr : Expr
  direction : Direction

inductive TableRef where
  | table (schema : Option String) (name : String) (label : Option String)
  | derived (query : Select) (label : Option String)
  | join (left : TableRef) (kind : JoinKind) (right : TableRef) (condition : Option Expr)
      (shared : List String)

structure Select where
  distinct : Bool
  items : List SelectItem
  source : Option TableRef
  condition : Option Expr
  groups : List Expr
  having : Option Expr
  order : List OrderItem
  limit : Option Expr
  offset : Option Expr

end

structure Assignment where
  table : Option String
  column : String
  value : Expr

inductive InsertSource where
  | values (rows : List (List Expr))
  | query (query : Select)
  | defaults

structure Insert where
  schema : Option String
  table : String
  columns : List String
  source : InsertSource
  onDuplicate : List Assignment

structure Update where
  schema : Option String
  table : String
  label : Option String
  assignments : List Assignment
  condition : Option Expr

structure Delete where
  schema : Option String
  table : String
  label : Option String
  condition : Option Expr

inductive Statement where
  | select (query : Select)
  | insert (statement : Insert)
  | update (statement : Update)
  | delete (statement : Delete)

instance : Inhabited Expr := ⟨.literal .null⟩

namespace Expr

/-- A column written without its table, at no particular place. -/
def bareColumn (name : String) : Expr :=
  .column none name (.point 0)

def qualifiedColumn (table name : String) : Expr :=
  .column (some table) name (.point 0)

/-- The expression without any parentheses around it. -/
def unparenthesized : Expr → Expr
  | .paren inner => inner.unparenthesized
  | e => e

def isWildcard : Expr → Bool
  | .wildcard _ => true
  | _ => false

end Expr

namespace TableRef

def bare (name : String) : TableRef :=
  .table none name none

/-- Names a table or a derived table; a join has no name of its own. -/
def withLabel (label : String) : TableRef → TableRef
  | .table schema name _ => .table schema name (some label)
  | .derived query _ => .derived query (some label)
  | .join left kind right condition shared => .join left kind right condition shared

end TableRef

/-- A query that selects the items and nothing else. -/
def Select.ofItems (items : List SelectItem) (source : Option TableRef) : Select :=
  { distinct := false, items, source, condition := none, groups := [], having := none,
    order := [], limit := none, offset := none }

/-- The word a statement starts with. -/
def Statement.kindName : Statement → String
  | .select _ => "SELECT"
  | .insert _ => "INSERT"
  | .update _ => "UPDATE"
  | .delete _ => "DELETE"

end ShardedSql.Sql
