import ShardedSql.Error
import ShardedSql.Row
import ShardedSql.Sql.Outline
import ShardedSql.Sql.Tables
import ShardedSql.Value.Order

/-!
What the rows of several shards are sorted by: the names under which rows carry the columns of
`ORDER BY`, and how rows compare by the values found under them.
-/

namespace ShardedSql

open Numeric Sql Text

structure SortKey where
  property : String
  direction : Direction
deriving DecidableEq

namespace SortKey

/-- The name under which a row carries an item: its label, or the name of the column it is. -/
def projectedName (item : SelectItem) : Option String :=
  match item.label with
  | some label => some label
  | none =>
      match item.expr.unparenthesized with
      | .column _ name _ => some name
      | _ => none

/-- Whether an item is a column with this name. -/
def isColumnNamed (name : String) (item : SelectItem) : Bool :=
  match item.expr.unparenthesized with
  | .column _ other _ => sameWord other name
  | _ => false

/-- Whether an item is a column of a table with this name. -/
def isColumnOf (table : String) (item : SelectItem) : Bool :=
  match item.expr.unparenthesized with
  | .column (some other) _ _ => sameWord other table
  | _ => false

/-- The item that selects a column, one with the same qualifier before others. -/
def projectedColumn (query : Select) (table : Option String) (name : String) : Option SelectItem :=
  let candidates := query.items.filter (isColumnNamed name)
  match table with
  | some qualifier => (candidates.find? (isColumnOf qualifier)).or candidates.head?
  | none => candidates.head?

/-- The item at a position counted from 1. -/
def itemAt? (query : Select) (position : Int) : Option SelectItem :=
  if 0 < position then query.items[position.toNat - 1]? else none

/-- The label that a name without qualifier means. -/
def labelNamed? (query : Select) (table : Option String) (name : String) : Option String :=
  match table with
  | some _ => none
  | none => (query.items.filterMap (·.label)).find? (sameWord · name)

/-- The name under which rows carry an expression of `ORDER BY`: an item by its position, a label,
or a column. -/
def nameFor (query : Select) (e : Expr) : Except ShardError String :=
  match e.unparenthesized with
  | .literal (.integer n) =>
      match (itemAt? query n.toInt).bind projectedName with
      | some name => .ok name
      | none => .error (.unmergeable (.orderPosition n.toInt))
  | .column table name _ =>
      match labelNamed? query table name with
      | some label => .ok label
      | none => .ok (((projectedColumn query table name).bind projectedName).getD name)
  | other => .error (.unmergeable (.orderExpression other.outline))

/-- The keys of a query, in order. -/
def ofQuery (query : Select) (mapper : ColumnMapper) : Except ShardError (List SortKey) :=
  query.order.mapM fun item => do
    return ⟨mapper (← nameFor query item.expr), item.direction⟩

def compare (key : SortKey) (a b : Value) : Ordering :=
  match key.direction with
  | .ascending => a.order b
  | .descending => b.order a

/-- The order by the first key whose values differ. -/
def compareAll : List SortKey → List Value → List Value → Ordering
  | key :: keys, a :: as, b :: bs => (key.compare a b).then (compareAll keys as bs)
  | _, _, _ => .eq

/-- The value of a row for a key; a bare value is its own for every key. -/
def valueIn [ResultRow R] (row : R) (key : SortKey) : Except ShardError Value :=
  -- A name found in the row counts before the row itself.
  let bare := if ResultRow.isScalar row then ResultRow.scalar? row else none
  match (ResultRow.property? row key.property).or bare with
  | some v => .ok v
  | none => .error (.unmergeable (.missingKey key.property))

end SortKey

end ShardedSql
