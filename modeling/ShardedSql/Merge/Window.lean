import ShardedSql.Error
import ShardedSql.Parameters
import ShardedSql.Sql.Outline

/-!
The window of rows that `LIMIT` and `OFFSET` leave. A negative offset skips nothing and a negative
limit leaves everything.
-/

namespace ShardedSql

open Sql

structure Window where
  offset : Nat
  /-- The number of rows, without a bound if there is none. -/
  count : Option Nat
deriving DecidableEq

namespace Window

def ofBounds (offset count : Option Int) : Window :=
  ⟨(offset.getD 0).toNat, (count.filter (0 ≤ ·)).map Int.toNat⟩

def apply (window : Window) (rows : List α) : List α :=
  let rest := rows.drop window.offset
  match window.count with
  | some count => rest.take count
  | none => rest

/-- The integer that a bound is, when it is written out. -/
def literalBound (e : Expr) : Option Int :=
  match e.unparenthesized with
  | .literal (.integer n) => some n.toInt
  | _ => none

/-- The integer that a bound is, looking up placeholders. -/
def resolvedBound (bindings : Bindings) (e : Expr) : Option Int :=
  match e.unparenthesized with
  | .placeholder place => (bindings.placeholder? place).bind Value.int64?
  | _ => literalBound e

/-- Whether a query has a window at all. -/
def isAsked (query : Select) : Bool :=
  query.limit.isSome || query.offset.isSome

/-- The window of a query whose bounds are all written out. -/
def literal? (query : Select) : Option Window :=
  if isAsked query then
    -- One bound that is not written out gives up the window, not only that bound.
    match query.offset.map literalBound, query.limit.map literalBound with
    | some none, _ => none
    | _, some none => none
    | offset, count => some (ofBounds offset.join count.join)
  else none

/-- A bound that has to be an integer, if it is there. -/
def needBound (bindings : Bindings) : Option Expr → Except ShardError (Option Int)
  | none => .ok none
  | some e =>
      match resolvedBound bindings e with
      | some n => .ok (some n)
      | none => .error (.unmergeable (.limitBound e.outline))

/-- The window of a query; a query without bounds has the window of all rows. -/
def resolve (bindings : Bindings) (query : Select) : Except ShardError Window := do
  let offset ← needBound bindings query.offset
  let count ← needBound bindings query.limit
  return ofBounds offset count

end Window

end ShardedSql
