import ShardedSql.Error
import ShardedSql.Value

/-!
Adding values, for sums that are taken shard by shard. Integers of one width keep it and integers of
different widths meet at the widest; no integer sum wraps. Decimals take in integers. A sum of
floating-point numbers of different widths is a double.
-/

namespace ShardedSql

open Numeric

namespace Value

def unsupportedSum (a b : Value) : ShardError :=
  .unsupportedAggregate (.sum a.kindName b.kindName)

def add (a b : Value) : Except ShardError Value :=
  match a, b with
  | .integer m, .integer n =>
      match m.add? n with
      | some sum => .ok (.integer sum)
      | none => .error (.overflow .sum)
  | .single x, .single y => .ok (.single (x.add y))
  | .single x, .double y => .ok (.double ((Binary.Single.toDouble x).add y))
  | .double x, .single y => .ok (.double (x.add (Binary.Single.toDouble y)))
  | .double x, .double y => .ok (.double (x.add y))
  | .decimal c, .decimal d => .ok (.decimal (c.add d))
  | .decimal d, .integer n => .ok (.decimal (d.add (.ofInt n.val)))
  | .integer n, .decimal d => .ok (.decimal (d.add (.ofInt n.val)))
  | _, _ => .error (unsupportedSum a b)

end Value

end ShardedSql
