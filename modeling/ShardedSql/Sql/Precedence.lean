import ShardedSql.Sql.Syntax

/-!
How tightly operators bind. An operator of level `n` takes operands that bind tighter than `n` on
its right and at least as tight on its left, so operators of one level group to the left.
-/

namespace ShardedSql.Sql

/-- What follows a complete operand to make it part of a larger expression. -/
inductive Continuation where
  | operator (op : BinaryOp)
  /-- The word `IS`, then perhaps `NOT`, then `NULL`. -/
  | nullTest
  /-- The word `NOT`, then `IN`, `BETWEEN` or `LIKE`. -/
  | negation
  | membership
  | range
deriving DecidableEq

/-- The level of a token that continues an expression, and what it starts. -/
def continuation? : TokenKind → Option (Nat × Continuation)
  | .keyword .OR => some (1, .operator .or)
  | .keyword .AND => some (3, .operator .and)
  | .symbol .eq => some (5, .operator .eq)
  | .symbol .notEq => some (5, .operator .notEq)
  | .symbol .lt => some (5, .operator .lt)
  | .symbol .ltEq => some (5, .operator .ltEq)
  | .symbol .gt => some (5, .operator .gt)
  | .symbol .gtEq => some (5, .operator .gtEq)
  | .keyword .LIKE => some (5, .operator .like)
  | .keyword .IS => some (5, .nullTest)
  | .keyword .NOT => some (5, .negation)
  | .keyword .IN => some (5, .membership)
  | .keyword .BETWEEN => some (5, .range)
  | .symbol .bitOr => some (7, .operator .bitOr)
  | .symbol .bitAnd => some (9, .operator .bitAnd)
  | .symbol .leftShift => some (11, .operator .leftShift)
  | .symbol .rightShift => some (11, .operator .rightShift)
  | .symbol .plus => some (13, .operator .add)
  | .symbol .minus => some (13, .operator .sub)
  | .symbol .concat => some (13, .operator .concat)
  | .symbol .star => some (15, .operator .mul)
  | .symbol .slash => some (15, .operator .div)
  | .symbol .percent => some (15, .operator .mod)
  | _ => none

/-- The operators in front of an operand; a plus sign changes nothing. -/
inductive Sign where
  | none
  | op (op : UnaryOp)
deriving DecidableEq

/-- The level of the operand behind a sign. `NOT` is looser than a comparison: `NOT a = 1` negates
the comparison. -/
def sign? : TokenKind → Option (Nat × Sign)
  | .symbol .minus => some (17, .op .neg)
  | .symbol .plus => some (17, .none)
  | .symbol .bitNot => some (17, .op .bitNot)
  | .keyword .NOT => some (5, .op .not)
  | _ => none

/-- A sign put before an operand. A minus before a number makes a negative number, and `NOT` before
`EXISTS` turns it around. -/
def Sign.apply : Sign → Expr → Expr
  | .none, operand => operand
  | .op .neg, .literal (.integer n) => .literal (.integer (-n))
  | .op .neg, .literal (.float x) => .literal (.float x.neg)
  | .op .not, .existence query negated => .existence query (!negated)
  | .op other, operand => .unary other operand

end ShardedSql.Sql
