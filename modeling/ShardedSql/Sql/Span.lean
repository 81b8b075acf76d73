import ShardedSql.Numeric.Digits
import ShardedSql.Text.Utf8

/-!
Half-open ranges of byte offsets into the text of a statement.
-/

namespace ShardedSql.Sql

open Numeric

structure Span where
  start : Nat
  stop : Nat
deriving DecidableEq, Repr

namespace Span

/-- The empty span at an offset. -/
def point (offset : Nat) : Span :=
  ⟨offset, offset⟩

/-- The number of bytes. Offsets are 64 bits wide, and so is their difference: a span that stops
before it starts has a length that wraps. -/
def length (span : Span) : Nat :=
  (span.stop + 2 ^ (64 : Nat) - span.start) % 2 ^ (64 : Nat)

def isEmpty (span : Span) : Bool :=
  span.start == span.stop

/-- The smallest span that covers both. -/
def merge (left right : Span) : Span :=
  ⟨min left.start right.start, max left.stop right.stop⟩

/-- The covered text, unless the span leaves the text or cuts a character. -/
def slice? (span : Span) (text : String) : Option String :=
  Text.slice? text span.start span.stop

theorem length_of_le {span : Span} (ordered : span.start ≤ span.stop)
    (fits : span.stop < 2 ^ (64 : Nat)) : span.length = span.stop - span.start := by
  simp only [length]
  omega

theorem merge_comm (left right : Span) : left.merge right = right.merge left := by
  simp [merge, Nat.min_comm, Nat.max_comm]

end Span

end ShardedSql.Sql
