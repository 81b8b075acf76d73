/-!
Sets of characters given by ranges of code points.
-/

namespace ShardedSql.Text

/-- Whether the code point of `c` lies in one of the closed ranges. -/
def inRanges (ranges : Array (Nat × Nat)) (c : Char) : Bool :=
  ranges.any fun (first, last) => first ≤ c.toNat && c.toNat ≤ last

end ShardedSql.Text
