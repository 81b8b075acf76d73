import ShardedSql.Proofs.Condition
import ShardedSql.Strategy

/-!
The integer by which a value finds its shard is the number the value denotes. Main statements: where
a key integer is read from a value the value denotes just that number, so an integer that equals the
value is the key itself.
-/

namespace ShardedSql

open Numeric Text

theorem mkRat_eq_intCast_iff {count k : Int} {down : Nat} (positive : down ≠ 0) :
    mkRat count down = (k : Rat) ↔ count = k * down := by
  have unit : mkRat k 1 = (k : Rat) := Rat.mkRat_self (k : Rat)
  rw [← unit, Rat.mkRat_eq_iff positive (by decide)]
  simp

theorem powerRatio_pos {base : Nat} (positive : 0 < base) (exponent : Int) :
    (powerRatio base exponent).2 ≠ 0 := by
  unfold powerRatio
  split
  · simp
  · exact Nat.ne_of_gt (Nat.pow_pos positive)

theorem Numeric.Binary.number?_of_toInt? {format : BinaryFormat} {x : Binary format} {k : Int}
    (read : x.toInt? = some k) : x.number? = some (k : Rat) := by
  unfold Binary.toInt? at read
  unfold Binary.number?
  cases size : x.magnitude with
  | infinite => simp [size] at read
  | nan => simp [size] at read
  | finite m e =>
      simp only [size, Option.ite_none_right_eq_some, Option.some.injEq] at read
      obtain ⟨whole, rfl⟩ := read
      have exact := Nat.div_mul_cancel (Nat.dvd_of_mod_eq_zero whole)
      simp only [powerMultiple, Option.some.injEq]
      refine (mkRat_eq_intCast_iff (powerRatio_pos (by decide) e)).mpr ?_
      generalize (powerRatio 2 e).1 = up at *
      generalize (powerRatio 2 e).2 = down at *
      unfold signedCount
      split
      · rw [Int.neg_mul, Int.neg_mul, ← Int.natCast_mul, ← Int.natCast_mul, exact]
      · rw [← Int.natCast_mul, ← Int.natCast_mul, exact]

theorem Numeric.Decimal.number_of_toInt? {d : Decimal} {k : Int} (nonzero : d.digits ≠ 0)
    (read : d.toInt? = some k) : d.number = (k : Rat) := by
  unfold Decimal.toInt? at read
  unfold Decimal.number powerMultiple powerRatio
  by_cases whole : d.scale ≤ 0
  · simp only [whole, ↓reduceIte, Decimal.digitsAt, nonzero, Option.some.injEq] at read
    have up : 0 ≤ -d.scale := by omega
    simp only [up, ↓reduceIte]
    refine (mkRat_eq_intCast_iff (by decide)).mpr ?_
    rw [← read]
    simp
  · simp only [whole, ↓reduceIte, Option.ite_none_right_eq_some, Option.some.injEq] at read
    obtain ⟨divides, rfl⟩ := read
    have down : ¬ 0 ≤ -d.scale := by omega
    simp only [down, ↓reduceIte, Int.neg_neg]
    refine (mkRat_eq_intCast_iff (Nat.ne_of_gt (Nat.pow_pos (by decide)))).mpr ?_
    have exact := Int.ediv_mul_cancel (Int.dvd_of_emod_eq_zero divides)
    simpa using exact.symm

theorem Numeric.Decimal.number_of_toInt64? {d : Decimal} {k : Int}
    (read : d.toInt64? = some k) : d.number = (k : Rat) := by
  unfold Decimal.toInt64? at read
  by_cases zero : d.digits = 0
  · simp only [zero, ↓reduceIte, Option.some.injEq] at read
    subst read
    exact (mkRat_eq_intCast_iff (powerRatio_pos (by decide) _)).mpr (by simp [zero])
  · simp only [zero, ↓reduceIte] at read
    split at read
    · simp at read
    · exact Decimal.number_of_toInt? zero (Option.filter_eq_some_iff.mp read).1

namespace Strategy

/-- The key integer of a value is the number the value denotes. -/
theorem number?_of_keyInteger? {v : Value} {k : Int} (read : keyInteger? v = some k) :
    v.number? = some (k : Rat) := by
  cases v with
  | text s =>
      simp only [keyInteger?] at read
      simp only [Value.number?]
      cases whole : readInt64? (trimmed s) with
      | some n =>
          simp only [whole, Option.some.injEq] at read
          simp [read]
      | none =>
          simp only [whole, Option.bind_eq_some_iff] at read
          obtain ⟨d, d_read, integral⟩ := read
          simp [d_read, Decimal.number_of_toInt64? integral]
  | integer n =>
      simp only [keyInteger?, Value.int64?, Option.some.injEq] at read
      simp [Value.number?, read]
  | single x =>
      exact Binary.number?_of_toInt? (Option.filter_eq_some_iff.mp read).1
  | double x =>
      exact Binary.number?_of_toInt? (Option.filter_eq_some_iff.mp read).1
  | decimal d =>
      exact congrArg some (Decimal.number_of_toInt64? read)
  | _ => simp [keyInteger?, Value.int64?] at read

end Strategy

/-- An integer equal to a value is the key integer of the value, if it has one. -/
theorem Value.eq_keyInteger_of_equals {n : SizedInt} {v : Value} {k : Int}
    (equal : Value.equalsPlain (.integer n) v = some true ∨
      Value.equalsPlain v (.integer n) = some true)
    (read : Strategy.keyInteger? v = some k) : n.val = k := by
  have number := Strategy.number?_of_keyInteger? read
  have same : ((n.val : Rat) == (k : Rat)) = true ∨ ((k : Rat) == (n.val : Rat)) = true := by
    cases v <;> simp_all [Value.equalsPlain, Value.number?]
  rcases same with same | same
  · exact Rat.intCast_inj.mp (eq_of_beq same)
  · exact (Rat.intCast_inj.mp (eq_of_beq same)).symm

end ShardedSql
