import ShardedSql.Numeric.Binary

/-!
Rounding integers to doubles. Main statements: the doubles of two integers never come in the other
order, and those of different integers up to `2 ^ 53` differ.
-/

namespace ShardedSql.Numeric.Binary

/-! ## Rounding to the nearest quotient -/

section Quotients

variable {a b k d : Nat}

theorem roundHalfEven_one : roundHalfEven a 1 = a := by
  simp [roundHalfEven, Nat.mod_one]

theorem div_le_roundHalfEven : a / d ≤ roundHalfEven a d := by
  simp only [roundHalfEven]
  split <;> omega

theorem roundHalfEven_le_succ : roundHalfEven a d ≤ a / d + 1 := by
  simp only [roundHalfEven]
  split <;> omega

theorem roundHalfEven_mono (le : a ≤ b) : roundHalfEven a d ≤ roundHalfEven b d := by
  by_cases same : a / d = b / d
  · have rest : a % d ≤ b % d := by
      have first := Nat.div_add_mod a d
      have second := Nat.div_add_mod b d
      rw [same] at first
      omega
    -- Between the same two integers the larger remainder is rounded up where the smaller one is.
    simp only [roundHalfEven, same]
    split <;> split <;> simp_all <;> omega
  · have apart : a / d < b / d := Nat.lt_of_le_of_ne (Nat.div_le_div_right le) same
    have below := @roundHalfEven_le_succ a d
    have above := @div_le_roundHalfEven b d
    omega

theorem roundHalfEven_mul (positive : 0 < d) : roundHalfEven (k * d) d = k := by
  simp only [roundHalfEven, Nat.mul_div_cancel k positive, Nat.mul_mod_left]
  split <;> simp_all

end Quotients

/-! ## The pattern of an integer -/

/-- The digits that are left of a positive integer, with the hidden bit. -/
def significand (n : Nat) : Nat :=
  if n.log2 < 52 then n * 2 ^ (52 - n.log2) else roundHalfEven n (2 ^ (n.log2 - 52))

/-- The bits of the double nearest to a positive integer, if it is not too large. -/
def integerPattern (n : Nat) : Nat :=
  (n.log2 + 1022) * 2 ^ (52 : Nat) + significand n

variable {m n : Nat}

theorem roundingExponent_one (nonzero : n ≠ 0) :
    roundingExponent .double n 1 = (n.log2 : Int) - 52 := by
  have reached := Nat.log2_self_le nonzero
  have least : BinaryFormat.minExponent .double = -1074 := by decide
  have fraction : BinaryFormat.double.fractionBits = 52 := rfl
  have one : (1 : Nat).log2 = 0 := by decide
  simp only [roundingExponent, powerRatio, one, least, fraction, Int.natCast_zero, Int.sub_zero,
    Int.natCast_nonneg, ↓reduceIte, Int.toNat_natCast, Nat.mul_one, Nat.one_mul]
  rw [if_neg (by omega)]
  omega

/-- An integer is rounded to the double whose pattern says so. -/
theorem ofRatio_one (negative : Bool) (nonzero : n ≠ 0) :
    ofRatio .double negative n 1 =
      ofPattern .double negative (min (integerPattern n) BinaryFormat.double.infinityPattern) := by
  have least : BinaryFormat.minExponent .double = -1074 := by decide
  have fraction : BinaryFormat.double.fractionBits = 52 := rfl
  simp only [ofRatio, nonzero, ↓reduceIte, roundingExponent_one nonzero, least, fraction]
  have place : ((n.log2 : Int) - 52 - -1074).toNat = n.log2 + 1022 := by omega
  by_cases small : n.log2 < 52
  · have down : ¬ (0 : Int) ≤ (n.log2 : Int) - 52 := by omega
    have power : (-((n.log2 : Int) - 52)).toNat = 52 - n.log2 := by omega
    simp only [powerRatio, down, ↓reduceIte, power, Nat.mul_one, roundHalfEven_one, place,
      integerPattern, significand, small]
  · have up : (0 : Int) ≤ (n.log2 : Int) - 52 := by omega
    have power : ((n.log2 : Int) - 52).toNat = n.log2 - 52 := by omega
    simp only [powerRatio, up, ↓reduceIte, power, Nat.mul_one, Nat.one_mul, place,
      integerPattern, significand, small]

theorem significand_bounds (nonzero : n ≠ 0) :
    2 ^ (52 : Nat) ≤ significand n ∧ significand n ≤ 2 ^ (53 : Nat) := by
  have low := Nat.log2_self_le nonzero
  have high := @Nat.lt_log2_self n
  unfold significand
  by_cases small : n.log2 < 52
  · rw [if_pos small]
    have unit : 0 < 2 ^ (52 - n.log2) := Nat.pow_pos (by decide)
    constructor
    · calc 2 ^ 52 = 2 ^ n.log2 * 2 ^ (52 - n.log2) := by rw [← Nat.pow_add]; congr 1; omega
        _ ≤ n * 2 ^ (52 - n.log2) := Nat.mul_le_mul_right _ low
    · calc n * 2 ^ (52 - n.log2) ≤ 2 ^ (n.log2 + 1) * 2 ^ (52 - n.log2) :=
            Nat.mul_le_mul_right _ (Nat.le_of_lt high)
        _ = 2 ^ 53 := by rw [← Nat.pow_add]; congr 1; omega
  · rw [if_neg small]
    have unit : 0 < 2 ^ (n.log2 - 52) := Nat.pow_pos (by decide)
    have bottom : 2 ^ 52 * 2 ^ (n.log2 - 52) = 2 ^ n.log2 := by
      rw [← Nat.pow_add]; congr 1; omega
    have top : 2 ^ 53 * 2 ^ (n.log2 - 52) = 2 ^ (n.log2 + 1) := by
      rw [← Nat.pow_add]; congr 1; omega
    constructor
    · calc 2 ^ 52 = roundHalfEven (2 ^ 52 * 2 ^ (n.log2 - 52)) (2 ^ (n.log2 - 52)) :=
            (roundHalfEven_mul unit).symm
        _ ≤ roundHalfEven n (2 ^ (n.log2 - 52)) := roundHalfEven_mono (by omega)
    · calc roundHalfEven n (2 ^ (n.log2 - 52)) ≤
            roundHalfEven (2 ^ 53 * 2 ^ (n.log2 - 52)) (2 ^ (n.log2 - 52)) :=
            roundHalfEven_mono (by omega)
        _ = 2 ^ 53 := roundHalfEven_mul unit

theorem log2_mono (nonzero : m ≠ 0) (le : m ≤ n) : m.log2 ≤ n.log2 := by
  have low := Nat.log2_self_le nonzero
  have high := @Nat.lt_log2_self n
  have powers : 2 ^ m.log2 < 2 ^ (n.log2 + 1) := by omega
  have := (Nat.pow_lt_pow_iff_right (by decide)).mp powers
  omega

theorem integerPattern_mono (nonzero : m ≠ 0) (le : m ≤ n) :
    integerPattern m ≤ integerPattern n := by
  have above := (significand_bounds nonzero).2
  have below := (significand_bounds (n := n) (by omega)).1
  unfold integerPattern
  rcases Nat.lt_or_eq_of_le (log2_mono nonzero le) with less | same
  -- With one bit more, the next exponent outweighs all digits.
  · calc (m.log2 + 1022) * 2 ^ 52 + significand m
        ≤ (m.log2 + 1 + 1022) * 2 ^ 52 + 2 ^ 52 := by omega
      _ ≤ (n.log2 + 1022) * 2 ^ 52 + significand n :=
          Nat.add_le_add (Nat.mul_le_mul_right _ (by omega)) below
  · have digits : significand m ≤ significand n := by
      simp only [significand, same]
      split
      · exact Nat.mul_le_mul_right _ le
      · exact roundHalfEven_mono le
    rw [same]
    omega

/-- With at most 53 bits, no digit is left out. -/
theorem significand_of_short (short : n.log2 ≤ 52) : significand n = n * 2 ^ (52 - n.log2) := by
  unfold significand
  by_cases small : n.log2 < 52
  · rw [if_pos small]
  · have full : n.log2 = 52 := by omega
    simp [full, roundHalfEven_one]

theorem significand_lt (short : n.log2 ≤ 52) : significand n < 2 ^ (53 : Nat) := by
  have unit : 0 < 2 ^ (52 - n.log2) := Nat.pow_pos (by decide)
  calc significand n = n * 2 ^ (52 - n.log2) := significand_of_short short
    _ < 2 ^ (n.log2 + 1) * 2 ^ (52 - n.log2) := Nat.mul_lt_mul_of_pos_right Nat.lt_log2_self unit
    _ = 2 ^ 53 := by rw [← Nat.pow_add]; congr 1; omega

theorem integerPattern_lt (nonzero : m ≠ 0) (less : m < n) (small : n ≤ 2 ^ (53 : Nat)) :
    integerPattern m < integerPattern n := by
  have m_short : m.log2 ≤ 52 :=
    Nat.le_of_lt_succ ((Nat.log2_lt nonzero).mpr (Nat.lt_of_lt_of_le less small))
  have above := significand_lt m_short
  have below := (significand_bounds (n := n) (by omega)).1
  unfold integerPattern
  rcases Nat.lt_or_eq_of_le (log2_mono nonzero (Nat.le_of_lt less)) with apart | same
  · have step : (m.log2 + 1 + 1022) * 2 ^ 52 ≤ (n.log2 + 1022) * 2 ^ 52 :=
      Nat.mul_le_mul_right _ (by omega)
    omega
  · have unit : 0 < 2 ^ (52 - m.log2) := Nat.pow_pos (by decide)
    have digits : significand m < significand n := by
      rw [significand_of_short m_short, significand_of_short (same ▸ m_short), ← same]
      exact Nat.mul_lt_mul_of_pos_right less unit
    rw [same]
    omega

/-! ## Places in the order -/

theorem orderKey_ofPattern {negative : Bool} {pattern : Nat}
    (below : pattern < BinaryFormat.double.signPattern) :
    (ofPattern .double negative pattern).orderKey =
      if negative then -(pattern : Int) - 1 else pattern := by
  have sign : BinaryFormat.double.signPattern = 2 ^ 63 := by decide
  have width : BinaryFormat.double.width = 64 := rfl
  rw [sign] at below
  cases negative with
  | false =>
      have bits : (ofPattern .double false pattern).bits.toNat = pattern := by
        simp only [ofPattern, BitVec.toNat_ofNat, width, Bool.false_eq_true, ↓reduceIte]
        omega
      simp only [orderKey, isNegative, Binary.pattern, bits, sign]
      simp
      omega
  | true =>
      have bits : (ofPattern .double true pattern).bits.toNat = 2 ^ 63 + pattern := by
        simp only [ofPattern, BitVec.toNat_ofNat, width, sign, ↓reduceIte]
        omega
      simp only [orderKey, isNegative, Binary.pattern, bits, sign]
      simp
      omega

/-- The place of the double of a natural number. -/
def integerPlace (n : Nat) : Nat :=
  if n = 0 then 0 else min (integerPattern n) BinaryFormat.double.infinityPattern

theorem integerPlace_mono (le : m ≤ n) : integerPlace m ≤ integerPlace n := by
  unfold integerPlace
  by_cases zero : m = 0
  · simp [zero]
  · have positive : n ≠ 0 := by omega
    have patterns := integerPattern_mono zero le
    simp only [zero, positive, ↓reduceIte]
    omega

theorem integerPlace_lt (less : m < n) (small : n ≤ 2 ^ (53 : Nat)) :
    integerPlace m < integerPlace n := by
  have top : BinaryFormat.double.infinityPattern = 2047 * 2 ^ 52 := by decide
  have positive : n ≠ 0 := by omega
  have bits : n.log2 < 54 := (Nat.log2_lt positive).mpr (by omega)
  have finite : integerPattern n < BinaryFormat.double.infinityPattern := by
    have above := (significand_bounds positive).2
    have places : (n.log2 + 1022) * 2 ^ 52 ≤ (53 + 1022) * 2 ^ 52 :=
      Nat.mul_le_mul_right _ (by omega)
    unfold integerPattern
    omega
  unfold integerPlace
  by_cases zero : m = 0
  · have below := (significand_bounds positive).1
    simp only [zero, positive, ↓reduceIte, integerPattern] at finite ⊢
    omega
  · have patterns := integerPattern_lt zero less small
    simp only [zero, positive, ↓reduceIte]
    omega

theorem orderKey_ofRatio_one (negative : Bool) (n : Nat) :
    (ofRatio .double negative n 1).orderKey =
      if negative then -(integerPlace n : Int) - 1 else integerPlace n := by
  have below : BinaryFormat.double.infinityPattern < BinaryFormat.double.signPattern := by decide
  by_cases zero : n = 0
  · subst zero
    exact orderKey_ofPattern (by decide)
  · rw [ofRatio_one negative zero, orderKey_ofPattern (by omega)]
    simp [integerPlace, zero]

/-- The doubles of integers never come in the other order. -/
theorem orderKey_ofInt_mono {m n : Int} (le : m ≤ n) :
    (ofInt .double m).orderKey ≤ (ofInt .double n).orderKey := by
  unfold ofInt
  rw [orderKey_ofRatio_one, orderKey_ofRatio_one]
  by_cases m_negative : m < 0 <;> by_cases n_negative : n < 0 <;>
    simp only [m_negative, n_negative, decide_true, decide_false, ↓reduceIte, Bool.false_eq_true]
  · have places := integerPlace_mono (m := n.natAbs) (n := m.natAbs) (by omega)
    omega
  · omega
  · omega
  · have places := integerPlace_mono (m := m.natAbs) (n := n.natAbs) (by omega)
    omega

/-- Integers up to `2 ^ 53` have doubles of their own. -/
theorem orderKey_ofInt_lt {m n : Int} (less : m < n)
    (m_small : m.natAbs ≤ 2 ^ (53 : Nat)) (n_small : n.natAbs ≤ 2 ^ (53 : Nat)) :
    (ofInt .double m).orderKey < (ofInt .double n).orderKey := by
  unfold ofInt
  rw [orderKey_ofRatio_one, orderKey_ofRatio_one]
  by_cases m_negative : m < 0 <;> by_cases n_negative : n < 0 <;>
    simp only [m_negative, n_negative, decide_true, decide_false, ↓reduceIte, Bool.false_eq_true]
  · have places := integerPlace_lt (m := n.natAbs) (n := m.natAbs) (by omega) m_small
    omega
  · omega
  · omega
  · have places := integerPlace_lt (m := m.natAbs) (n := n.natAbs) (by omega) n_small
    omega

end ShardedSql.Numeric.Binary
