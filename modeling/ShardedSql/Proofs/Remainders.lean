import ShardedSql.Proofs.RunningSums

/-!
Shards by the remainders of keys. A key is the number that a value denotes, in whatever kind of
number or text, if that is an integer of 64 bits. Main statements: the key is read from every value
that denotes it, so that such a value lives in the one shard of its remainder, and nothing else has
a shard.
-/

namespace ShardedSql

open Numeric Text

namespace Numeric.Binary

variable {format : BinaryFormat} {x : Binary format} {k : Int}

/-- A signed count that is a multiple of a unit is so without its sign. -/
theorem exists_of_signedCount {negative : Bool} {m up down : Nat} (positive : down ≠ 0)
    (exact : signedCount negative m * up = k * down) :
    ∃ q, k = signedCount negative q ∧ m * up = q * down := by
  have unit : (0 : Int) < down := by omega
  cases negative with
  | false =>
      have le : 0 ≤ k := by
        refine nonneg_of_mul_nonneg_left (b := (down : Int)) ?_ unit
        rw [← exact]
        simp only [signedCount, Bool.false_eq_true, ↓reduceIte]
        positivity
      obtain ⟨q, rfl⟩ := Int.eq_ofNat_of_zero_le le
      refine ⟨q, by simp [signedCount], ?_⟩
      simp only [signedCount, Bool.false_eq_true, ↓reduceIte] at exact
      exact_mod_cast exact
  | true =>
      have le : 0 ≤ -k := by
        refine nonneg_of_mul_nonneg_left (b := (down : Int)) ?_ unit
        rw [neg_mul, ← exact]
        simp only [signedCount, ↓reduceIte, neg_mul, neg_neg]
        positivity
      obtain ⟨q, is⟩ := Int.eq_ofNat_of_zero_le le
      obtain rfl : k = -q := by omega
      refine ⟨q, by simp [signedCount], ?_⟩
      simp only [signedCount, ↓reduceIte, neg_mul, neg_inj] at exact
      exact_mod_cast exact

theorem toInt?_of_number? (is : x.number? = some (k : ℚ)) : x.toInt? = some k := by
  unfold number? at is
  unfold toInt?
  cases size : x.magnitude with
  | infinite => simp [size] at is
  | nan => simp [size] at is
  | finite m e =>
      have positive : (powerRatio 2 e).2 ≠ 0 := powerRatio_pos (by decide) e
      simp only [size, powerMultiple, Option.some.injEq] at is ⊢
      generalize (powerRatio 2 e).1 = up at *
      generalize (powerRatio 2 e).2 = down at *
      obtain ⟨q, rfl, whole⟩ := exists_of_signedCount positive
        ((mkRat_eq_intCast_iff positive).mp is)
      simp [whole, Nat.mul_div_cancel q (Nat.pos_of_ne_zero positive)]

end Numeric.Binary

namespace Numeric.Decimal

variable {d : Decimal} {k : Int}

/-- The digits of an integer at a scale are those of the integer and a zero for each place. -/
theorem digitsAt_of_number {places : Nat} (le : d.scale ≤ places) (is : d.number = k) :
    d.digitsAt places = k * 10 ^ places := by
  have unit : (10 : ℚ) ^ (places : Int) ≠ 0 := by positivity
  rw [number_eq_digitsAt le, zpow_neg, mul_inv_eq_iff_eq_mul₀ unit, zpow_natCast] at is
  exact_mod_cast is

theorem toInt?_of_number (nonzero : d.digits ≠ 0) (is : d.number = k) : d.toInt? = some k := by
  unfold toInt?
  split
  next whole =>
      have digits : d.digitsAt (0 : Nat) = k * 10 ^ 0 := digitsAt_of_number whole is
      simpa using digits
  next =>
    have up : ((d.scale.toNat : Nat) : Int) = d.scale := by omega
    have digits : d.digitsAt d.scale.toNat = k * 10 ^ d.scale.toNat :=
      digitsAt_of_number (by omega) is
    simp only [digitsAt, nonzero, ↓reduceIte, up, sub_self, Int.toNat_zero, pow_zero,
      mul_one] at digits
    simp [digits]

/-- The first digit of an integer of 64 bits stands on one of nineteen places before the point. -/
theorem leadingPlace_of_number (nonzero : d.digits ≠ 0) (is : d.number = k)
    (fits : Width.big.Fits k) : 0 < d.leadingPlace ∧ d.leadingPlace ≤ int64Digits := by
  obtain ⟨places, fine⟩ : ∃ places : Nat, d.scale ≤ places := ⟨d.scale.toNat, by omega⟩
  obtain ⟨low, high⟩ := natAbs_digitsAt_bounds nonzero fine
  rw [digitsAt_of_number fine is, Int.natAbs_mul, Int.natAbs_pow] at low high
  have unit : 0 < 10 ^ (d.leadingPlace + places - 1).toNat := Nat.pow_pos (by decide)
  have something : 0 < k.natAbs := Nat.pos_of_mul_pos_right (Nat.lt_of_lt_of_le unit low)
  have short : k.natAbs < 10 ^ 19 := by
    simp only [Width.Fits, Width.bits] at fits
    omega
  constructor
  · have above : 10 ^ places < 10 ^ (d.leadingPlace + places).toNat :=
      Nat.lt_of_le_of_lt (Nat.le_mul_of_pos_left _ something) high
    have := (Nat.pow_lt_pow_iff_right (by decide)).mp above
    omega
  · have below : 10 ^ (d.leadingPlace + places - 1).toNat < 10 ^ (19 + places) := by
      rw [Nat.pow_add]
      exact Nat.lt_of_le_of_lt low (Nat.mul_lt_mul_of_pos_right short (Nat.pow_pos (by decide)))
    have := (Nat.pow_lt_pow_iff_right (by decide)).mp below
    simp only [int64Digits]
    omega

theorem toInt64?_of_number (is : d.number = k) (fits : Width.big.Fits k) :
    d.toInt64? = some k := by
  unfold toInt64?
  split
  next zero =>
    rw [number_eq, zero] at is
    have same : k = 0 := by exact_mod_cast (by simpa using is.symm : (k : ℚ) = 0)
    rw [same]
  next nonzero =>
    obtain ⟨low, high⟩ := leadingPlace_of_number nonzero is fits
    simp [toInt?_of_number nonzero is, fitsInt64_iff.mpr fits, low, high]

end Numeric.Decimal

/-! ## Keys -/

namespace Strategy

variable {v : Value} {k : Int}

theorem fits_of_keyInteger? (read : keyInteger? v = some k) : Width.big.Fits k := by
  cases v with
  | text s =>
      simp only [keyInteger?] at read
      cases whole : readInt64? (trimmed s) with
      | some n =>
          simp only [whole, Option.some.injEq] at read
          subst read
          exact fitsInt64_iff.mp (Option.filter_eq_some_iff.mp whole).2
      | none =>
          simp only [whole, Option.bind_eq_some_iff] at read
          obtain ⟨d, -, integral⟩ := read
          exact Value.fits_of_int64? (v := .decimal d) integral
  | _ =>
      simp only [keyInteger?] at read
      exact Value.fits_of_int64? read

/-- The key integer of a value is the integer of 64 bits that the value denotes. -/
theorem keyInteger?_eq_some_iff :
    keyInteger? v = some k ↔ v.number? = some (k : ℚ) ∧ Width.big.Fits k := by
  refine ⟨fun read => ⟨number?_of_keyInteger? read, fits_of_keyInteger? read⟩, ?_⟩
  rintro ⟨is, fits⟩
  cases v with
  | integer n =>
      have same : (n.val : ℚ) = k := Option.some.inj is
      exact congrArg some (by exact_mod_cast same)
  | single x =>
      exact Option.filter_eq_some_iff.mpr ⟨Binary.toInt?_of_number? is, fitsInt64_iff.mpr fits⟩
  | double x =>
      exact Option.filter_eq_some_iff.mpr ⟨Binary.toInt?_of_number? is, fitsInt64_iff.mpr fits⟩
  | decimal d => exact Decimal.toInt64?_of_number (Option.some.inj is) fits
  | text s =>
      simp only [keyInteger?]
      simp only [Value.number?] at is
      cases whole : readInt64? (trimmed s) with
      | some n =>
          have same : (n : ℚ) = k := by simpa [whole] using is
          exact congrArg some (by exact_mod_cast same)
      | none =>
          obtain ⟨d, d_read, number⟩ : ∃ d, Decimal.read? (trimmed s) = some d ∧ d.number = k := by
            simpa [whole] using is
          simp [d_read, Decimal.toInt64?_of_number number fits]
  | _ => cases is

section Shards

variable (column : String) (modulus : Nat) (positive : 0 < modulus)

theorem suffixesFor_of_number (is : v.number? = some (k : ℚ)) (fits : Width.big.Fits k) :
    (modulo column modulus positive).suffixesFor v = .ok (singleton (intText (k % modulus))) := by
  have read := keyInteger?_eq_some_iff.mpr ⟨is, fits⟩
  have something : v.isNull = false := by
    cases v <;> first | rfl | cases is
  simp [suffixesFor, something, read]

theorem suffixesFor_of_no_key (something : v ≠ .null)
    (no_key : ∀ n : Int, v.number? = some (n : ℚ) → ¬ Width.big.Fits n) :
    (modulo column modulus positive).suffixesFor v =
      .error (.invalidShardValue (modulo column modulus positive).call v.display) := by
  have unread : keyInteger? v = none := by
    rw [Option.eq_none_iff_forall_ne_some]
    intro n read
    obtain ⟨is, fits⟩ := keyInteger?_eq_some_iff.mp read
    exact no_key n is fits
  have not_null : v.isNull = false := by
    cases v <;> first | rfl | exact absurd rfl something
  simp [suffixesFor, not_null, unread]

/-- A value that denotes an integer of 64 bits lives in the shard of the integer's remainder, as do
all others that denote it; nothing lives in no shard, and any other value is invalid. -/
theorem suffixesFor_remainder (v : Value) :
    (∀ n : Int, v.number? = some (n : ℚ) → Width.big.Fits n →
      (modulo column modulus positive).suffixesFor v = .ok (singleton (intText (n % modulus))) ∧
      ∀ w : Value, w.number? = some (n : ℚ) →
        (modulo column modulus positive).suffixesFor w =
          (modulo column modulus positive).suffixesFor v) ∧
    (v = .null → (modulo column modulus positive).suffixesFor v = .ok ∅) ∧
    (v ≠ .null → (∀ n : Int, v.number? = some (n : ℚ) → ¬ Width.big.Fits n) →
      (modulo column modulus positive).suffixesFor v =
        .error (.invalidShardValue (modulo column modulus positive).call v.display)) := by
  refine ⟨fun n is fits => ⟨?_, fun w other => ?_⟩, ?_, ?_⟩
  · exact suffixesFor_of_number column modulus positive is fits
  · rw [suffixesFor_of_number column modulus positive is fits,
      suffixesFor_of_number column modulus positive other fits]
  · rintro rfl
    rfl
  · exact suffixesFor_of_no_key column modulus positive

end Shards

/-- A negative number as a text with places and as a decimal, nothing, and a text that is no number,
by the remainders of five. -/
theorem suffixesFor_remainder_negative :
    (modulo "id" 5 (by decide)).suffixesFor (.text " -3.00 ") = .ok (singleton "2") ∧
      (modulo "id" 5 (by decide)).suffixesFor (.decimal ⟨-30, 1⟩) =
        (modulo "id" 5 (by decide)).suffixesFor (.text " -3.00 ") ∧
      (modulo "id" 5 (by decide)).suffixesFor .null = .ok ∅ ∧
      (modulo "id" 5 (by decide)).suffixesFor (.text "three") =
        .error (.invalidShardValue "mod(id, 5)" "three") := by
  have text_is : (Value.text " -3.00 ").number? = some ((-3 : Int) : ℚ) := by
    have unread : readInt64? (trimmed " -3.00 ") = none := by decide +kernel
    have read : Decimal.read? (trimmed " -3.00 ") = some ⟨-300, 2⟩ := by decide +kernel
    norm_num [Value.number?, unread, read, Decimal.number_eq]
  have decimal_is : (Value.decimal ⟨-30, 1⟩).number? = some ((-3 : Int) : ℚ) := by
    norm_num [Value.number?, Decimal.number_eq]
  have no_number : (Value.text "three").number? = none := by
    have unread : readInt64? (trimmed "three") = none := by decide +kernel
    have no_decimal : Decimal.read? (trimmed "three") = none := by decide +kernel
    simp [Value.number?, unread, no_decimal]
  obtain ⟨shard, alike⟩ :=
    (suffixesFor_remainder "id" 5 (by decide) (.text " -3.00 ")).1 (-3) text_is (by decide)
  refine ⟨shard, alike _ decimal_is, ?_, ?_⟩
  · exact (suffixesFor_remainder "id" 5 (by decide) .null).2.1 rfl
  · refine (suffixesFor_remainder "id" 5 (by decide) (.text "three")).2.2 (by simp) ?_
    simp [no_number]

end Strategy

end ShardedSql
