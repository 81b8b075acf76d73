import ShardedSql.Text.Words

/-!
Folding the case of ASCII letters, by code points. Main statements: characters that fold alike are
equal or both letters, and folding does not tell upper from lower case.
-/

namespace ShardedSql.Text

theorem sameWord_self (name : String) : sameWord name name = true := by
  simp [sameWord, sameChars]

theorem toNat_toLower (c : Char) :
    c.toLower.toNat = if 65 ≤ c.toNat ∧ c.toNat ≤ 90 then c.toNat + 32 else c.toNat := by
  unfold Char.toLower
  split
  · next upper =>
      simp only [ge_iff_le, UInt32.le_iff_toNat_le] at upper
      change 65 ≤ c.toNat ∧ c.toNat ≤ 90 at upper
      rw [if_pos upper]
      change (c.val + 32).toNat = c.val.toNat + 32
      rw [UInt32.toNat_add]
      have : c.val.toNat = c.toNat := rfl
      change (c.val.toNat + 32) % 2 ^ 32 = _
      omega
  · next upper =>
      simp only [ge_iff_le, UInt32.le_iff_toNat_le] at upper
      change ¬ (65 ≤ c.toNat ∧ c.toNat ≤ 90) at upper
      rw [if_neg upper]

theorem toNat_toUpper (c : Char) :
    c.toUpper.toNat = if 97 ≤ c.toNat ∧ c.toNat ≤ 122 then c.toNat - 32 else c.toNat := by
  unfold Char.toUpper
  split
  · next lower =>
      simp only [UInt32.le_iff_toNat_le] at lower
      change 97 ≤ c.toNat ∧ c.toNat ≤ 122 at lower
      rw [if_pos lower]
      change (c.val + ('A'.val - 'a'.val)).toNat = c.val.toNat - 32
      rw [UInt32.toNat_add]
      have : c.val.toNat = c.toNat := rfl
      have : ('A'.val - 'a'.val).toNat = 2 ^ 32 - 32 := by decide
      omega
  · next lower =>
      simp only [UInt32.le_iff_toNat_le] at lower
      change ¬ (97 ≤ c.toNat ∧ c.toNat ≤ 122) at lower
      rw [if_neg lower]

theorem isAlpha_iff (c : Char) :
    c.isAlpha = true ↔ (65 ≤ c.toNat ∧ c.toNat ≤ 90) ∨ (97 ≤ c.toNat ∧ c.toNat ≤ 122) := by
  have upper : c.isUpper = true ↔ 65 ≤ c.toNat ∧ c.toNat ≤ 90 := by
    change decide ('A'.val ≤ c.val ∧ c.val ≤ 'Z'.val) = true ↔ _
    rw [decide_eq_true_eq, UInt32.le_iff_toNat_le, UInt32.le_iff_toNat_le]
    exact Iff.rfl
  have lower : c.isLower = true ↔ 97 ≤ c.toNat ∧ c.toNat ≤ 122 := by
    change (decide ('a'.val ≤ c.val) && decide (c.val ≤ 'z'.val)) = true ↔ _
    rw [Bool.and_eq_true, decide_eq_true_eq, decide_eq_true_eq, UInt32.le_iff_toNat_le,
      UInt32.le_iff_toNat_le]
    exact Iff.rfl
  change (c.isUpper || c.isLower) = true ↔ _
  rw [Bool.or_eq_true, upper, lower]

theorem eq_or_letters {c d : Char} (same : c.toLower = d.toLower) :
    c = d ∨ c.isAlpha = true ∧ d.isAlpha = true := by
  have codes := congrArg Char.toNat same
  rw [toNat_toLower, toNat_toLower] at codes
  rw [isAlpha_iff, isAlpha_iff, ← Char.toNat_inj]
  split at codes <;> split at codes <;> omega

theorem toUpper_eq_of_toLower_eq {c d : Char} (same : c.toLower = d.toLower) :
    c.toUpper = d.toUpper := by
  have codes := congrArg Char.toNat same
  rw [toNat_toLower, toNat_toLower] at codes
  rw [← Char.toNat_inj, toNat_toUpper, toNat_toUpper]
  split at codes <;> split at codes <;> split <;> split <;> omega

theorem toLower_toUpper (c : Char) : c.toUpper.toLower = c.toLower := by
  rw [← Char.toNat_inj, toNat_toLower, toNat_toUpper, toNat_toLower]
  by_cases upper : 65 ≤ c.toNat ∧ c.toNat ≤ 90 <;>
    by_cases lower : 97 ≤ c.toNat ∧ c.toNat ≤ 122 <;>
    simp only [upper, lower, if_true, if_false, and_self] <;> split <;> omega

theorem toLower_toLower (c : Char) : c.toLower.toLower = c.toLower := by
  rw [← Char.toNat_inj, toNat_toLower, toNat_toLower]
  split
  · rw [if_neg (by omega)]
  · rfl

end ShardedSql.Text
