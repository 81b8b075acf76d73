import ShardedSql.Proofs.DecimalNumber
import ShardedSql.Proofs.Lexing

/-!
Decimals as they are written. The places of a number can be read off its text again. Main statement:
two decimals that are the same number have the same text exactly if they show as many places.
-/

namespace ShardedSql.Numeric

open Sql (ne_of_isDigit)

/-! ## Numbers read back -/

theorem toDigits_mul_pow {n : Nat} (positive : 0 < n) (k : Nat) :
    Nat.toDigits 10 (n * 10 ^ k) = Nat.toDigits 10 n ++ List.replicate k '0' := by
  induction k with
  | zero => simp
  | succ k ih =>
      have above : 0 < n * 10 ^ k := Nat.mul_pos positive (Nat.pow_pos (by decide))
      have step := Nat.toDigits_append_toDigits (b := 10) (d := 0) (by decide) above (by decide)
      have shift : n * 10 ^ (k + 1) = 10 * (n * 10 ^ k) + 0 := by ring
      rw [shift, ← step, ih, List.replicate_succ', List.append_assoc]
      rfl

namespace Decimal

theorem readInt?_signedPower (power : Int) :
    readInt? (signedPower power).toList = some power := by
  unfold signedPower
  split
  · next up =>
      rw [String.toList_append, intText, if_neg (by omega)]
      have shape : "+".toList ++ (natText power.natAbs).toList =
          '+' :: (natText power.natAbs).toList := rfl
      rw [shape, readInt?, readNat?_natText]
      exact congrArg some (Int.natAbs_of_nonneg up)
  · next down =>
      rw [intText, if_pos (by omega), String.toList_append]
      have shape : "-".toList ++ (natText power.natAbs).toList =
          '-' :: (natText power.natAbs).toList := rfl
      have negated : -(power.natAbs : Int) = power := by omega
      rw [shape, readInt?, readNat?_natText]
      exact congrArg some negated

/-! ## The places of a text -/

def isExponentMark (c : Char) : Bool :=
  c == 'e' || c == 'E'

/-- The number of characters behind the point. -/
def pointPlaces (mantissa : List Char) : Nat :=
  (mantissa.dropWhile (· ≠ '.')).tail.length

/-- The places that a written number has: those behind its point, less its exponent. -/
def scaleIn (chars : List Char) : Int :=
  let mantissa := chars.takeWhile fun c => !isExponentMark c
  let power := (chars.dropWhile fun c => !isExponentMark c).tail
  pointPlaces mantissa - (readInt? power).getD 0

section Places

variable {mantissa power whole : List Char}

theorem scaleIn_plain (bare : ∀ c ∈ mantissa, isExponentMark c = false) :
    scaleIn mantissa = pointPlaces mantissa := by
  have all : ∀ c ∈ mantissa, (!isExponentMark c) = true := fun c member => by
    rw [bare c member]
    rfl
  have taken := List.takeWhile_eq_self_iff.mpr all
  have left := List.dropWhile_eq_nil_iff.mpr all
  simp [scaleIn, taken, left, readInt?, readNat?]

theorem scaleIn_exponent (bare : ∀ c ∈ mantissa, isExponentMark c = false) {mark : Char}
    (marked : isExponentMark mark = true) {p : Int} (read : readInt? power = some p) :
    scaleIn (mantissa ++ mark :: power) = pointPlaces mantissa - p := by
  have all : ∀ c ∈ mantissa, (!isExponentMark c) = true := fun c member => by
    rw [bare c member]
    rfl
  simp [scaleIn, List.takeWhile_append_of_pos all, List.dropWhile_append_of_pos all, marked, read]

theorem pointPlaces_whole (bare : '.' ∉ whole) : pointPlaces whole = 0 := by
  have all : ∀ c ∈ whole, decide (c ≠ '.') = true := fun c member =>
    decide_eq_true fun point => bare (point ▸ member)
  rw [pointPlaces, List.dropWhile_eq_nil_iff.mpr all]
  rfl

theorem pointPlaces_point (bare : '.' ∉ whole) (fraction : List Char) :
    pointPlaces (whole ++ '.' :: fraction) = fraction.length := by
  have all : ∀ c ∈ whole, decide (c ≠ '.') = true := fun c member =>
    decide_eq_true fun point => bare (point ▸ member)
  have behind : (whole ++ '.' :: fraction).dropWhile (fun c => decide (c ≠ '.')) =
      '.' :: fraction := by
    rw [List.dropWhile_append_of_pos all]
    rfl
  rw [pointPlaces, behind]
  rfl

end Places

/-! ## The text of a decimal -/

/-- The places that the text of a decimal shows. Zero shows none, and none are taken away where the
text has no exponent but zeros before the point. -/
def shownScale (d : Decimal) : Int :=
  if d.digits = 0 ∨ -(plainLimit.trailingZeros : Int) ≤ d.scale ∧ d.scale ≤ 0 then 0 else d.scale

/-- A sign or a digit, of which mantissas consist but for their point. -/
def IsFigure (c : Char) : Prop :=
  c = '-' ∨ c.isDigit = true

theorem IsFigure.isExponentMark {c : Char} (figure : IsFigure c) : isExponentMark c = false := by
  rcases figure with rfl | digit
  · decide
  · have lower : c ≠ 'e' := ne_of_isDigit digit (by decide)
    have upper : c ≠ 'E' := ne_of_isDigit digit (by decide)
    simp [Decimal.isExponentMark, lower, upper]

theorem IsFigure.ne_point {c : Char} (figure : IsFigure c) : c ≠ '.' := by
  rcases figure with rfl | digit
  · decide
  · exact ne_of_isDigit digit (by decide)

variable {d x y : Decimal}

theorem isFigure_of_mem_signText {c : Char} (member : c ∈ d.signText.toList) : IsFigure c := by
  unfold signText at member
  split at member
  · exact .inl (by simpa using member)
  · simp at member

theorem isFigure_of_mem_toDigits {n : Nat} {c : Char} (member : c ∈ Nat.toDigits 10 n) :
    IsFigure c :=
  .inr (Nat.isDigit_of_mem_toDigits (by decide) (by decide) member)

theorem not_mem_point {run : List Char} (figures : ∀ c ∈ run, IsFigure c) : '.' ∉ run :=
  fun member => (figures _ member).ne_point rfl

/-- Without a point the exponent alone tells the places. -/
theorem scaleIn_power {run : List Char} (figures : ∀ c ∈ run, IsFigure c) {mark : Char}
    (marked : isExponentMark mark = true) (power : Int) :
    scaleIn (run ++ mark :: (signedPower power).toList) = -power := by
  rw [scaleIn_exponent (fun c member => (figures c member).isExponentMark) marked
    (readInt?_signedPower power), pointPlaces_whole (not_mem_point figures)]
  omega

/-- One digit stands before the point, if any stand behind it. -/
theorem scaleIn_small {sign digits : List Char} (signed : ∀ c ∈ sign, IsFigure c)
    (figures : ∀ c ∈ digits, IsFigure c) (nonempty : digits ≠ []) :
    scaleIn (sign ++ (smallText d digits).toList) = d.scale := by
  match digits, nonempty with
  | [first], _ =>
      have text : sign ++ (smallText d [first]).toList =
          sign ++ [first] ++ 'E' ::
            (signedPower (([first].length : Int) - d.scale - 1)).toList := by
        simp [smallText]
      rw [text, scaleIn_power (List.forall_mem_append.mpr ⟨signed, figures⟩) rfl,
        List.length_singleton]
      omega
  | first :: second :: rest, _ =>
      obtain ⟨first_figure, behind⟩ := List.forall_mem_cons.mp figures
      have before : ∀ c ∈ sign ++ [first], IsFigure c :=
        List.forall_mem_append.mpr ⟨signed, List.forall_mem_singleton.mpr first_figure⟩
      have bare : ∀ c ∈ sign ++ [first] ++ '.' :: second :: rest, isExponentMark c = false := by
        refine List.forall_mem_append.mpr ⟨fun c member => (before c member).isExponentMark, ?_⟩
        exact List.forall_mem_cons.mpr ⟨rfl, fun c member => (behind c member).isExponentMark⟩
      have text : sign ++ (smallText d (first :: second :: rest)).toList =
          sign ++ [first] ++ '.' :: second :: rest ++ 'E' :: (signedPower
            (((first :: second :: rest).length : Int) - d.scale - 1)).toList := by
        simp [smallText]
      rw [text, scaleIn_exponent bare rfl (readInt?_signedPower _),
        pointPlaces_point (not_mem_point before)]
      simp only [List.length_cons]
      omega

/-- As many digits stand behind the point as there are places. -/
theorem scaleIn_pointBefore {sign digits : List Char} (signed : ∀ c ∈ sign, IsFigure c)
    (figures : ∀ c ∈ digits, IsFigure c) (places : Nat) :
    scaleIn (sign ++ pointBefore digits places) = places := by
  have padded : ∀ c ∈ List.replicate (places + 1 - digits.length) '0' ++ digits, IsFigure c := by
    refine List.forall_mem_append.mpr ⟨fun c member => ?_, figures⟩
    exact .inr (List.eq_of_mem_replicate member ▸ rfl)
  have length : places < (List.replicate (places + 1 - digits.length) '0' ++ digits).length := by
    rw [List.length_append, List.length_replicate]
    omega
  unfold pointBefore
  generalize List.replicate (places + 1 - digits.length) '0' ++ digits = all at padded length
  simp only
  split
  · next none =>
      have whole := List.forall_mem_append.mpr ⟨signed, padded⟩
      rw [scaleIn_plain fun c member => (whole c member).isExponentMark,
        pointPlaces_whole (not_mem_point whole), none]
  · have front : ∀ c ∈ sign ++ all.take (all.length - places), IsFigure c :=
      List.forall_mem_append.mpr ⟨signed, fun c member => padded c (List.mem_of_mem_take member)⟩
    have bare : ∀ c ∈ sign ++ all.take (all.length - places) ++
        '.' :: all.drop (all.length - places), isExponentMark c = false := by
      refine List.forall_mem_append.mpr ⟨fun c member => (front c member).isExponentMark, ?_⟩
      exact List.forall_mem_cons.mpr
        ⟨rfl, fun c member => (padded c (List.mem_of_mem_drop member)).isExponentMark⟩
    rw [← List.append_assoc, scaleIn_plain bare, pointPlaces_point (not_mem_point front),
      List.length_drop]
    omega

/-- The text of a decimal shows its places. -/
theorem scaleIn_text (d : Decimal) : scaleIn d.text.toList = d.shownScale := by
  have signed : ∀ c ∈ d.signText.toList, IsFigure c := fun _ => isFigure_of_mem_signText
  have figures : ∀ c ∈ Nat.toDigits 10 d.digits.natAbs, IsFigure c :=
    fun _ => isFigure_of_mem_toDigits
  have length := @Nat.length_toDigits_pos 10 d.digits.natAbs
  unfold text shownScale
  simp only
  by_cases zero : d.digits = 0
  · rw [if_pos zero, if_pos (.inl zero)]
    rfl
  rw [if_neg zero]
  by_cases small : (plainLimit.leadingZeros : Int) + (Nat.toDigits 10 d.digits.natAbs).length <
      d.scale
  · rw [if_pos small, String.toList_append,
      scaleIn_small signed figures (List.length_pos_iff.mp length), if_neg (by omega)]
  rw [if_neg small]
  by_cases large : (plainLimit.trailingZeros : Int) < -d.scale
  · have written : (d.signText ++ String.ofList (Nat.toDigits 10 d.digits.natAbs) ++ "e" ++
        signedPower (-d.scale)).toList =
          d.signText.toList ++ Nat.toDigits 10 d.digits.natAbs ++
            'e' :: (signedPower (-d.scale)).toList := by
      simp
    rw [if_pos large, if_neg (by omega), written,
      scaleIn_power (List.forall_mem_append.mpr ⟨signed, figures⟩) rfl, neg_neg]
  · have zeros : ∀ c ∈ List.replicate (-d.scale).toNat '0', IsFigure c := fun c member =>
      .inr (List.eq_of_mem_replicate member ▸ rfl)
    rw [if_neg large, String.toList_append, String.toList_ofList,
      scaleIn_pointBefore signed (List.forall_mem_append.mpr ⟨figures, zeros⟩)]
    split <;> omega

/-! ## Equal numbers -/

/-- A number that shows no places and needs no exponent is written as an integer. -/
theorem text_of_whole (low : -(plainLimit.trailingZeros : Int) ≤ d.scale) (high : d.scale ≤ 0) :
    d.text = intText (d.digitsAt 0) := by
  unfold text
  by_cases zero : d.digits = 0
  · rw [if_pos zero, digitsAt, if_pos zero]
    rfl
  have length := @Nat.length_toDigits_pos 10 d.digits.natAbs
  have sign : d.digitsAt 0 < 0 ↔ d.digits < 0 := by
    rw [← Int.sign_eq_neg_one_iff_neg, ← Int.sign_eq_neg_one_iff_neg, sign_digitsAt]
  have size : (d.digitsAt 0).natAbs = d.digits.natAbs * 10 ^ (-d.scale).toNat := by
    rw [digitsAt, if_neg zero, Int.natAbs_mul, Int.natAbs_pow, zero_sub]
    rfl
  have padding : 0 + 1 - (Nat.toDigits 10 d.digits.natAbs ++
      List.replicate (-d.scale).toNat '0').length = 0 := by
    rw [List.length_append]
    omega
  have whole : d.scale.toNat = 0 := by omega
  simp only
  rw [if_neg zero, if_neg (by omega), if_neg (by omega), whole, pointBefore, if_pos rfl, padding,
    List.replicate_zero, List.nil_append, signText, intText, natText, size,
    toDigits_mul_pow (Int.natAbs_pos.mpr zero)]
  by_cases negative : d.digits < 0
  · rw [if_pos negative, if_pos (sign.mpr negative)]
  · rw [if_neg negative, if_neg (mt sign.mp negative)]
    exact String.empty_append

theorem text_ofInt (n : Int) : (ofInt n).text = intText n := by
  have digits : (ofInt n).digitsAt 0 = n := by
    simp [digitsAt, ofInt, eq_comm]
  rw [text_of_whole (by simp [ofInt]) (by simp [ofInt]), digits]

theorem shownScale_ofInt (n : Int) : (ofInt n).shownScale = 0 := by
  simp [shownScale, ofInt]

theorem digitsAt_eq_of_number (same : x.number = y.number) {scale : Int} (x_le : x.scale ≤ scale)
    (y_le : y.scale ≤ scale) : x.digitsAt scale = y.digitsAt scale := by
  have unit : (10 : ℚ) ^ (-scale) ≠ 0 := by positivity
  rw [number_eq_digitsAt x_le, number_eq_digitsAt y_le] at same
  exact_mod_cast mul_right_cancel₀ unit same

theorem digits_eq_zero_iff : d.digits = 0 ↔ d.number = 0 := by
  have unit : (10 : ℚ) ^ (-d.scale) ≠ 0 := by positivity
  rw [number_eq, mul_eq_zero, or_iff_left unit, Int.cast_eq_zero]

/-- Two written forms of one number are the same text exactly if they show as many places. -/
theorem text_eq_iff (same : x.number = y.number) : x.text = y.text ↔ x.shownScale = y.shownScale := by
  constructor
  · intro text
    rw [← scaleIn_text, ← scaleIn_text, text]
  intro shown
  by_cases zero : x.digits = 0
  · have other : y.digits = 0 := by rwa [digits_eq_zero_iff, ← same, ← digits_eq_zero_iff]
    simp only [text, zero, other, ↓reduceIte]
  have nonzero : y.digits ≠ 0 := by rwa [ne_eq, digits_eq_zero_iff, ← same, ← digits_eq_zero_iff]
  simp only [shownScale, zero, nonzero, false_or] at shown
  by_cases whole : -(plainLimit.trailingZeros : Int) ≤ x.scale ∧ x.scale ≤ 0
  · have other : -(plainLimit.trailingZeros : Int) ≤ y.scale ∧ y.scale ≤ 0 := by
      rw [if_pos whole] at shown
      split at shown <;> omega
    rw [text_of_whole whole.1 whole.2, text_of_whole other.1 other.2,
      digitsAt_eq_of_number same whole.2 other.2]
  -- Places that are shown are those of the decimal, so both have the same digits, too.
  · rw [if_neg whole] at shown
    have scales : x.scale = y.scale := by
      split at shown <;> omega
    have digits := digitsAt_eq_of_number same (Int.le_refl _) (Int.le_of_eq scales.symm)
    rw [digitsAt, digitsAt, if_neg zero, if_neg nonzero, scales] at digits
    simp only [sub_self, Int.toNat_zero, pow_zero, mul_one] at digits
    have equal : x = y := by
      cases x
      cases y
      simp_all
    rw [equal]

end Decimal

end ShardedSql.Numeric
