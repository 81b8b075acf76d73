import ShardedSql.Merge.SortKey
import ShardedSql.Merge.Insertion

/-!
Comparisons that agree. Turning a comparison of two values around reverses it, whatever the values
are; among values without floating-point numbers comparisons also chain. Main statements: decimals
compare as their digits at any common scale, exact values chain, and so do rows by their keys.
-/

namespace ShardedSql

open Numeric Sql

/-! ## Chains of comparisons -/

/-- Where neither of two comparisons in a row goes up, the one across both is the first of them, or
the second if the first finds no difference. -/
def Chains (ab bc ac : Ordering) : Prop :=
  ab ≠ .gt → bc ≠ .gt → ac = ab.then bc

namespace Chains

variable {ab bc ac ab' bc' ac' : Ordering}

/-- The second comparisons only matter where the first ones find no difference. -/
theorem refine_eq (first : Chains ab bc ac)
    (second : ab = .eq → bc = .eq → Chains ab' bc' ac') :
    Chains (ab.then ab') (bc.then bc') (ac.then ac') := by
  unfold Chains at *
  cases ab <;> cases bc <;> cases ab' <;> simp_all

theorem backwards (chains : Chains ab bc ac) : Chains bc ab ac := by
  unfold Chains at *
  cases ab <;> cases bc <;> simp_all

theorem le (chains : Chains ab bc ac) (first : ab ≠ .gt) (second : bc ≠ .gt) : ac ≠ .gt := by
  rw [chains first second]
  cases ab <;> cases bc <;> simp_all

end Chains

theorem chains_of_transCmp {α : Type} {cmp : α → α → Ordering} [Std.TransCmp cmp] {a b c : α} :
    Chains (cmp a b) (cmp b c) (cmp a c) := by
  intro first second
  cases ab : cmp a b with
  | lt => exact Std.TransCmp.lt_of_lt_of_isLE ab (by cases bc : cmp b c <;> simp_all)
  | eq => simp [Std.TransCmp.congr_left ab]
  | gt => exact absurd ab first

/-! ## Decimals -/

namespace Numeric.Decimal

variable {d x y : Decimal} {scale finer : Int}

theorem digitsAt_of_le (le : d.scale ≤ scale) (finer_le : scale ≤ finer) :
    d.digitsAt finer = d.digitsAt scale * 10 ^ (finer - scale).toNat := by
  by_cases zero : d.digits = 0
  · simp [digitsAt, zero]
  · have split : (finer - d.scale).toNat = (scale - d.scale).toNat + (finer - scale).toNat := by
      omega
    simp only [digitsAt, zero, ↓reduceIte]
    rw [split, Int.pow_add, Int.mul_assoc]

theorem sign_digitsAt : (d.digitsAt scale).sign = d.digits.sign := by
  unfold digitsAt
  split
  next zero => simp [zero]
  next =>
    have unit : (0 : Int) < 10 ^ (scale - d.scale).toNat := Int.pow_pos (by decide)
    rw [Int.sign_mul, Int.sign_eq_one_of_pos unit, Int.mul_one]

/-- The first digit of a number at a scale stands where its leading place says. -/
theorem natAbs_digitsAt_bounds (nonzero : d.digits ≠ 0) (le : d.scale ≤ scale) :
    10 ^ (d.leadingPlace + scale - 1).toNat ≤ (d.digitsAt scale).natAbs ∧
      (d.digitsAt scale).natAbs < 10 ^ (d.leadingPlace + scale).toNat := by
  have places := @Nat.length_toDigits_pos 10 d.digits.natAbs
  obtain ⟨k, digits⟩ : ∃ k, (Nat.toDigits 10 d.digits.natAbs).length = k + 1 :=
    ⟨_, (Nat.succ_pred_eq_of_pos places).symm⟩
  have above : d.digits.natAbs < 10 ^ (k + 1) :=
    (Nat.length_toDigits_le_iff (by decide) (by omega)).mp (by omega)
  have below : 10 ^ k ≤ d.digits.natAbs := by
    cases k with
    | zero => exact Int.natAbs_pos.mpr nonzero
    | succ k =>
        apply Nat.le_of_not_lt
        intro less
        have := (Nat.length_toDigits_le_iff (b := 10) (by decide) (Nat.succ_pos k)).mpr less
        omega
  have shift : (d.digitsAt scale).natAbs = d.digits.natAbs * 10 ^ (scale - d.scale).toNat := by
    simp [digitsAt, nonzero, Int.natAbs_mul, Int.natAbs_pow]
  have low : (d.leadingPlace + scale - 1).toNat = k + (scale - d.scale).toNat := by
    simp only [leadingPlace, digits]
    omega
  have high : (d.leadingPlace + scale).toNat = k + 1 + (scale - d.scale).toNat := by
    simp only [leadingPlace, digits]
    omega
  rw [shift, low, high, Nat.pow_add, Nat.pow_add]
  exact ⟨Nat.mul_le_mul_right _ below, Nat.mul_lt_mul_of_pos_right above (Nat.pow_pos (by decide))⟩

/-- Of two positive numbers, the one whose first digit stands further left is larger. -/
theorem natAbs_digitsAt_lt (nonzero : y.digits ≠ 0) (x_nonzero : x.digits ≠ 0)
    (x_le : x.scale ≤ scale) (y_le : y.scale ≤ scale) (places : x.leadingPlace < y.leadingPlace) :
    (x.digitsAt scale).natAbs < (y.digitsAt scale).natAbs := by
  have above := (natAbs_digitsAt_bounds x_nonzero x_le).2
  have below := (natAbs_digitsAt_bounds nonzero y_le).1
  have apart : 10 ^ (x.leadingPlace + scale).toNat ≤ 10 ^ (y.leadingPlace + scale - 1).toNat :=
    Nat.pow_le_pow_right (by decide) (by omega)
  omega

theorem digitsAt_lt (signs : x.digits.sign = y.digits.sign) (x_le : x.scale ≤ scale)
    (y_le : y.scale ≤ scale)
    (places : x.digits.sign * x.leadingPlace < y.digits.sign * y.leadingPlace) :
    x.digitsAt scale < y.digitsAt scale := by
  have x_sign := @sign_digitsAt x scale
  have y_sign := @sign_digitsAt y scale
  -- Of two negative numbers the one with more places is smaller, so the sides change.
  rcases Int.lt_trichotomy x.digits 0 with negative | zero | positive
  · have x_is : x.digits.sign = -1 := Int.sign_eq_neg_one_of_neg negative
    have y_negative : y.digits < 0 := Int.sign_eq_neg_one_iff_neg.mp (by omega)
    have further : y.leadingPlace < x.leadingPlace := by
      rw [← signs, x_is] at places
      omega
    have apart := natAbs_digitsAt_lt (by omega) (by omega) y_le x_le further
    have x_down : x.digitsAt scale < 0 := Int.sign_eq_neg_one_iff_neg.mp (by omega)
    have y_down : y.digitsAt scale < 0 := Int.sign_eq_neg_one_iff_neg.mp (by omega)
    omega
  · rw [← signs, zero] at places
    simp at places
  · have x_is : x.digits.sign = 1 := Int.sign_eq_one_of_pos positive
    have y_positive : 0 < y.digits := Int.sign_eq_one_iff_pos.mp (by omega)
    have further : x.leadingPlace < y.leadingPlace := by
      rw [← signs, x_is] at places
      omega
    have apart := natAbs_digitsAt_lt (by omega) (by omega) x_le y_le further
    have x_up : 0 < x.digitsAt scale := Int.sign_eq_one_iff_pos.mp (by omega)
    have y_up : 0 < y.digitsAt scale := Int.sign_eq_one_iff_pos.mp (by omega)
    omega

theorem lt_of_sign_lt {m n : Int} (less : m.sign < n.sign) : m < n := by
  rcases Int.lt_trichotomy m 0 with side | side | side <;>
    rcases Int.lt_trichotomy n 0 with other | other | other <;>
    simp_all [Int.sign_eq_neg_one_of_neg, Int.sign_eq_one_of_pos] <;> omega

theorem compare_mul_right {m n unit : Int} (positive : 0 < unit) :
    compare (m * unit) (n * unit) = compare m n := by
  cases side : compare m n with
  | lt =>
      rw [Int.compare_eq_lt] at *
      exact Int.mul_lt_mul_of_pos_right side positive
  | eq =>
      rw [Int.compare_eq_eq] at *
      rw [side]
  | gt =>
      rw [Int.compare_eq_gt] at *
      exact Int.mul_lt_mul_of_pos_right side positive

/-- Decimals compare as their digits at any scale that is fine enough for both. -/
theorem order_eq_compare (x_le : x.scale ≤ scale) (y_le : y.scale ≤ scale) :
    x.order y = compare (x.digitsAt scale) (y.digitsAt scale) := by
  have x_sign := @sign_digitsAt x scale
  have y_sign := @sign_digitsAt y scale
  unfold order
  cases signs : compare x.digits.sign y.digits.sign with
  | lt =>
      rw [Int.compare_eq_lt] at signs
      exact (Int.compare_eq_lt.mpr (lt_of_sign_lt (by omega))).symm
  | gt =>
      rw [Int.compare_eq_gt] at signs
      exact (Int.compare_eq_gt.mpr (lt_of_sign_lt (by omega))).symm
  | eq =>
      rw [Int.compare_eq_eq] at signs
      unfold orderAlike
      cases places : compare (x.digits.sign * x.leadingPlace) (y.digits.sign * y.leadingPlace) with
      | eq =>
          have finer := Int.max_le.mpr ⟨x_le, y_le⟩
          simp only
          rw [digitsAt_of_le (Int.le_max_left x.scale y.scale) finer,
            digitsAt_of_le (Int.le_max_right x.scale y.scale) finer,
            compare_mul_right (Int.pow_pos (by decide))]
      | lt =>
          rw [Int.compare_eq_lt] at places
          exact (Int.compare_eq_lt.mpr (digitsAt_lt signs x_le y_le places)).symm
      | gt =>
          rw [Int.compare_eq_gt] at places
          exact (Int.compare_eq_gt.mpr (digitsAt_lt signs.symm y_le x_le places)).symm

theorem order_swap (x y : Decimal) : y.order x = (x.order y).swap := by
  rw [order_eq_compare (Int.le_max_left x.scale y.scale) (Int.le_max_right x.scale y.scale),
    order_eq_compare (Int.le_max_right x.scale y.scale) (Int.le_max_left x.scale y.scale),
    Int.compare_swap]

theorem order_chains (x y z : Decimal) : Chains (x.order y) (y.order z) (x.order z) := by
  let scale := max (max x.scale y.scale) z.scale
  have x_le : x.scale ≤ scale := by omega
  have y_le : y.scale ≤ scale := by omega
  have z_le : z.scale ≤ scale := by omega
  rw [order_eq_compare x_le y_le, order_eq_compare y_le z_le, order_eq_compare x_le z_le]
  exact chains_of_transCmp

theorem order_ofInt (m n : Int) : (ofInt m).order (ofInt n) = compare m n := by
  have unscaled (k : Int) : (ofInt k).scale ≤ 0 := by simp [ofInt]
  rw [order_eq_compare (unscaled m) (unscaled n)]
  have digits (k : Int) : (ofInt k).digitsAt 0 = k := by
    simp [ofInt, digitsAt, eq_comm]
  rw [digits, digits]

end Numeric.Decimal

/-! ## Values -/

namespace Quantity

/-- The decimal that a number without floating point is. -/
def decimal? : Quantity → Option Decimal
  | .integer n => some (.ofInt n)
  | .decimal d => some d
  | .floating _ => none

theorem order_swap (x y : Quantity) : y.order x = (x.order y).swap := by
  cases x <;> cases y <;>
    first
    | exact (Int.compare_swap _ _).symm
    | exact Decimal.order_swap _ _

theorem order_eq_decimal {x y : Quantity} {c d : Decimal} (x_exact : x.decimal? = some c)
    (y_exact : y.decimal? = some d) : x.order y = c.order d := by
  cases x <;> cases y <;> simp_all [decimal?, order]
  subst x_exact y_exact
  rw [Decimal.order_ofInt]

end Quantity

namespace Value

mutual

/-- Whether there is no floating-point number in a value. -/
def isExact : Value → Bool
  | .single _ => false
  | .double _ => false
  | .list items => allExact items
  | _ => true

def allExact : List Value → Bool
  | [] => true
  | v :: rest => v.isExact && allExact rest

end

variable {a b c : Value}

instance : Std.TransCmp fun s t : String => compareOfLessAndEq s t :=
  Std.TransOrd.compareOfLessAndEq_of_antisymm_of_trans_of_total_of_not_le
    String.le_antisymm String.le_trans String.le_total String.not_le

instance : Std.TransCmp fun s t : List UInt8 => compareOfLessAndEq s t :=
  Std.TransOrd.compareOfLessAndEq_of_antisymm_of_trans_of_total_of_not_le
    List.le_antisymm List.le_trans List.le_total List.not_le

/-- Values of different kinds compare by their kinds. -/
theorem plainOrder_of_rank_ne (apart : a.rank ≠ b.rank) :
    plainOrder a b = compare a.rank b.rank := by
  cases a <;> cases b <;> first | exact absurd rfl apart | rfl

theorem plainOrder_eq_then (a b : Value) :
    plainOrder a b = (compare a.rank b.rank).then (plainOrder a b) := by
  by_cases same : a.rank = b.rank
  · simp [Nat.compare_eq_eq.mpr same]
  · simp [plainOrder_of_rank_ne same]

theorem plainOrder_swap (a b : Value) : plainOrder b a = (plainOrder a b).swap := by
  by_cases same : a.rank = b.rank
  · cases a <;> cases b <;>
      first
      | exact absurd same (by decide)
      | exact Quantity.order_swap _ _
      | exact (Int.compare_swap _ _).symm
      | exact (Nat.compare_swap _ _).symm
      | exact Decimal.order_swap _ _
      | exact @Std.OrientedCmp.eq_swap _ (fun s t : String => compareOfLessAndEq s t) _ _ _
      | exact @Std.OrientedCmp.eq_swap _ (fun s t : List UInt8 => compareOfLessAndEq s t) _ _ _
  · rw [plainOrder_of_rank_ne same, plainOrder_of_rank_ne (Ne.symm same), Nat.compare_swap]

/-- The number that an exact number is, as a decimal. -/
theorem exists_decimal (number : a.rank = 2) (exact_a : a.isExact = true) :
    ∃ x d, Quantity.ofValue? a = some x ∧ x.decimal? = some d := by
  cases a <;> simp_all [rank, isExact, Quantity.ofValue?, Quantity.decimal?]

/-- A day or a moment is no number and stands for a moment. -/
theorem exists_moment (moment : a.rank = 5) :
    Quantity.ofValue? a = none ∧ ∃ m, a.moment? = some m := by
  cases a <;> simp_all [rank, Quantity.ofValue?, moment?]

theorem eq_null (kind : a.rank = 0) : a = .null := by
  cases a <;> simp_all [rank]

theorem eq_bool (kind : a.rank = 1) : ∃ p, a = .bool p := by
  cases a <;> simp_all [rank]

theorem eq_text (kind : a.rank = 3) : ∃ s, a = .text s := by
  cases a <;> simp_all [rank]

theorem eq_bytes (kind : a.rank = 4) : ∃ content, a = .bytes content := by
  cases a <;> simp_all [rank]

theorem eq_list (kind : a.rank = 6) : ∃ items, a = .list items := by
  cases a <;> simp_all [rank]

theorem plainOrder_chains (exact_a : a.isExact = true) (exact_b : b.isExact = true)
    (exact_c : c.isExact = true) : Chains (plainOrder a b) (plainOrder b c) (plainOrder a c) := by
  rw [plainOrder_eq_then a b, plainOrder_eq_then b c, plainOrder_eq_then a c]
  refine Chains.refine_eq chains_of_transCmp fun ab bc => ?_
  rw [Nat.compare_eq_eq] at ab bc
  have b_kind : b.rank = a.rank := ab.symm
  have c_kind : c.rank = a.rank := by rw [← bc, b_kind]
  -- All three are of one kind from here on.
  by_cases number : a.rank = 2
  · obtain ⟨x, d, x_is, d_is⟩ := exists_decimal number exact_a
    obtain ⟨y, e, y_is, e_is⟩ := exists_decimal (b_kind.trans number) exact_b
    obtain ⟨z, f, z_is, f_is⟩ := exists_decimal (c_kind.trans number) exact_c
    simp only [plainOrder, x_is, y_is, z_is, Quantity.order_eq_decimal d_is e_is,
      Quantity.order_eq_decimal e_is f_is, Quantity.order_eq_decimal d_is f_is]
    exact Decimal.order_chains d e f
  by_cases moment : a.rank = 5
  · obtain ⟨a_none, l, l_is⟩ := exists_moment moment
    obtain ⟨b_none, m, m_is⟩ := exists_moment (b_kind.trans moment)
    obtain ⟨c_none, n, n_is⟩ := exists_moment (c_kind.trans moment)
    simp only [plainOrder, a_none, b_none, l_is, m_is, n_is]
    exact chains_of_transCmp
  cases a with
  | null =>
      rw [eq_null b_kind, eq_null c_kind]
      intro _ _
      rfl
  | bool p =>
      obtain ⟨q, rfl⟩ := eq_bool b_kind
      obtain ⟨r, rfl⟩ := eq_bool c_kind
      exact @chains_of_transCmp _ (fun m n : Nat => compare m n) _ p.toNat q.toNat r.toNat
  | text s =>
      obtain ⟨t, rfl⟩ := eq_text b_kind
      obtain ⟨u, rfl⟩ := eq_text c_kind
      exact @chains_of_transCmp _ (fun s t : String => compareOfLessAndEq s t) _ s t u
  | bytes x =>
      obtain ⟨y, rfl⟩ := eq_bytes b_kind
      obtain ⟨z, rfl⟩ := eq_bytes c_kind
      exact @chains_of_transCmp _ (fun s t : List UInt8 => compareOfLessAndEq s t) _ x y z
  | list _ =>
      obtain ⟨_, rfl⟩ := eq_list b_kind
      obtain ⟨_, rfl⟩ := eq_list c_kind
      intro _ _
      rfl
  | integer _ => exact absurd rfl number
  | single _ => exact absurd rfl number
  | double _ => exact absurd rfl number
  | decimal _ => exact absurd rfl number
  | date _ => exact absurd rfl moment
  | dateTime _ => exact absurd rfl moment

theorem order_eq_plainOrder (apart : a.rank ≠ 6 ∨ b.rank ≠ 6) : a.order b = plainOrder a b := by
  rw [order.eq_2]
  rintro as bs rfl rfl
  simp [rank] at apart

theorem order_eq_then (a b : Value) :
    a.order b = (compare a.rank b.rank).then (a.order b) := by
  by_cases same : a.rank = b.rank
  · simp [Nat.compare_eq_eq.mpr same]
  · rw [order_eq_plainOrder (by omega), ← plainOrder_eq_then]

mutual

theorem order_swap (a b : Value) : b.order a = (a.order b).swap := by
  by_cases lists : a.rank = 6 ∧ b.rank = 6
  · obtain ⟨as, rfl⟩ := eq_list lists.1
    obtain ⟨bs, rfl⟩ := eq_list lists.2
    simpa only [order] using orderAll_swap as bs
  · rw [order_eq_plainOrder (by omega), order_eq_plainOrder (by omega), plainOrder_swap]

theorem orderAll_swap (as bs : List Value) : orderAll bs as = (orderAll as bs).swap := by
  match as, bs with
  | [], [] => rfl
  | [], _ :: _ => rfl
  | _ :: _, [] => rfl
  | a :: as, b :: bs =>
      rw [orderAll, orderAll, order_swap a b, orderAll_swap as bs, Ordering.swap_then]

end

mutual

/-- Comparisons of exact values chain. -/
theorem order_chains {a b c : Value} (exact_a : a.isExact = true) (exact_b : b.isExact = true)
    (exact_c : c.isExact = true) : Chains (a.order b) (b.order c) (a.order c) := by
  rw [order_eq_then a b, order_eq_then b c, order_eq_then a c]
  refine Chains.refine_eq chains_of_transCmp fun ab bc => ?_
  rw [Nat.compare_eq_eq] at ab bc
  by_cases list : a.rank = 6
  · obtain ⟨as, rfl⟩ := eq_list list
    obtain ⟨bs, rfl⟩ := eq_list (ab.symm.trans list)
    obtain ⟨cs, rfl⟩ := eq_list (bc.symm.trans (ab.symm.trans list))
    simp only [isExact] at exact_a exact_b exact_c
    simpa only [order] using orderAll_chains exact_a exact_b exact_c
  · rw [order_eq_plainOrder (by omega), order_eq_plainOrder (by omega),
      order_eq_plainOrder (by omega)]
    exact plainOrder_chains exact_a exact_b exact_c

theorem orderAll_chains {as bs cs : List Value} (exact_a : allExact as = true)
    (exact_b : allExact bs = true) (exact_c : allExact cs = true) :
    Chains (orderAll as bs) (orderAll bs cs) (orderAll as cs) := by
  match as, bs, cs with
  | [], [], _ => exact fun _ _ => rfl
  | [], _ :: _, [] => exact fun _ above => absurd rfl above
  | [], _ :: _, _ :: _ => exact fun _ _ => rfl
  | _ :: _, [], _ => exact fun above => absurd rfl above
  | _ :: _, _ :: _, [] => exact fun _ above => absurd rfl above
  | a :: as, b :: bs, c :: cs =>
      simp only [allExact, Bool.and_eq_true] at exact_a exact_b exact_c
      simp only [orderAll]
      exact (order_chains exact_a.1 exact_b.1 exact_c.1).refine_eq
        fun _ _ => orderAll_chains exact_a.2 exact_b.2 exact_c.2

end

end Value

/-! ## Rows by their keys -/

namespace SortKey

theorem compare_swap (key : SortKey) (a b : Value) : key.compare b a = (key.compare a b).swap := by
  unfold compare
  split <;> exact Value.order_swap _ _

theorem compareAll_swap (keys : List SortKey) (as bs : List Value) :
    compareAll keys bs as = (compareAll keys as bs).swap := by
  induction keys generalizing as bs with
  | nil => rfl
  | cons key keys ih =>
      cases as <;> cases bs <;> try rfl
      rw [compareAll, compareAll, compare_swap, ih, Ordering.swap_then]

/-- Rows chain by exact values of all their keys. -/
theorem compareAll_chains {keys : List SortKey} {as bs cs : List Value}
    (full : as.length = keys.length ∧ bs.length = keys.length ∧ cs.length = keys.length)
    (exact_a : ∀ v ∈ as, v.isExact = true) (exact_b : ∀ v ∈ bs, v.isExact = true)
    (exact_c : ∀ v ∈ cs, v.isExact = true) :
    Chains (compareAll keys as bs) (compareAll keys bs cs) (compareAll keys as cs) := by
  induction keys generalizing as bs cs with
  | nil => exact fun _ _ => rfl
  | cons key keys ih =>
      match as, bs, cs with
      | a :: as, b :: bs, c :: cs =>
          simp only [List.length_cons, Nat.add_right_cancel_iff] at full
          simp only [List.mem_cons, forall_eq_or_imp] at exact_a exact_b exact_c
          simp only [compareAll]
          refine Chains.refine_eq ?_ fun _ _ => ih full exact_a.2 exact_b.2 exact_c.2
          unfold compare
          cases key.direction with
          | ascending => exact Value.order_chains exact_a.1 exact_b.1 exact_c.1
          | descending => exact (Value.order_chains exact_c.1 exact_b.1 exact_a.1).backwards

end SortKey

end ShardedSql
