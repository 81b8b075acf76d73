import ShardedSql.Proofs.Suffixes
import ShardedSql.Proofs.WrittenDecimals

/-!
Keys that are the same value in other words, where each row lives in the shard that the text of its
key names. Main statement: two exact values that compare as equal live in the same shard exactly if
their texts show as many places, and both show a time of day or neither does.
-/

namespace ShardedSql

open Numeric

/-! ## Moments -/

theorem TimeOfDay.ordinal_injective {s t : TimeOfDay} (same : s.ordinal = t.ordinal) : s = t := by
  obtain ⟨h, m, sec, n, hour, minute, second, nano⟩ := s
  obtain ⟨h', m', sec', n', hour', minute', second', nano'⟩ := t
  simp only [ordinal] at same
  obtain rfl : n = n' := by omega
  obtain rfl : sec = sec' := by omega
  obtain rfl : m = m' := by omega
  obtain rfl : h = h' := by omega
  rfl

theorem DateTime.ordinal_injective {l m : DateTime} (same : l.ordinal = m.ordinal) : l = m := by
  have first := l.time.ordinal_lt
  have second := m.time.ordinal_lt
  simp only [ordinal, TimeOfDay.dayLength] at same first second
  have dates : l.date = m.date := Date.ordinal_injective (by omega)
  have times : l.time = m.time := TimeOfDay.ordinal_injective (by rw [dates] at same; omega)
  cases l
  cases m
  simp_all

/-- The time of day stands behind the day. -/
theorem DateTime.text_ne_date (d : Date) (m : DateTime) (same : m.date = d) : d.text ≠ m.text := by
  intro equal
  have lengths := congrArg String.length equal
  simp only [text, same, String.length_append] at lengths
  have blank : " ".length = 1 := by decide
  omega

namespace Value

/-- The places that the text of a value shows. -/
def shownScale : Value → Int
  | .decimal d => d.shownScale
  | _ => 0

/-- Whether the text of a value shows a time of day. -/
def showsTime : Value → Bool
  | .dateTime _ => true
  | _ => false

variable {a b : Value}

/-- An exact number is written as the decimal that it is. -/
theorem display_of_decimal {x : Quantity} {d : Decimal} (number : Quantity.ofValue? a = some x)
    (exact_x : x.decimal? = some d) :
    a.display = d.text ∧ a.shownScale = d.shownScale ∧ a.showsTime = false := by
  cases a with
  | integer n =>
      cases number
      cases exact_x
      rw [Decimal.text_ofInt, Decimal.shownScale_ofInt]
      exact ⟨by rw [display], rfl, rfl⟩
  | decimal d =>
      cases number
      cases exact_x
      exact ⟨by rw [display], rfl, rfl⟩
  | _ => first | cases number; cases exact_x | cases number

theorem rank_eq_of_order (same : a.order b = .eq) : a.rank = b.rank := by
  rw [order_eq_then, Ordering.then_eq_eq] at same
  exact Nat.compare_eq_eq.mp same.1

theorem isNull_eq_decide (v : Value) : v.isNull = decide (v.rank = 0) := by
  cases v <;> rfl

theorem eq_of_compareOfLessAndEq {α : Type} [LT α] [DecidableLT α] [DecidableEq α] {x y : α}
    (same : compareOfLessAndEq x y = .eq) : x = y := by
  unfold compareOfLessAndEq at same
  split at same
  · cases same
  · split at same
    · assumption
    · cases same

/-- A day and its first moment are equal, but no day is written as a moment. -/
theorem display_eq_iff_of_moment {m : DateTime} (a_moment : a.moment? = some m)
    (b_moment : b.moment? = some m) : a.display = b.display ↔ a.showsTime = b.showsTime := by
  cases a with
  | date d =>
      cases a_moment
      cases b with
      | date e =>
          cases b_moment
          exact iff_of_true rfl rfl
      | dateTime n =>
          cases b_moment
          refine iff_of_false ?_ (by simp [showsTime])
          rw [display, display]
          exact DateTime.text_ne_date d (.atMidnight d) rfl
      | _ => cases b_moment
  | dateTime l =>
      cases a_moment
      cases b with
      | date e =>
          cases b_moment
          refine iff_of_false ?_ (by simp [showsTime])
          rw [display, display]
          exact (DateTime.text_ne_date e (.atMidnight e) rfl).symm
      | dateTime n =>
          cases b_moment
          exact iff_of_true rfl rfl
      | _ => cases b_moment
  | _ => cases a_moment

/-- Values that are neither numbers nor moments are equal only to themselves. -/
theorem eq_of_plainOrder (same : plainOrder a b = .eq) (kinds : a.rank = b.rank)
    (number : a.rank ≠ 2) (moment : a.rank ≠ 5) (single : a.rank ≠ 6) : a = b := by
  cases a with
  | null => exact (eq_null kinds.symm).symm
  | bool p =>
      obtain ⟨q, rfl⟩ := eq_bool kinds.symm
      cases p <;> cases q <;> first | rfl | cases same
  | text s =>
      obtain ⟨t, rfl⟩ := eq_text kinds.symm
      rw [eq_of_compareOfLessAndEq (x := s) (y := t) same]
  | bytes content =>
      obtain ⟨other, rfl⟩ := eq_bytes kinds.symm
      rw [eq_of_compareOfLessAndEq (x := content) (y := other) same]
  | list _ => exact absurd rfl single
  | date _ => exact absurd rfl moment
  | dateTime _ => exact absurd rfl moment
  | _ => exact absurd rfl number

theorem display_eq_iff (exact_a : a.isExact = true) (exact_b : b.isExact = true)
    (same : a.order b = .eq) (single : a.rank ≠ 6) :
    a.display = b.display ↔ a.shownScale = b.shownScale ∧ a.showsTime = b.showsTime := by
  have kinds := rank_eq_of_order same
  rw [order_eq_plainOrder (.inl single)] at same
  -- Only numbers and moments have several texts.
  by_cases number : a.rank = 2
  · obtain ⟨x, c, x_is, c_is⟩ := exists_decimal number exact_a
    obtain ⟨y, d, y_is, d_is⟩ := exists_decimal (kinds ▸ number) exact_b
    obtain ⟨a_text, a_scale, a_time⟩ := display_of_decimal x_is c_is
    obtain ⟨b_text, b_scale, b_time⟩ := display_of_decimal y_is d_is
    simp only [plainOrder, x_is, y_is, Quantity.order_eq_decimal c_is d_is,
      Decimal.order_eq_number, compare_eq_iff_eq] at same
    rw [a_text, b_text, a_scale, b_scale, a_time, b_time, Decimal.text_eq_iff same]
    simp
  by_cases moment : a.rank = 5
  · obtain ⟨a_none, l, l_is⟩ := exists_moment moment
    obtain ⟨b_none, m, m_is⟩ := exists_moment (kinds ▸ moment)
    simp only [plainOrder, a_none, b_none, l_is, m_is, Int.compare_eq_eq] at same
    obtain rfl := DateTime.ordinal_injective same
    rw [display_eq_iff_of_moment l_is m_is]
    have no_places {v : Value} (is : v.moment? = some l) : v.shownScale = 0 := by
      cases v <;> first | rfl | cases is
    simp [no_places l_is, no_places m_is]
  · rw [eq_of_plainOrder same kinds number moment single]
    simp

end Value

namespace Strategy

variable {column : String}

theorem singleton_inj {suffix other : String} : singleton suffix = singleton other ↔ suffix = other := by
  refine ⟨fun same => ?_, congrArg singleton⟩
  have member : suffix ∈ singleton other := same ▸ mem_singleton.mpr rfl
  exact mem_singleton.mp member

/-- Nothing lives in no shard, and any other single value in the one that its text names. -/
theorem suffixesFor_value {v : Value} {suffixes : NameSet}
    (accepted : (value column).suffixesFor v = .ok suffixes) :
    v.rank ≠ 6 ∧ suffixes = if v.isNull then ∅ else singleton v.display := by
  cases v <;> simp_all [suffixesFor, keyText?, Value.isNull, Value.rank]

/-- Where a row lives in the shard that its key names, two keys without floating point that are equal
and have shards have the same one exactly if they show as many places, and both a time of day or
none. -/
theorem suffixesFor_value_eq_iff (column : String) {a b : Value} {first second : NameSet}
    (exact_a : a.isExact = true) (exact_b : b.isExact = true) (same : a.order b = .eq)
    (left : (value column).suffixesFor a = .ok first)
    (right : (value column).suffixesFor b = .ok second) :
    first = second ↔ a.shownScale = b.shownScale ∧ a.showsTime = b.showsTime := by
  obtain ⟨single, rfl⟩ := suffixesFor_value left
  obtain ⟨_, rfl⟩ := suffixesFor_value right
  have kinds := Value.rank_eq_of_order same
  rw [Value.isNull_eq_decide, Value.isNull_eq_decide, ← kinds]
  by_cases nothing : a.rank = 0
  · obtain rfl := Value.eq_null nothing
    obtain rfl := Value.eq_null kinds.symm
    exact iff_of_true rfl ⟨rfl, rfl⟩
  · simp only [nothing, decide_false, Bool.false_eq_true, ↓reduceIte, singleton_inj]
    exact Value.display_eq_iff exact_a exact_b same single

/-- The decimal `2E+1` is written as the integer 20 is. -/
theorem suffixesFor_value_eq_of_whole :
    Value.order (.decimal ⟨2, -1⟩) (.integer (.ofInt64 20)) = .eq ∧
      (value "id").suffixesFor (.decimal ⟨2, -1⟩) =
        (value "id").suffixesFor (.integer (.ofInt64 20)) := by
  have same : Value.order (.decimal ⟨2, -1⟩) (.integer (.ofInt64 20)) = .eq := by decide +kernel
  have left : (value "id").suffixesFor (.decimal ⟨2, -1⟩) =
      .ok (singleton (Value.display (.decimal ⟨2, -1⟩))) := rfl
  have right : (value "id").suffixesFor (.integer (.ofInt64 20)) =
      .ok (singleton (Value.display (.integer (.ofInt64 20)))) := rfl
  refine ⟨same, ?_⟩
  rw [left, right, (suffixesFor_value_eq_iff "id" rfl rfl same left right).mpr ⟨rfl, rfl⟩]

/-- A row whose key is 2 is not found by the key 2.00. -/
theorem suffixesFor_value_splits :
    Value.order (.integer (.ofInt64 2)) (.decimal ⟨200, 2⟩) = .eq ∧
      (value "id").suffixesFor (.integer (.ofInt64 2)) = .ok (singleton "2") ∧
      (value "id").suffixesFor (.decimal ⟨200, 2⟩) = .ok (singleton "2.00") ∧
      singleton "2" ≠ singleton "2.00" := by
  refine ⟨by decide +kernel, ?_, ?_, by decide⟩ <;> with_unfolding_all rfl

end Strategy

end ShardedSql
