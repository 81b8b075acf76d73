import Mathlib
import ShardedSql.Merge.Insertion

/-!
Sorted lists compared by counting. The items of a sorted list that are not greater than some item
are its first ones, so their number says where that item may stand. Main statement: the first items
of a sorted union are those of the union of the first items of each of its sorted parts.
-/

namespace ShardedSql

variable {α : Type}

/-! ## Properties of the first items of a list -/

section Leading

variable {p : α → Bool} {items : List α}
  (leading : items.Pairwise fun a b => p b = true → p a = true)

include leading

theorem getElem_iff_lt_countP {i : Nat} (inside : i < items.length) :
    p items[i] = true ↔ i < items.countP p := by
  induction items generalizing i with
  | nil => simp at inside
  | cons first rest ih =>
      obtain ⟨first_of, rest_leading⟩ := List.pairwise_cons.mp leading
      by_cases holds : p first = true
      · cases i with
        | zero => simp [holds]
        | succ i => simp [holds, ih rest_leading]
      -- Behind an item without the property there is none that has it.
      · have none_behind : ∀ a ∈ rest, ¬ p a = true := fun a ha later => holds (first_of a ha later)
        rw [List.countP_cons_of_neg holds, List.countP_eq_zero.mpr none_behind]
        cases i with
        | zero => simp [holds]
        | succ i =>
            have within : i < rest.length := by simpa using inside
            simpa using none_behind rest[i] (List.getElem_mem within)

theorem countP_take (count : Nat) : (items.take count).countP p = min count (items.countP p) := by
  induction items generalizing count with
  | nil => simp
  | cons first rest ih =>
      obtain ⟨first_of, rest_leading⟩ := List.pairwise_cons.mp leading
      cases count with
      | zero => simp
      | succ count =>
          rw [List.take_succ_cons]
          by_cases holds : p first = true
          · rw [List.countP_cons_of_pos holds, List.countP_cons_of_pos holds,
              ih rest_leading, Nat.succ_min_succ]
          · have none_behind : rest.countP p = 0 :=
              List.countP_eq_zero.mpr fun a ha later => holds (first_of a ha later)
            rw [List.countP_cons_of_neg holds, List.countP_cons_of_neg holds, ih rest_leading,
              none_behind]
            simp

end Leading

/-! ## Items that are not greater -/

variable {order : α → α → Ordering}

/-- No item stands behind a greater one. -/
def Rising (order : α → α → Ordering) (items : List α) : Prop :=
  items.Pairwise fun a b => order a b ≠ .gt

/-- Whether the first item is not greater than the second. -/
def notAbove (order : α → α → Ordering) (x a : α) : Bool :=
  order a x != .gt

theorem Rising.leading {items : List α} {x : α} (rising : Rising order items)
    (agrees : OrderAgrees order (x :: items)) :
    items.Pairwise fun a b => notAbove order x b = true → notAbove order x a = true := by
  refine List.Pairwise.imp_of_mem ?_ rising
  intro a b ha hb below later
  simp only [notAbove, bne_iff_ne] at *
  exact agrees.trans a (by simp [ha]) b (by simp [hb]) x (by simp) below later

/-- Sorted lists are equal place by place up to a bound, if up to that bound as many items of both
are not greater than any one. -/
theorem forall₂_take_of_counts {left right : List α} {bound : Nat}
    (agrees : OrderAgrees order (left ++ right)) (left_rising : Rising order left)
    (right_rising : Rising order right)
    (lengths : (left.take bound).length = (right.take bound).length)
    (counts : ∀ x ∈ left ++ right, ∀ i < bound,
      i < left.countP (notAbove order x) ↔ i < right.countP (notAbove order x)) :
    List.Forall₂ (fun a b => order a b = .eq) (left.take bound) (right.take bound) := by
  refine List.forall₂_iff_get.mpr ⟨lengths, fun i left_inside right_inside => ?_⟩
  simp only [List.length_take, Nat.lt_min] at left_inside right_inside
  simp only [List.get_eq_getElem, List.getElem_take]
  have left_in : left[i] ∈ left ++ right := by simp [List.getElem_mem]
  have right_in : right[i] ∈ left ++ right := by simp [List.getElem_mem]
  -- Whether the items at a place are above some item is a matter of the counts at that place.
  have le (x : α) (x_in : x ∈ left ++ right) :
      notAbove order x left[i] = true ↔ notAbove order x right[i] = true := by
    have left_agrees : OrderAgrees order (x :: left) := agrees.of_subset (by grind)
    have right_agrees : OrderAgrees order (x :: right) := agrees.of_subset (by grind)
    rw [getElem_iff_lt_countP (left_rising.leading left_agrees),
      getElem_iff_lt_countP (right_rising.leading right_agrees), counts x x_in i left_inside.1]
  have level (a : α) (a_in : a ∈ left ++ right) : notAbove order a a = true := by
    have turned := agrees.swap a a_in a a_in
    cases same : order a a <;> simp_all [notAbove]
  -- Compared with each other, neither of the two is above the other one.
  have forth := (le right[i] right_in).mpr (level _ right_in)
  have back := (le left[i] left_in).mp (level _ left_in)
  simp only [notAbove, bne_iff_ne, agrees.swap left[i] left_in right[i] right_in] at forth back
  cases same : order left[i] right[i] <;> simp_all

/-! ## First items of a union -/

theorem lt_sum_min_iff {bound i : Nat} (below : i < bound) (sizes : List Nat) :
    i < (sizes.map (min bound)).sum ↔ i < sizes.sum := by
  induction sizes generalizing i with
  | nil => simp
  | cons size sizes ih =>
      simp only [List.map_cons, List.sum_cons]
      by_cases small : i < size
      · omega
      · have rest := ih (i := i - size) (by omega)
        omega

theorem length_take_flatten (parts : List (List α)) (bound : Nat) :
    ((parts.map (·.take bound)).flatten.take bound).length =
      (parts.flatten.take bound).length := by
  have below (i : Nat) (less : i < bound) := lt_sum_min_iff less (parts.map List.length)
  simp only [List.length_take, List.length_flatten, List.map_map, Function.comp_def] at *
  -- The smaller of the two lengths would be a place that is below one sum and not below the other.
  by_contra apart
  have := below (min bound (parts.map fun part => min bound part.length).sum)
  have := below (min bound (parts.map List.length).sum)
  omega

/-- The first items of a sorted union are those of the union of the first items of its parts. -/
theorem forall₂_take_union {parts : List (List α)} {firsts whole : List α} {bound : Nat}
    (agrees : OrderAgrees order parts.flatten) (parts_rising : ∀ part ∈ parts, Rising order part)
    (firsts_rising : Rising order firsts)
    (firsts_perm : firsts.Perm (parts.map (·.take bound)).flatten)
    (whole_rising : Rising order whole) (whole_perm : whole.Perm parts.flatten) :
    List.Forall₂ (fun a b => order a b = .eq) (firsts.take bound) (whole.take bound) := by
  have firsts_in : ∀ a ∈ firsts, a ∈ parts.flatten := by
    intro a ha
    have taken := firsts_perm.mem_iff.mp ha
    simp only [List.mem_flatten, List.mem_map] at taken ⊢
    obtain ⟨_, ⟨part, part_in, rfl⟩, a_in⟩ := taken
    exact ⟨part, part_in, List.mem_of_mem_take a_in⟩
  have inside : ∀ a ∈ firsts ++ whole, a ∈ parts.flatten := by
    intro a ha
    rcases List.mem_append.mp ha with ha | ha
    · exact firsts_in a ha
    · exact whole_perm.mem_iff.mp ha
  refine forall₂_take_of_counts (agrees.of_subset inside) firsts_rising whole_rising ?_ ?_
  · have lengths := length_take_flatten parts bound
    simp only [List.length_take, firsts_perm.length_eq, whole_perm.length_eq] at *
    exact lengths
  · intro x x_in i below
    -- A part sorts what is not above `x` to its front, so that cutting it cuts the count.
    have each : ∀ part ∈ parts, (part.take bound).countP (notAbove order x) =
        min bound (part.countP (notAbove order x)) := by
      intro part part_in
      refine countP_take ((parts_rising part part_in).leading (agrees.of_subset ?_)) bound
      intro a ha
      rcases List.mem_cons.mp ha with rfl | ha
      · exact inside a x_in
      · exact List.mem_flatten.mpr ⟨part, part_in, ha⟩
    have sums := lt_sum_min_iff below (parts.map (List.countP (notAbove order x)))
    rw [firsts_perm.countP_eq, whole_perm.countP_eq, List.countP_flatten, List.countP_flatten,
      ← sums]
    simp only [List.map_map, Function.comp_def]
    rw [List.map_congr_left each]

end ShardedSql
