import ShardedSql.Merge.Insertion
import ShardedSql.Merge.RunSort

/-!
The sort of the ordered rows. It keeps the order of equal items, and where comparisons agree with
one another it is insertion. Comparisons that contradict one another leave no list sorted; short
lists are then what insertion makes of them, and long ones what sorting by runs does. Main
statements: where comparisons agree, the sort is insertion, and so it rearranges.
-/

namespace ShardedSql

variable {α : Type}

/-- The items behind `last` with their ranks; a rank goes up wherever an item is greater than the
one before. -/
def ranksFrom (order : α → α → Ordering) (last : α) (rank : Nat) : List α → List (α × Nat)
  | [] => []
  | item :: rest =>
      let next := if order last item = .lt then rank + 1 else rank
      (item, next) :: ranksFrom order item next rest

def ranked (order : α → α → Ordering) : List α → List (α × Nat)
  | [] => []
  | first :: rest => (first, 0) :: ranksFrom order first 0 rest

/-- Whether any two items compare as their ranks do. -/
def ranksHold (order : α → α → Ordering) : List (α × Nat) → Bool
  | [] => true
  | (a, r) :: rest =>
      rest.all (fun (b, s) => order a b == compare r s && order b a == compare s r)
        && ranksHold order rest

/-- The longest list that is sorted by insertion alone. -/
def insertionLength : Nat := 20

def stableSort (order : α → α → Ordering) (items : List α) : List α :=
  let sorted := insertionSort order items
  if items.length ≤ insertionLength || ranksHold order (ranked order sorted) then sorted
  else (RunSort.sort order items).getD sorted

/-! ## Comparisons that agree -/

variable {order : α → α → Ordering}

theorem compare_succ_of_le {r k : Nat} (le : r ≤ k) : compare r (k + 1) = .lt := by
  rw [Nat.compare_eq_lt]
  omega

/-- An item compares with all those behind it as their ranks do. -/
theorem ranksFrom_compare {items : List α} {a last : α} {r k : Nat}
    (agrees : OrderAgrees order (a :: last :: items))
    (rising : (last :: items).Pairwise fun x y => order x y ≠ .gt)
    (le : r ≤ k) (start : order a last = compare r k) :
    ∀ entry ∈ ranksFrom order last k items,
      entry.1 ∈ items ∧ order a entry.1 = compare r entry.2 := by
  induction items generalizing last k with
  | nil => simp [ranksFrom]
  | cons item rest ih =>
      obtain ⟨first_le, rest_rising⟩ := List.pairwise_cons.mp rising
      have item_le := first_le item (by simp)
      have a_le : order a last ≠ .gt := by
        rw [start, Ne, Nat.compare_eq_gt]
        omega
      have a_in : a ∈ a :: last :: item :: rest := by simp
      have last_in : last ∈ a :: last :: item :: rest := by simp
      have item_in : item ∈ a :: last :: item :: rest := by simp
      have inside : ∀ b ∈ a :: item :: rest, b ∈ a :: last :: item :: rest := by
        intro b hb
        rcases List.mem_cons.mp hb with rfl | hb <;> simp_all
      intro entry member
      simp only [ranksFrom] at member
      split at member
      next above =>
        have here : order a item = compare r (k + 1) := by
          rw [compare_succ_of_le le]
          exact agrees.lt_of_le_of_lt a_in last_in item_in a_le above
        rcases List.mem_cons.mp member with rfl | member
        · exact ⟨by simp, here⟩
        · obtain ⟨within, same⟩ :=
            ih (agrees.of_subset inside) rest_rising (by omega) here entry member
          exact ⟨List.mem_cons_of_mem item within, same⟩
      next level =>
        have equal : order last item = .eq := by
          cases same : order last item <;> simp_all
        have here : order a item = compare r k := by
          rw [← start]
          cases same : order a last with
          | eq => exact agrees.eq_trans a_in last_in item_in same equal
          | lt => exact agrees.lt_of_lt_of_le a_in last_in item_in same (by simp [equal])
          | gt => exact absurd same a_le
        rcases List.mem_cons.mp member with rfl | member
        · exact ⟨by simp, here⟩
        · obtain ⟨within, same⟩ := ih (agrees.of_subset inside) rest_rising le here entry member
          exact ⟨List.mem_cons_of_mem item within, same⟩

theorem OrderAgrees.refl {items : List α} (agrees : OrderAgrees order items) {a : α}
    (ha : a ∈ items) : order a a = .eq := by
  have turned := agrees.swap a ha a ha
  cases same : order a a <;> simp_all

theorem ranksHold_ranksFrom {items : List α} {a : α} {r : Nat}
    (agrees : OrderAgrees order (a :: items))
    (rising : (a :: items).Pairwise fun x y => order x y ≠ .gt) :
    ranksHold order ((a, r) :: ranksFrom order a r items) = true := by
  induction items generalizing a r with
  | nil => simp [ranksFrom, ranksHold]
  | cons item rest ih =>
      have a_in : a ∈ a :: item :: rest := by simp
      have doubled : OrderAgrees order (a :: a :: item :: rest) := agrees.of_subset (by simp)
      have behind := ranksFrom_compare doubled rising (Nat.le_refl r)
        (by rw [agrees.refl a_in, Nat.compare_eq_eq.mpr rfl])
      have rest_holds := ih (r := if order a item = .lt then r + 1 else r)
        (agrees.of_subset fun _ => List.mem_cons_of_mem a) (List.pairwise_cons.mp rising).2
      rw [ranksHold, Bool.and_eq_true, List.all_eq_true]
      refine ⟨fun entry member => ?_, rest_holds⟩
      obtain ⟨within, same⟩ := behind entry member
      have turned := agrees.swap a a_in entry.1 (List.mem_cons_of_mem a within)
      simp [turned, same, Nat.compare_swap]

/-- Where comparisons agree with one another, lists of any length are sorted as by insertion. -/
theorem stableSort_eq_insertionSort {items : List α} (agrees : OrderAgrees order items) :
    stableSort order items = insertionSort order items := by
  have holds : ranksHold order (ranked order (insertionSort order items)) = true := by
    have rising := insertionSort_rising agrees
    have inside : ∀ a ∈ insertionSort order items, a ∈ items := fun a ha =>
      (insertionSort_perm order items).mem_iff.mp ha
    cases sorted : insertionSort order items with
    | nil => rfl
    | cons first rest =>
        rw [sorted] at rising inside
        exact ranksHold_ranksFrom (agrees.of_subset inside) rising
  simp [stableSort, holds]

theorem stableSort_perm {items : List α} (agrees : OrderAgrees order items) :
    (stableSort order items).Perm items := by
  rw [stableSort_eq_insertionSort agrees]
  exact insertionSort_perm order items

end ShardedSql
