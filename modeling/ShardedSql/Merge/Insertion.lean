/-!
Sorting that keeps the order of items which compare equal: each item in turn is put behind the last
of the sorted ones that it does not come before. Main statements: sorting rearranges, and where
comparisons agree with one another no item stands behind a greater one and items that compare equal
stand as they did.
-/

namespace ShardedSql

variable {α : Type}

/-- Puts an item into a list that is sorted from its end. -/
def insertFromEnd (order : α → α → Ordering) (item : α) : List α → List α
  | [] => [item]
  | last :: before =>
      if order item last = .lt then last :: insertFromEnd order item before
      else item :: last :: before

/-- The items sorted from the last to the first. -/
def sortFromEnd (order : α → α → Ordering) (sorted : List α) : List α → List α
  | [] => sorted
  | item :: items => sortFromEnd order (insertFromEnd order item sorted) items

def insertionSort (order : α → α → Ordering) (items : List α) : List α :=
  (sortFromEnd order [] items).reverse

theorem insertFromEnd_perm (order : α → α → Ordering) (item : α) (sorted : List α) :
    (insertFromEnd order item sorted).Perm (item :: sorted) := by
  induction sorted with
  | nil => exact .refl _
  | cons last before ih =>
      simp only [insertFromEnd]
      split
      · exact (ih.cons last).trans (.swap item last before)
      · exact .refl _

theorem sortFromEnd_perm (order : α → α → Ordering) (items sorted : List α) :
    (sortFromEnd order sorted items).Perm (items ++ sorted) := by
  induction items generalizing sorted with
  | nil => exact .refl _
  | cons item items ih =>
      exact (ih _).trans (((insertFromEnd_perm order item sorted).append_left items).trans
        List.perm_middle)

theorem insertionSort_perm (order : α → α → Ordering) (items : List α) :
    (insertionSort order items).Perm items := by
  have sorted := sortFromEnd_perm order items []
  rw [List.append_nil] at sorted
  exact (List.reverse_perm _).trans sorted

/-! ## Comparisons that agree -/

/-- Comparisons of the items agree: turning one around reverses it, and an item that is not greater
than a second is not greater than a third which the second is not greater than. -/
structure OrderAgrees (order : α → α → Ordering) (items : List α) : Prop where
  swap : ∀ a ∈ items, ∀ b ∈ items, order b a = (order a b).swap
  trans : ∀ a ∈ items, ∀ b ∈ items, ∀ c ∈ items,
    order a b ≠ .gt → order b c ≠ .gt → order a c ≠ .gt

namespace OrderAgrees

variable {order : α → α → Ordering} {items others : List α}

theorem of_subset (agrees : OrderAgrees order items) (inside : ∀ a ∈ others, a ∈ items) :
    OrderAgrees order others :=
  ⟨fun a ha b hb => agrees.swap a (inside a ha) b (inside b hb),
    fun a ha b hb c hc => agrees.trans a (inside a ha) b (inside b hb) c (inside c hc)⟩

theorem eq_trans (agrees : OrderAgrees order items) {a b c : α} (ha : a ∈ items) (hb : b ∈ items)
    (hc : c ∈ items) (first : order a b = .eq) (second : order b c = .eq) : order a c = .eq := by
  have forth := agrees.trans a ha b hb c hc (by simp [first]) (by simp [second])
  have back := agrees.trans c hc b hb a ha
    (by simp [agrees.swap b hb c hc, second]) (by simp [agrees.swap a ha b hb, first])
  rw [agrees.swap a ha c hc] at back
  cases same : order a c <;> simp_all

theorem lt_of_lt_of_le (agrees : OrderAgrees order items) {a b c : α} (ha : a ∈ items)
    (hb : b ∈ items) (hc : c ∈ items) (first : order a b = .lt) (second : order b c ≠ .gt) :
    order a c = .lt := by
  have forth := agrees.trans a ha b hb c hc (by simp [first]) second
  have back := agrees.trans b hb c hc a ha second
  rw [agrees.swap a ha c hc, agrees.swap a ha b hb, first] at back
  cases same : order a c <;> simp_all

theorem lt_of_le_of_lt (agrees : OrderAgrees order items) {a b c : α} (ha : a ∈ items)
    (hb : b ∈ items) (hc : c ∈ items) (first : order a b ≠ .gt) (second : order b c = .lt) :
    order a c = .lt := by
  have forth := agrees.trans a ha b hb c hc first (by simp [second])
  have back := agrees.trans c hc a ha b hb
  rw [agrees.swap a ha c hc, agrees.swap b hb c hc, second] at back
  cases same : order a c <;> simp_all

end OrderAgrees

/-- No item stands before a smaller one in a list that is sorted from its end. -/
def FallingBack (order : α → α → Ordering) : List α → Prop :=
  List.Pairwise fun later earlier => order earlier later ≠ .gt

theorem insertFromEnd_fallingBack {order : α → α → Ordering} {item : α} {sorted : List α}
    (agrees : OrderAgrees order (item :: sorted)) (falling : FallingBack order sorted) :
    FallingBack order (insertFromEnd order item sorted) := by
  induction sorted with
  | nil => simp [insertFromEnd, FallingBack]
  | cons last before ih =>
      obtain ⟨below, rest⟩ := List.pairwise_cons.mp falling
      have item_in : item ∈ item :: last :: before := by simp
      have last_in : last ∈ item :: last :: before := by simp
      have inside : ∀ a ∈ item :: before, a ∈ item :: last :: before := by
        intro a ha
        rcases List.mem_cons.mp ha with rfl | ha <;> simp_all
      simp only [insertFromEnd]
      split
      next before_last =>
        refine List.pairwise_cons.mpr ⟨?_, ih (agrees.of_subset inside) rest⟩
        intro a ha
        rcases List.mem_cons.mp ((insertFromEnd_perm order item before).mem_iff.mp ha)
          with rfl | ha
        · simp [before_last]
        · exact below a ha
      next not_before =>
        refine List.pairwise_cons.mpr ⟨?_, falling⟩
        have last_le : order last item ≠ .gt := by
          rw [agrees.swap item item_in last last_in]
          cases same : order item last <;> simp_all
        intro a ha
        rcases List.mem_cons.mp ha with rfl | ha
        · exact last_le
        · exact agrees.trans a (by simp [ha]) last last_in item item_in (below a ha) last_le

theorem sortFromEnd_fallingBack {order : α → α → Ordering} {items sorted : List α}
    (agrees : OrderAgrees order (items ++ sorted)) (falling : FallingBack order sorted) :
    FallingBack order (sortFromEnd order sorted items) := by
  induction items generalizing sorted with
  | nil => exact falling
  | cons item items ih =>
      refine ih (agrees.of_subset ?_)
        (insertFromEnd_fallingBack (agrees.of_subset ?_) falling)
      · intro a ha
        rcases List.mem_append.mp ha with ha | ha
        · simp [ha]
        · have := (insertFromEnd_perm order item sorted).mem_iff.mp ha
          simp only [List.mem_cons] at this
          rcases this with rfl | this <;> simp_all
      · intro a ha
        rcases List.mem_cons.mp ha with rfl | ha <;> simp_all

/-- Where comparisons agree, no item of the sorted list stands behind a greater one. -/
theorem insertionSort_rising {order : α → α → Ordering} {items : List α}
    (agrees : OrderAgrees order items) :
    (insertionSort order items).Pairwise fun a b => order a b ≠ .gt := by
  rw [insertionSort, List.pairwise_reverse]
  exact sortFromEnd_fallingBack (by simpa using agrees) .nil

/-! ## Items that compare equal -/

/-- An item is put behind those it comes before only, and none of them compares equal to what it
compares equal to. -/
theorem insertFromEnd_filter {order : α → α → Ordering} {item x : α} {sorted : List α}
    (agrees : OrderAgrees order (x :: item :: sorted)) :
    (insertFromEnd order item sorted).filter (order x · == .eq) =
      (item :: sorted).filter (order x · == .eq) := by
  induction sorted with
  | nil => rfl
  | cons last before ih =>
      have x_in : x ∈ x :: item :: last :: before := by simp
      have item_in : item ∈ x :: item :: last :: before := by simp
      have last_in : last ∈ x :: item :: last :: before := by simp
      have inside : ∀ a ∈ x :: item :: before, a ∈ x :: item :: last :: before := by
        intro a ha
        simp only [List.mem_cons] at ha ⊢
        rcases ha with rfl | rfl | ha <;> simp_all
      simp only [insertFromEnd]
      split
      next before_last =>
        rw [List.filter_cons, ih (agrees.of_subset inside)]
        by_cases level : order x item = .eq
        · have apart : order x last ≠ .eq := by
            intro same
            have turned := agrees.swap x x_in item item_in
            rw [level] at turned
            have equal := agrees.eq_trans item_in x_in last_in turned same
            rw [before_last] at equal
            cases equal
          simp [List.filter_cons, apart]
        · simp [List.filter_cons, level]
      next => rfl

theorem sortFromEnd_filter {order : α → α → Ordering} {x : α} {items sorted : List α}
    (agrees : OrderAgrees order (x :: (items ++ sorted))) :
    (sortFromEnd order sorted items).filter (order x · == .eq) =
      (items.reverse ++ sorted).filter (order x · == .eq) := by
  induction items generalizing sorted with
  | nil => rfl
  | cons item items ih =>
      have here : OrderAgrees order (x :: item :: sorted) := by
        apply agrees.of_subset
        intro a ha
        simp only [List.mem_cons, List.mem_append] at ha ⊢
        rcases ha with rfl | rfl | ha <;> simp_all
      have later : OrderAgrees order (x :: (items ++ insertFromEnd order item sorted)) := by
        apply agrees.of_subset
        intro a ha
        simp only [List.mem_cons, List.mem_append, (insertFromEnd_perm order item sorted).mem_iff]
          at ha ⊢
        rcases ha with rfl | ha | rfl | ha <;> simp_all
      rw [sortFromEnd, ih later, List.reverse_cons, List.append_assoc, List.filter_append,
        List.filter_append, insertFromEnd_filter here, List.singleton_append]

/-- Sorting leaves the items that compare equal to any one of them in the order they had. -/
theorem insertionSort_filter {order : α → α → Ordering} {items : List α}
    (agrees : OrderAgrees order items) {x : α} (x_in : x ∈ items) :
    (insertionSort order items).filter (order x · == .eq) = items.filter (order x · == .eq) := by
  have inside : OrderAgrees order (x :: (items ++ [])) := by
    apply agrees.of_subset
    intro a ha
    simp only [List.append_nil, List.mem_cons] at ha
    rcases ha with rfl | ha
    · exact x_in
    · exact ha
  rw [insertionSort, List.filter_reverse, sortFromEnd_filter inside, List.append_nil,
    ← List.filter_reverse, List.reverse_reverse]

end ShardedSql
