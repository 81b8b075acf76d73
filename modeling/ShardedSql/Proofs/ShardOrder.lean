import ShardedSql.Proofs.MergedTotals
import ShardedSql.Proofs.Outcome

/-!
Aggregates merged from the answers of shards in another order. The order matters to floating-point
numbers, and to integers where their sum overflows on the way in one order and not in the other.
Main statement: without floating point nothing else does; the merges fail both, or the values that
they make compare equal.
-/

namespace ShardedSql

open Numeric Sql

/-! ## Two orders -/

section Orders

variable {α β : Type} {agree : α → α → Prop} {fits : List Value → Prop}
  {values others : List Value} {tally : Tally} {left right : Except ShardError α}

/-- Both fail, or both come to something that agrees. -/
def FailOrAgree (agree : α → α → Prop) (left right : Except ShardError α) : Prop :=
  (∃ e f, left = .error e ∧ right = .error f) ∨
    ∃ a b, left = .ok a ∧ right = .ok b ∧ agree a b

theorem FailOrAgree.of_failures (left_fails : ¬ ∃ a, left = .ok a)
    (right_fails : ¬ ∃ a, right = .ok a) : FailOrAgree agree left right := by
  obtain ⟨e, left_error⟩ := exists_error_iff.mpr left_fails
  obtain ⟨f, right_error⟩ := exists_error_iff.mpr right_fails
  exact .inl ⟨e, f, left_error, right_error⟩

/-- The values overrun and overflow in the first order alone. -/
def OverrunsAlone (fits : List Value → Prop) (values others : List Value)
    (left right : Except ShardError α) : Prop :=
  (Overruns fits values ∧ ∃ tally, left = .error (.overflow tally)) ∧
    ¬ Overruns fits others ∧ ∃ a, right = .ok a

/-- Nothing but an overrun in one of the orders makes a difference. -/
def AgreeOrOverrun (fits : List Value → Prop) (agree : α → α → Prop) (values others : List Value)
    (left right : Except ShardError α) : Prop :=
  FailOrAgree agree left right ∨ OverrunsAlone fits values others left right ∨
    OverrunsAlone fits others values right left

theorem AgreeOrOverrun.map {agree_mapped : β → β → Prop} {f g : α → β}
    (settled : AgreeOrOverrun fits agree values others left right)
    (carries : ∀ a b, agree a b → agree_mapped (f a) (g b)) :
    AgreeOrOverrun fits agree_mapped values others (left.map f) (right.map g) := by
  rcases settled with (⟨e, f, rfl, rfl⟩ | ⟨a, b, rfl, rfl, agreed⟩) |
    ⟨⟨overruns, tally, rfl⟩, fitting, a, rfl⟩ | ⟨⟨overruns, tally, rfl⟩, fitting, a, rfl⟩
  · exact .inl (.inl ⟨e, f, rfl, rfl⟩)
  · exact .inl (.inr ⟨_, _, rfl, rfl, carries a b agreed⟩)
  · exact .inr (.inl ⟨⟨overruns, tally, rfl⟩, fitting, _, rfl⟩)
  · exact .inr (.inr ⟨⟨overruns, tally, rfl⟩, fitting, _, rfl⟩)

/-- Totals that are exact or overflow agree if the exact ones do. -/
theorem ExactOrOverflow.agreeOrOverrun {right_left right_right : α → Prop}
    (first : ExactOrOverflow fits values tally right_left left)
    (second : ExactOrOverflow fits others tally right_right right)
    (same : ∀ a b, right_left a → right_right b → agree a b) :
    AgreeOrOverrun fits agree values others left right := by
  rcases first with ⟨overruns, rfl⟩ | ⟨fitting, a, rfl, a_right⟩ <;>
    rcases second with ⟨overruns', rfl⟩ | ⟨fitting', b, rfl, b_right⟩
  · exact .inl (.inl ⟨_, _, rfl, rfl⟩)
  · exact .inr (.inl ⟨⟨overruns, tally, rfl⟩, fitting', b, rfl⟩)
  · exact .inr (.inr ⟨⟨overruns', tally, rfl⟩, fitting, a, rfl⟩)
  · exact .inl (.inr ⟨a, b, rfl, rfl, same a b a_right b_right⟩)

end Orders

/-! ## Equal values -/

/-- Values that the order takes for equal. -/
def Value.Equal (v w : Value) : Prop :=
  v.order w = .eq

theorem Value.equal_of_exactNumber {a b : Value} {q : ℚ} (a_is : a.exactNumber? = some q)
    (b_is : b.exactNumber? = some q) : Value.Equal a b := by
  obtain ⟨x, a_number, x_is⟩ := Option.bind_eq_some_iff.mp a_is
  obtain ⟨y, b_number, y_is⟩ := Option.bind_eq_some_iff.mp b_is
  have plain : a.rank ≠ 6 := by
    rw [Value.rank_of_quantity a_number]
    decide
  rw [Value.Equal, Value.order_eq_plainOrder (.inl plain)]
  simp only [Value.plainOrder, a_number, b_number, Quantity.order_eq_numbers x_is y_is,
    compare_eq_iff_eq]

/-! ## Counts -/

variable {values others : List Value}

theorem wholeSum_perm (perm : values.Perm others) : wholeSum values = wholeSum others :=
  (perm.filterMap Value.int64?).sum_eq

/-- A count that succeeds is one of integers. -/
theorem integers_of_totalCount {total : Value} (found : totalCount values = .ok total) :
    ∀ v ∈ values, v.int64?.isSome = true := by
  intro v member
  obtain ⟨last, run, -⟩ := map_eq_ok.mp found
  rw [countFrom_eq_foldlM] at run
  obtain ⟨before, after, step⟩ := exists_step_of_foldlM run member
  cases integer : v.int64? with
  | none =>
      simp only [countStep, countFrom, integer, Option.bind_none] at step
      cases step
  | some n => rfl

theorem totalCount_perm (perm : values.Perm others) :
    AgreeOrOverrun CountFits Value.Equal values others (totalCount values) (totalCount others) := by
  by_cases integers : ∀ v ∈ values, v.int64?.isSome = true
  · refine (totalCount_exact integers).agreeOrOverrun
      (totalCount_exact fun v member => integers v (perm.mem_iff.mpr member)) ?_
    rintro _ _ ⟨m, rfl, _, m_val⟩ ⟨n, rfl, _, n_val⟩
    have same : m.val = n.val := by rw [m_val, n_val, wholeSum_perm perm]
    exact Value.equal_of_exactNumber (q := m.val) rfl (by rw [same]; rfl)
  · refine .inl (.of_failures ?_ ?_)
    · rintro ⟨total, found⟩
      exact integers (integers_of_totalCount found)
    · rintro ⟨total, found⟩
      exact integers fun v member => integers_of_totalCount found v (perm.mem_iff.mp member)

/-! ## Sums -/

theorem exactSum_perm (perm : values.Perm others) : exactSum values = exactSum others :=
  (perm.filterMap Value.exactNumber?).sum_eq

theorem Value.numbers_of_add {a b c : Value} (added : a.add b = .ok c)
    (plain : b.isFloating = false) :
    a.exactNumber?.isSome = true ∧ b.exactNumber?.isSome = true := by
  unfold Value.add at added
  split at added
  case h_9 => cases added
  all_goals first | exact ⟨rfl, rfl⟩ | simp [Value.isFloating] at plain

/-- A sum of two values or more that succeeds is one of numbers. -/
theorem allExact_of_totalSum {total : Value} (found : totalSum values = .ok total)
    (several : 2 ≤ values.length) (plain : ∀ v ∈ values, v.isFloating = false) :
    AllExact values := by
  match values, several with
  | first :: second :: rest, _ =>
      have run : (second :: rest).foldlM Value.add first = .ok total :=
        (sumFrom_eq_foldlM first _).symm.trans found
      have start := run
      rw [List.foldlM_cons, bind_eq_ok] at start
      obtain ⟨next, added, -⟩ := start
      rintro v (_ | ⟨_, later⟩)
      · exact (Value.numbers_of_add added (plain second (by simp))).1
      · obtain ⟨before, after, step⟩ := exists_step_of_foldlM run later
        exact (Value.numbers_of_add step (plain v (List.mem_cons_of_mem first later))).2

theorem totalSum_perm (perm : values.Perm others) (plain : ∀ v ∈ values, v.isFloating = false) :
    AgreeOrOverrun SumFits Value.Equal values others (totalSum values) (totalSum others) := by
  by_cases exact_all : AllExact values
  · refine (totalSum_exact exact_all).agreeOrOverrun
      (totalSum_exact fun v member => exact_all v (perm.mem_iff.mpr member)) ?_
    intro a b a_sum b_sum
    by_cases none : values = []
    · subst none
      obtain rfl := List.nil_perm.mp perm
      obtain rfl : a = .null := a_sum
      obtain rfl : b = .null := b_sum
      exact Value.order_self .null
    · have others_some : others ≠ [] := fun empty => none (List.perm_nil.mp (empty ▸ perm))
      have a_is := ((orNull_iff none).mp a_sum).2
      have b_is := ((orNull_iff others_some).mp b_sum).2
      exact Value.equal_of_exactNumber a_is (by rw [b_is, exactSum_perm perm])
  · by_cases several : 2 ≤ values.length
    · refine .inl (.of_failures ?_ ?_)
      · rintro ⟨total, found⟩
        exact exact_all (allExact_of_totalSum found several plain)
      · rintro ⟨total, found⟩
        have others_exact := allExact_of_totalSum found (perm.length_eq ▸ several) fun v member =>
          plain v (perm.mem_iff.mpr member)
        exact exact_all fun v member => others_exact v (perm.mem_iff.mp member)
    -- A single value is its own sum, whatever it is.
    · obtain ⟨v, member, -⟩ : ∃ v ∈ values, v.exactNumber? = none := by
        simpa [AllExact] using exact_all
      have one : values.length = 1 := by
        have := List.length_pos_of_mem member
        omega
      obtain ⟨w, rfl⟩ := List.length_eq_one_iff.mp one
      obtain rfl := List.singleton_perm.mp perm
      exact .inl (.inr ⟨w, w, rfl, rfl, Value.order_self w⟩)

/-! ## Extremes -/

theorem extreme_perm {wanted : Ordering} (side : wanted ≠ .eq) (perm : values.Perm others)
    (agrees : OrderAgrees Value.order values) :
    Value.Equal (extreme wanted values) (extreme wanted others) := by
  by_cases none : values = []
  · subst none
    obtain rfl := List.nil_perm.mp perm
    exact Value.order_self .null
  · have others_some : others ≠ [] := fun empty => none (List.perm_nil.mp (empty ▸ perm))
    obtain ⟨first_in, first_furthest⟩ := isExtreme_extreme side agrees none
    obtain ⟨second_in, second_furthest⟩ := isExtreme_extreme side
      (agrees.of_subset fun v member => perm.mem_iff.mpr member) others_some
    have ahead := second_furthest _ (perm.mem_iff.mp first_in)
    have back := first_furthest _ (perm.mem_iff.mpr second_in)
    rw [Value.order_swap (extreme wanted values)] at back
    unfold Value.Equal
    cases order : (extreme wanted values).order (extreme wanted others) <;>
      cases wanted <;> simp_all

/-! ## Merges -/

/-- What the values have to fit on the way to an aggregate; extremes have no sums on their way. -/
def StepsFit : Aggregate → List Value → Prop
  | .count => CountFits
  | .sum => SumFits
  | _ => fun _ => True

/-- Without floating point; for extremes there is none within lists either. -/
structure FreeOfFloats (kind : Aggregate) (values : List Value) : Prop where
  plain : ∀ v ∈ values, v.isFloating = false
  within : kind = .max ∨ kind = .min → ∀ v ∈ values, v.isExact = true

theorem reduce_perm {kind : Aggregate} (no_average : kind ≠ .avg) (perm : values.Perm others)
    (free : FreeOfFloats kind values) :
    AgreeOrOverrun (StepsFit kind) Value.Equal values others (reduce kind values)
      (reduce kind others) := by
  cases kind with
  | avg => exact absurd rfl no_average
  | count => exact totalCount_perm perm
  | sum => exact totalSum_perm perm free.plain
  | max =>
      have agrees := agrees_of_isExact (free.within (.inl rfl))
      have same : Value.Equal (extreme .gt values) (extreme .gt others) :=
        extreme_perm (by decide) perm agrees
      exact .inl (.inr ⟨_, _, rfl, rfl, same⟩)
  | min =>
      have agrees := agrees_of_isExact (free.within (.inr rfl))
      have same : Value.Equal (extreme .lt values) (extreme .lt others) :=
        extreme_perm (by decide) perm agrees
      exact .inl (.inr ⟨_, _, rfl, rfl, same⟩)

section Merging

variable {R : Type} [ResultRow R]

theorem scalars_perm {results others : List (List R)} (perm : results.Perm others) :
    (scalars results).Perm (scalars others) :=
  (perm.flatten.filterMap ResultRow.scalar?).filter _

/-- One row each, with values that the order takes for equal. -/
def EqualRows (left right : Option (MergedRows R)) : Prop :=
  ∃ v w, IsSingle left v ∧ IsSingle right w ∧ Value.Equal v w

/-- The order of the shards makes no difference to the merged aggregate of values without floating
point, unless it decides whether a sum on the way overflows. -/
theorem merge_perm [LawfulRow R] {results others : List (List R)} {statement : Statement}
    {kind : Aggregate} (strategy : MergeStrategy.ofStatement statement = .aggregate kind)
    (no_average : kind ≠ .avg) (several : 2 ≤ results.length) (perm : results.Perm others)
    (free : FreeOfFloats kind (scalars results)) (mapper : ColumnMapper) (bindings : Bindings) :
    AgreeOrOverrun (StepsFit kind) EqualRows (scalars results) (scalars others)
      (merge results statement mapper bindings) (merge others statement mapper bindings) := by
  rw [merge_aggregate several strategy, merge_aggregate (perm.length_eq ▸ several) strategy]
  exact (reduce_perm no_average (scalars_perm perm) free).map fun v w same =>
    ⟨v, w, isSingle_singleRow results v, isSingle_singleRow others w, same⟩

end Merging

/-- One of two narrow integers comes after the wide one in the order that does not overflow. -/
theorem merge_perm_of_narrow_integers :
    (shardsOf [.tiny 100, .tiny 28, .big 1]).Perm (shardsOf [.tiny 100, .big 1, .tiny 28]) ∧
      FreeOfFloats .sum (scalars (shardsOf [.tiny 100, .tiny 28, .big 1])) ∧
      OverrunsAlone SumFits [.tiny 100, .tiny 28, .big 1] [.tiny 100, .big 1, .tiny 28]
        (merge (shardsOf [.tiny 100, .tiny 28, .big 1]) (overX .sum ⟨11, 12⟩) .identity .empty)
        (merge (shardsOf [.tiny 100, .big 1, .tiny 28]) (overX .sum ⟨11, 12⟩) .identity
          .empty) := by
  have perm : (shardsOf [.tiny 100, .tiny 28, .big 1]).Perm
      (shardsOf [.tiny 100, .big 1, .tiny 28]) :=
    .cons _ (.swap _ _ _)
  have values : scalars (shardsOf [.tiny 100, .tiny 28, .big 1]) = [.tiny 100, .tiny 28, .big 1] :=
    scalars_shardsOf (by simp [Value.tiny, Value.big, Value.isNull])
  have free : FreeOfFloats .sum (scalars (shardsOf [.tiny 100, .tiny 28, .big 1])) := by
    rw [values]
    exact ⟨by simp [Value.tiny, Value.big, Value.isFloating], by simp⟩
  have settled := merge_perm (strategy_overX .sum ⟨11, 12⟩) (by decide) (by decide) perm free
    .identity .empty
  rw [values, scalars_shardsOf (by simp [Value.tiny, Value.big, Value.isNull])] at settled
  refine ⟨perm, free, ?_⟩
  -- The first merge is an overflow and the second is none, which leaves one case.
  rcases settled with (⟨e, f, _, failed⟩ | ⟨a, b, found, _⟩) | alone | ⟨⟨_, tally, failed⟩, _⟩
  · cases failed
  · cases found
  · exact alone
  · cases failed

/-! ## Orders that differ -/

theorem merge_shardsOf {kind : Aggregate} {values : List Value} (place : Span)
    (several : 2 ≤ values.length) (something : ∀ v ∈ values, v.isNull = false) :
    merge (shardsOf values) (overX kind place) .identity .empty =
      (reduce kind values).map fun v => some (.listed [⟨[("n", v)]⟩]) := by
  have enough : 2 ≤ (shardsOf values).length := by simpa [shardsOf] using several
  rw [merge_aggregate enough (strategy_overX kind place), scalars_shardsOf something]
  cases values with
  | nil => simp at several
  | cons first rest => rfl

/-- Lists that begin with numbers of one double. -/
def oddList : Value :=
  .list [.integer ⟨.big, 2 ^ 53 + 1, by decide⟩, .big 1]

def doubleList : Value :=
  .list [.double (.ofInt .double (2 ^ 53)), .big 5]

def evenList : Value :=
  .list [.integer ⟨.big, 2 ^ 53, by decide⟩, .big 9]

theorem round_of_lists :
    doubleList.order oddList = .gt ∧ evenList.order doubleList = .gt ∧
      oddList.order evenList = .gt := by
  decide +kernel

/-- Narrow integers overflow before a wide one joins them and not after it; lists with a double
within have no greatest one. -/
theorem merge_depends_on_order :
    Statement.parse "SELECT SUM(x) FROM t" = .ok (overX .sum ⟨11, 12⟩) ∧
      Statement.parse "SELECT MAX(x) FROM t" = .ok (overX .max ⟨11, 12⟩) ∧
      (∀ v ∈ ([.tiny 100, .tiny 28, .big 1, oddList, doubleList, evenList] : List Value),
        v.isFloating = false) ∧
      (shardsOf [.tiny 100, .tiny 28, .big 1]).Perm (shardsOf [.tiny 100, .big 1, .tiny 28]) ∧
      ¬ FailOrAgree EqualRows
        (merge (shardsOf [.tiny 100, .tiny 28, .big 1]) (overX .sum ⟨11, 12⟩) .identity .empty)
        (merge (shardsOf [.tiny 100, .big 1, .tiny 28]) (overX .sum ⟨11, 12⟩) .identity .empty) ∧
      (shardsOf [oddList, doubleList, evenList]).Perm (shardsOf [evenList, oddList, doubleList]) ∧
      ¬ FailOrAgree EqualRows
        (merge (shardsOf [oddList, doubleList, evenList]) (overX .max ⟨11, 12⟩) .identity .empty)
        (merge (shardsOf [evenList, oddList, doubleList]) (overX .max ⟨11, 12⟩) .identity
          .empty) := by
  have overflow : reduce .sum [.tiny 100, .tiny 28, .big 1] = .error (.overflow .sum) := rfl
  have total : reduce .sum [.tiny 100, .big 1, .tiny 28] = .ok (.big 129) := rfl
  obtain ⟨second_greater, third_greater, first_greater⟩ := round_of_lists
  have last : reduce .max [oddList, doubleList, evenList] = .ok evenList := by
    simp [reduce, extreme, second_greater, third_greater]
  have middle : reduce .max [evenList, oddList, doubleList] = .ok doubleList := by
    simp [reduce, extreme, second_greater, first_greater]
  refine ⟨by with_unfolding_all rfl, by with_unfolding_all rfl,
    by simp [Value.tiny, Value.big, oddList, doubleList, evenList, Value.isFloating],
    .cons _ (.swap _ _ _), ?_, ((List.Perm.swap _ _ _).cons _).trans (.swap _ _ _), ?_⟩
  · rw [merge_shardsOf _ (by decide) (by simp [Value.tiny, Value.big, Value.isNull]), overflow,
      merge_shardsOf _ (by decide) (by simp [Value.tiny, Value.big, Value.isNull]), total]
    rintro (⟨e, f, _, failed⟩ | ⟨a, b, found, _⟩)
    · cases failed
    · cases found
  · rw [merge_shardsOf _ (by decide) (by simp [oddList, doubleList, evenList, Value.isNull]), last,
      merge_shardsOf _ (by decide) (by simp [oddList, doubleList, evenList, Value.isNull]), middle]
    rintro (⟨e, f, failed, _⟩ |
      ⟨_, _, ⟨⟩, ⟨⟩, v, w, ⟨_, ⟨⟩, ⟨⟩⟩, ⟨_, ⟨⟩, ⟨⟩⟩, same⟩)
    · cases failed
    · rw [Value.Equal, third_greater] at same
      cases same

end ShardedSql
