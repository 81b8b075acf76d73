import ShardedSql.Proofs.Reductions
import ShardedSql.Sql.Grammar

/-!
Counts and sums merged from the answers of shards. Main statement: a merge gives one row with the
exact total or it is an overflow, and it is an overflow exactly if at some step the exact sum of the
values so far does not fit the kind that this step makes.
-/

namespace ShardedSql

open Numeric Sql

/-- The answers to a query for a sum of exact numbers, or for a count, are merged to one row with
their exact total, unless they overflow; and they overflow exactly if at some step the exact sum of
the values so far does not fit the kind that this step makes. -/
theorem merge_exact {R : Type} [ResultRow R] [LawfulRow R] {results : List (List R)}
    {statement : Statement} (several : 2 ≤ results.length) (mapper : ColumnMapper)
    (bindings : Bindings) :
    (MergeStrategy.ofStatement statement = .aggregate .sum → AllExact (scalars results) →
      ExactOrOverflow SumFits (scalars results) .sum
        (fun merged => ∃ total, IsSingle merged total ∧
          OrNull (fun values v => v.exactNumber? = some (exactSum values)) (scalars results) total)
        (merge results statement mapper bindings)) ∧
    (MergeStrategy.ofStatement statement = .aggregate .count →
      (∀ v ∈ scalars results, ∃ n, v = .integer n) →
      ExactOrOverflow CountFits (scalars results) .count
        (fun merged => ∃ total, IsSingle merged (.integer total) ∧
          IsCount (scalars results) total)
        (merge results statement mapper bindings)) := by
  constructor
  · intro strategy exact_all
    rw [merge_aggregate several strategy]
    exact (totalSum_exact exact_all).map _ fun total right =>
      ⟨total, isSingle_singleRow results total, right.imp And.right⟩
  · intro strategy integers
    have all_integers : ∀ v ∈ scalars results, v.int64?.isSome = true := by
      intro v member
      obtain ⟨n, rfl⟩ := integers v member
      rfl
    rw [merge_aggregate several strategy]
    refine (totalCount_exact all_integers).map _ ?_
    rintro _ ⟨total, rfl, is_count⟩
    exact ⟨total, isSingle_singleRow results _, is_count⟩

/-- The statement for an aggregate of `x`, which stands at the place. -/
def overX (kind : Aggregate) (place : Span) : Statement :=
  .select (Select.ofItems [⟨.call kind.spelling [.column none "x" place] false, none⟩]
    (some (.bare "t")))

theorem strategy_overX (kind : Aggregate) (place : Span) :
    MergeStrategy.ofStatement (overX kind place) = .aggregate kind := by
  cases kind <;> with_unfolding_all rfl

/-- One answer for each of the values. -/
def shardsOf (values : List Value) : List (List Row) :=
  values.map fun v => [⟨[("n", v)]⟩]

theorem scalars_shardsOf {values : List Value} (something : ∀ v ∈ values, v.isNull = false) :
    scalars (shardsOf values) = values := by
  induction values with
  | nil => rfl
  | cons v rest ih =>
      have present := something v List.mem_cons_self
      have others := ih fun w member => something w (List.mem_cons_of_mem v member)
      simp_all [scalars, shardsOf, ResultRow.scalar?]

def Value.tiny (n : Int8) : Value :=
  .integer ⟨.tiny, n.toInt, n.le_toInt, n.toInt_lt⟩

def Value.big (n : Int64) : Value :=
  .integer (.ofInt64 n)

theorem overruns_tiny : Overruns SumFits [.tiny 100, .tiny 28, .big 1] := by
  refine ⟨[.tiny 100, .tiny 28], ⟨[.big 1], rfl⟩, fun fits => ?_⟩
  obtain ⟨n, same, -, below⟩ := fits (.integer .tiny) rfl
  have sum : exactSum [.tiny 100, .tiny 28] = 128 := by
    have numbers : List.filterMap Value.exactNumber? [.tiny 100, .tiny 28] = [100, 28] := rfl
    norm_num [exactSum, numbers]
  rw [sum] at same
  obtain rfl : n = 128 := by exact_mod_cast same
  exact absurd below (by decide)

/-- A count of the same values does not overflow. -/
theorem merge_exact_of_narrow_integers :
    Statement.parse "SELECT SUM(x) FROM t" = .ok (overX .sum ⟨11, 12⟩) ∧
      Statement.parse "SELECT COUNT(x) FROM t" = .ok (overX .count ⟨13, 14⟩) ∧
      merge (shardsOf [.tiny 100, .tiny 28, .big 1]) (overX .sum ⟨11, 12⟩) .identity .empty =
        .error (.overflow .sum) ∧
      ∃ merged total,
        merge (shardsOf [.tiny 100, .tiny 28, .big 1]) (overX .count ⟨13, 14⟩) .identity .empty =
          .ok merged ∧ IsSingle merged (.integer total) ∧ total.val = 129 := by
  have values : scalars (shardsOf [.tiny 100, .tiny 28, .big 1]) = [.tiny 100, .tiny 28, .big 1] :=
    scalars_shardsOf (by simp [Value.tiny, Value.big, Value.isNull])
  have exact_all : AllExact (scalars (shardsOf [.tiny 100, .tiny 28, .big 1])) := by
    rw [values]
    simp [AllExact, Value.tiny, Value.big, Value.exactNumber?, Quantity.ofValue?, Quantity.number?]
  have integers : ∀ v ∈ scalars (shardsOf [.tiny 100, .tiny 28, .big 1]), ∃ n, v = .integer n := by
    rw [values]
    simp [Value.tiny, Value.big]
  have several : 2 ≤ (shardsOf [.tiny 100, .tiny 28, .big 1]).length := by decide
  have sum := (merge_exact several .identity .empty).1 (strategy_overX .sum ⟨11, 12⟩) exact_all
  have count := (merge_exact several .identity .empty).2 (strategy_overX .count ⟨13, 14⟩) integers
  rw [values] at sum count
  refine ⟨by with_unfolding_all rfl, by with_unfolding_all rfl, ?_, ?_⟩
  · rcases sum with ⟨_, overflow⟩ | ⟨fitting, _⟩
    · exact overflow
    · exact absurd overruns_tiny fitting
  · rcases count with ⟨_, overflow⟩ | ⟨_, merged, found, total, single, _, value⟩
    · cases overflow
    · exact ⟨merged, total, found, single, value.trans (by decide)⟩

end ShardedSql
