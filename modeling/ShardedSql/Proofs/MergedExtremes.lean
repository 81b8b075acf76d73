import ShardedSql.Proofs.MergedTotals

/-!
Greatest and least values merged from the answers of shards. Main statement: the merge gives one row;
it holds nothing where the answers hold nothing, and otherwise the first of the values, shard by
shard, that none of the others is beyond.
-/

namespace ShardedSql

open Numeric Sql

/-- The side on which an aggregate looks for the furthest of its values. -/
def extremeSide : Aggregate → Option Ordering
  | .max => some .gt
  | .min => some .lt
  | _ => none

theorem reduce_extreme {kind : Aggregate} {wanted : Ordering} (side : extremeSide kind = some wanted)
    (values : List Value) : reduce kind values = .ok (extreme wanted values) := by
  cases kind <;> cases side <;> rfl

theorem ne_eq_of_extremeSide {kind : Aggregate} {wanted : Ordering}
    (side : extremeSide kind = some wanted) : wanted ≠ .eq := by
  cases kind <;> cases side <;> decide

section Merging

variable {R : Type} [ResultRow R]

theorem isNull_of_mem_scalars {results : List (List R)} {v : Value} (member : v ∈ scalars results) :
    v.isNull = false := by
  simpa using (List.mem_filter.mp member).2

/-- The answers to a query for a greatest or least value, without floating-point numbers among their
values, are merged to one row: with nothing if there is no value, and otherwise with the first value
that no other is further than. -/
theorem merge_first_extreme [LawfulRow R] {results : List (List R)} {statement : Statement}
    {kind : Aggregate} {wanted : Ordering} (side : extremeSide kind = some wanted)
    (strategy : MergeStrategy.ofStatement statement = .aggregate kind)
    (several : 2 ≤ results.length) (exact_all : ∀ v ∈ scalars results, v.isExact = true)
    (mapper : ColumnMapper) (bindings : Bindings) :
    ∃ merged v, merge results statement mapper bindings = .ok merged ∧ IsSingle merged v ∧
      (v = .null ↔ scalars results = []) ∧
      (scalars results ≠ [] → FirstExtreme wanted (scalars results) v) := by
  have first : scalars results ≠ [] →
      FirstExtreme wanted (scalars results) (extreme wanted (scalars results)) :=
    firstExtreme_extreme (ne_eq_of_extremeSide side) (agrees_of_isExact exact_all)
  refine ⟨some (singleRow results (extreme wanted (scalars results))), _, ?_,
    isSingle_singleRow results _, ⟨fun nothing => ?_, fun none => ?_⟩, first⟩
  · rw [merge_aggregate several strategy, reduce_extreme side]
    rfl
  · by_contra some_value
    have something := isNull_of_mem_scalars (first some_value).isExtreme.1
    rw [nothing] at something
    cases something
  · rw [none]
    rfl

end Merging

/-- Three is greatest in two forms, of which the first answered is a decimal. -/
def tiedShards : List (List Row) :=
  shardsOf [.tiny 2, .null, .decimal ⟨30, 1⟩, .big 3]

theorem merge_first_extreme_of_ties :
    Statement.parse "SELECT MAX(x) FROM t" = .ok (overX .max ⟨11, 12⟩) ∧
      merge tiedShards (overX .max ⟨11, 12⟩) .identity .empty =
        .ok (some (.listed [⟨[("n", .decimal ⟨30, 1⟩)]⟩])) ∧
      FirstExtreme .gt [.tiny 2, .decimal ⟨30, 1⟩, .big 3] (.decimal ⟨30, 1⟩) := by
  have values : scalars tiedShards = [.tiny 2, .decimal ⟨30, 1⟩, .big 3] := rfl
  have exact_all : ∀ v ∈ scalars tiedShards, v.isExact = true := by
    simp [values, Value.tiny, Value.big, Value.isExact]
  have merges : merge tiedShards (overX .max ⟨11, 12⟩) .identity .empty =
      .ok (some (.listed [⟨[("n", .decimal ⟨30, 1⟩)]⟩])) := by
    with_unfolding_all rfl
  obtain ⟨merged, v, found, ⟨row, row_is, holds⟩, -, first⟩ := merge_first_extreme rfl
    (strategy_overX .max ⟨11, 12⟩) (by decide) exact_all .identity .empty
  refine ⟨by with_unfolding_all rfl, merges, ?_⟩
  rw [merges, Except.ok.injEq] at found
  subst found
  cases row_is
  cases holds
  simpa [values] using first

end ShardedSql
