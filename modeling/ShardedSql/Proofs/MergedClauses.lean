import ShardedSql.Proofs.OrderedMerge

/-!
What a merge keeps of `LIMIT` and `ORDER BY`. Each shard has honoured both for its own rows, but the
rows of several shards together may be too many and out of order. Main statement: whichever way the
answers to a query without `DISTINCT` are merged, the limit is applied once more and the rows are
sorted once more; the answers to a query with `DISTINCT` stay as the shards gave them.
-/

namespace ShardedSql

open Sql SortKey

variable {R : Type} [ResultRow R]

/-! ## The two clauses -/

/-- There are no more rows than a limit that is written out, beside an offset that is, allows. -/
def WithinLimit (query : Select) (merged : MergedRows R) : Prop :=
  ∀ n, query.limit.bind Window.literalBound = some n → 0 ≤ n →
    (∀ e, query.offset = some e → (Window.literalBound e).isSome = true) → (merged.size : Int) ≤ n

/-- Every row has a value for each key of `ORDER BY`, and the rows are sorted by these. -/
def InOrder (query : Select) (mapper : ColumnMapper) (merged : MergedRows R) : Prop :=
  ∃ keys, SortKey.ofQuery query mapper = .ok keys ∧
    (∀ row ∈ merged.toList, keys.mapM (valueIn row) = .ok (tuple keys row)) ∧
    Rising (rowOrder keys) merged.toList

/-- No value that rows have for a key of `ORDER BY` holds a floating-point number. -/
def HasExactKeys (query : Select) (mapper : ColumnMapper) (rows : List R) : Prop :=
  ∀ keys, SortKey.ofQuery query mapper = .ok keys →
    ∀ row ∈ rows, ∀ key ∈ keys, ∀ v, valueIn row key = .ok v → v.isExact = true

theorem hasExactKeys_of_hasKeys {query : Select} {mapper : ColumnMapper} {keys : List SortKey}
    {rows : List R} (keys_found : SortKey.ofQuery query mapper = .ok keys)
    (keyed : ∀ row ∈ rows, HasKeys keys row) : HasExactKeys query mapper rows := by
  intro found same row member key key_in v looked_up
  rw [keys_found, Except.ok.injEq] at same
  subst same
  obtain ⟨own, own_in, own_found⟩ := exists_of_mem_of_mapM (keyed row member).1 key_in
  rw [looked_up, Except.ok.injEq] at own_found
  subst own_found
  exact (keyed row member).2 v own_in

namespace Window

variable {α : Type} {window : Window} {query : Select} {n : Int}

theorem length_apply_le_count {count : Nat} (bounded : window.count = some count) (rows : List α) :
    (window.apply rows).length ≤ count := by
  simp [apply, bounded, List.length_take]

theorem count_ofBounds (offset : Option Int) (nonneg : 0 ≤ n) :
    (ofBounds offset (some n)).count = some n.toNat := by
  simp [ofBounds, Option.filter, nonneg]

theorem map_literalBound (limit : query.limit.bind literalBound = some n) :
    query.limit.map literalBound = some (some n) := by
  obtain ⟨e, given, written⟩ := Option.bind_eq_some_iff.mp limit
  simp [given, written]

/-- A query with a limit that is written out, beside an offset that is, has a window of that size. -/
theorem literal?_of_limit (limit : query.limit.bind literalBound = some n) (nonneg : 0 ≤ n)
    (offset : ∀ e, query.offset = some e → (literalBound e).isSome = true) :
    ∃ window, literal? query = some window ∧ window.count = some n.toNat := by
  obtain ⟨skipped, skips⟩ : ∃ skipped, query.offset.map literalBound = Option.map some skipped := by
    cases given : query.offset with
    | none => exact ⟨none, rfl⟩
    | some e =>
        obtain ⟨o, written⟩ := Option.isSome_iff_exists.mp (offset e given)
        exact ⟨some o, by simp [written]⟩
  have asked : isAsked query = true := by
    obtain ⟨e, given, -⟩ := Option.bind_eq_some_iff.mp limit
    simp [isAsked, given]
  refine ⟨ofBounds skipped (some n), ?_, count_ofBounds skipped nonneg⟩
  rw [literal?, if_pos asked, skips, map_literalBound limit]
  cases skipped <;> rfl

end Window

/-! ## The ways to merge -/

section Merging

variable {query : Select} {mapper : ColumnMapper} {bindings : Bindings}
  {results : List (List R)} {answer : Option (MergedRows R)}

omit [ResultRow R] in
theorem withinLimit_mergeConcatenated : WithinLimit query (mergeConcatenated results query) := by
  intro n limit nonneg offset
  obtain ⟨window, literal, bounded⟩ := Window.literal?_of_limit limit nonneg offset
  have short := Window.length_apply_le_count bounded results.flatten
  simp only [mergeConcatenated, literal, MergedRows.size_eq, MergedRows.toList, MergedRows.groups,
    List.flatten_singleton]
  omega

theorem withinLimit_mergeOrdered {rows : List R}
    (merges : mergeOrdered results query mapper bindings = .ok rows) :
    WithinLimit query (.listed rows) := by
  intro n limit nonneg _
  obtain ⟨_, offset, count, sorted, _, _, count_found, _, rfl⟩ := mergeOrdered_eq_ok merges
  -- The merge asks the bindings too, which have no say in a limit that is written out.
  have bounded : Window.needBound bindings query.limit = .ok (some n) :=
    Window.needBound_of_literal (Window.map_literalBound limit)
  rw [bounded, Except.ok.injEq] at count_found
  subst count_found
  have short := Window.length_apply_le_count (Window.count_ofBounds offset nonneg) sorted
  simp only [MergedRows.size_eq, MergedRows.toList, MergedRows.groups, List.flatten_singleton]
  omega

theorem inOrder_mergeOrdered {rows : List R}
    (merges : mergeOrdered results query mapper bindings = .ok rows)
    (exact_keys : HasExactKeys query mapper results.flatten) :
    InOrder query mapper (.listed rows) := by
  obtain ⟨keys, _, _, sorted, keys_found, _, _, sorts, rfl⟩ := mergeOrdered_eq_ok merges
  have found : ∀ row ∈ results.flatten, keys.mapM (valueIn row) = .ok (tuple keys row) :=
    fun row member => found_of_sortRows sorts member
  obtain ⟨_, sorts', perm, rising, _⟩ := sortRows_eq_ok fun row member =>
    hasKeys_of_exact (found row member) (exact_keys keys keys_found row member)
  rw [sorts, Except.ok.injEq] at sorts'
  subst sorts'
  refine ⟨keys, keys_found, ?_, ?_⟩ <;>
    simp only [MergedRows.toList, MergedRows.groups, List.flatten_singleton]
  · exact fun row member => found row (perm.mem_iff.mp (Window.mem_of_mem_apply member))
  · exact List.Pairwise.sublist Window.apply_sublist rising

/-- The answers to a query that is no single aggregate are merged within its limit and in its order,
unless it asks for distinct rows. With `DISTINCT`, and without a window, the answers stay as they
are, whatever the order. -/
theorem merge_keeps_clauses (plain : query.aggregate = none) (several : 2 ≤ results.length)
    (merges : merge results (.select query) mapper bindings = .ok answer) :
    ∃ merged, answer = some merged ∧
      (query.distinct = false → WithinLimit query merged ∧
        (query.order ≠ [] → HasExactKeys query mapper results.flatten →
          InOrder query mapper merged)) ∧
      (query.distinct = true → query.limit = none → query.offset = none →
        merged = .concatenated results) := by
  rw [merge_several several] at merges
  obtain ⟨merged, found, rfl⟩ := map_eq_ok.mp merges
  refine ⟨merged, rfl, ?_⟩
  -- The cases follow the choice of the strategy: `DISTINCT` counts before `ORDER BY`.
  by_cases distinct : query.distinct = true
  · have strategy : MergeStrategy.ofSelect query = .distinct := by
      simp [MergeStrategy.ofSelect, plain, distinct]
    simp only [mergeQuery, strategy, Except.ok.injEq] at found
    simp [distinct, found]
  · refine ⟨fun _ => ?_, fun asked => absurd asked distinct⟩
    by_cases unordered : query.order = []
    · have strategy : MergeStrategy.ofSelect query = .concatenated := by
        simp [MergeStrategy.ofSelect, plain, distinct, unordered]
      simp only [mergeQuery, strategy, Except.ok.injEq] at found
      subst found
      exact ⟨withinLimit_mergeConcatenated, fun ordered => absurd unordered ordered⟩
    · have strategy : MergeStrategy.ofSelect query = .ordered := by
        simp [MergeStrategy.ofSelect, plain, distinct, unordered]
      simp only [mergeQuery, strategy] at found
      obtain ⟨rows, merged_rows, rfl⟩ := map_eq_ok.mp found
      exact ⟨withinLimit_mergeOrdered merged_rows,
        fun _ exact_keys => inOrder_mergeOrdered merged_rows exact_keys⟩

end Merging

/-! ## One row of two shards -/

/-- Two shards answer 3 and 4, and 2; one row is asked for. -/
theorem merge_keeps_clauses_of_first :
    Statement.parse "SELECT id FROM t ORDER BY id LIMIT 1" = .ok (.select (firstById none)) ∧
      merge [[rowOf 3, rowOf 4], [rowOf 2]] (.select (firstById none)) ColumnMapper.identity
        .empty = .ok (some (.listed [rowOf 2])) ∧
      WithinLimit (firstById none) (.listed [rowOf 2]) ∧
      InOrder (firstById none) ColumnMapper.identity (.listed [rowOf 2]) := by
  have merges : merge [[rowOf 3, rowOf 4], [rowOf 2]] (.select (firstById none))
      ColumnMapper.identity .empty = .ok (some (.listed [rowOf 2])) := by
    with_unfolding_all rfl
  have named : SortKey.ofQuery (firstById none) ColumnMapper.identity =
      .ok [⟨"id", .ascending⟩] := by
    with_unfolding_all rfl
  have exact_keys : HasExactKeys (firstById none) ColumnMapper.identity
      [[rowOf 3, rowOf 4], [rowOf 2]].flatten :=
    hasExactKeys_of_hasKeys named (by simp [hasKeys_rowOf])
  obtain ⟨merged, same, kept, -⟩ := merge_keeps_clauses (by with_unfolding_all rfl) (by decide) merges
  rw [Option.some.injEq] at same
  subst same
  obtain ⟨within, ordered⟩ := kept rfl
  exact ⟨by with_unfolding_all rfl, merges, within, ordered (by simp [firstById]) exact_keys⟩

/-- `SELECT DISTINCT id FROM t ORDER BY id LIMIT 1`. -/
def firstDistinct : Select :=
  { Select.ofItems [⟨.column none "id" ⟨16, 18⟩, none⟩] (some (.bare "t")) with
    distinct := true
    order := [⟨.column none "id" ⟨35, 37⟩, .ascending⟩]
    limit := some (.literal (.integer 1)) }

/-- Two shards answer 2 and 1: both rows are left, in the order of the shards. -/
theorem merge_drops_clauses :
    Statement.parse "SELECT DISTINCT id FROM t ORDER BY id LIMIT 1" =
        .ok (.select firstDistinct) ∧
      firstDistinct.aggregate = none ∧ firstDistinct.order ≠ [] ∧
      HasExactKeys firstDistinct ColumnMapper.identity [[rowOf 2], [rowOf 1]].flatten ∧
      ∃ merged, merge [[rowOf 2], [rowOf 1]] (.select firstDistinct) ColumnMapper.identity
          .empty = .ok (some merged) ∧
        ¬ WithinLimit firstDistinct merged ∧
        ¬ InOrder firstDistinct ColumnMapper.identity merged := by
  have named : SortKey.ofQuery firstDistinct ColumnMapper.identity =
      .ok [⟨"id", .ascending⟩] := by
    with_unfolding_all rfl
  refine ⟨by with_unfolding_all rfl, by with_unfolding_all rfl, by simp [firstDistinct],
    hasExactKeys_of_hasKeys named (by simp [hasKeys_rowOf]), .concatenated [[rowOf 2], [rowOf 1]],
    by with_unfolding_all rfl, fun within => ?_, fun ordered => ?_⟩
  · have short := within 1 (by with_unfolding_all rfl) (by decide)
      (by simp [firstDistinct, Select.ofItems])
    exact absurd short (by decide)
  · obtain ⟨keys, keys_found, -, rising⟩ := ordered
    rw [named, Except.ok.injEq] at keys_found
    subst keys_found
    have le := (List.pairwise_cons.mp rising).1 (rowOf 1) (by simp)
    exact absurd le (by decide +kernel)

end ShardedSql
