import ShardedSql.Proofs.MergedWindow

/-!
What an ordered merge answers. Wherever it succeeds, every row has a value under each key. Main
statement: without floating-point numbers among these values, the answer is the window of all rows
in a stable sort by the keys.
-/

namespace ShardedSql

open Sql Text SortKey

variable {R : Type} [ResultRow R]

namespace Window

variable {α : Type} {offset count : Option Int} {rows : List α}

theorem apply_ofBounds_of_nonneg {n : Int} (bounded : count = some n) (nonneg : 0 ≤ n) :
    (ofBounds offset count).apply rows =
      (rows.drop (max 0 (offset.getD 0)).toNat).take n.toNat := by
  have skipped : (max 0 (offset.getD 0)).toNat = (offset.getD 0).toNat := by omega
  have kept : count.filter (0 ≤ ·) = some n := by
    rw [bounded, Option.filter_some, if_pos (by simpa using nonneg)]
  simp [ofBounds, apply, kept, skipped]

theorem apply_ofBounds_of_unlimited (unlimited : ∀ n, count = some n → n < 0) :
    (ofBounds offset count).apply rows = rows.drop (max 0 (offset.getD 0)).toNat := by
  have skipped : (max 0 (offset.getD 0)).toNat = (offset.getD 0).toNat := by omega
  have nothing : count.filter (0 ≤ ·) = none := by
    rw [Option.filter_eq_none_iff]
    intro n bounded
    have negative := unlimited n bounded
    simpa using negative
  simp [ofBounds, apply, nothing, skipped]

end Window

/-- Rows that are sorted have a value for each key. -/
theorem found_of_sortRows {keys : List SortKey} {rows sorted : List R}
    (sorts : sortRows keys rows = .ok sorted) {row : R} (member : row ∈ rows) :
    keys.mapM (valueIn row) = .ok (tuple keys row) := by
  obtain ⟨keyed, attached, _⟩ := bind_eq_ok.mp sorts
  obtain ⟨own, -, found⟩ := exists_of_mem_of_mapM attached member
  obtain ⟨values, looked_up, _⟩ := bind_eq_ok.mp found
  simp [tuple, looked_up, Except.toOption]

section Merging

variable {query : Select} {mapper : ColumnMapper} {bindings : Bindings}

/-- The steps of an ordered merge, each of which has succeeded. -/
theorem mergeOrdered_eq_ok {results : List (List R)} {rows : List R}
    (merges : mergeOrdered results query mapper bindings = .ok rows) :
    ∃ keys offset count sorted, SortKey.ofQuery query mapper = .ok keys ∧
      Window.needBound bindings query.offset = .ok offset ∧
      Window.needBound bindings query.limit = .ok count ∧
      sortRows keys results.flatten = .ok sorted ∧
      rows = (Window.ofBounds offset count).apply sorted := by
  unfold mergeOrdered at merges
  by_cases wildcard : query.hasWildcard = true
  · rw [if_pos wildcard] at merges
    cases merges
  · rw [if_neg wildcard] at merges
    obtain ⟨keys, keys_found, merges⟩ := bind_eq_ok.mp merges
    obtain ⟨window, resolved, merges⟩ := bind_eq_ok.mp merges
    obtain ⟨sorted, sorts, merges⟩ := bind_eq_ok.mp merges
    obtain ⟨offset, offset_found, resolved⟩ := bind_eq_ok.mp resolved
    obtain ⟨count, count_found, same⟩ := bind_eq_ok.mp resolved
    cases same
    cases merges
    exact ⟨keys, offset, count, sorted, keys_found, offset_found, count_found, sorts, rfl⟩

/-- Looked-up values without floating-point numbers make a row one with exact keys. -/
theorem hasKeys_of_exact {keys : List SortKey} {row : R}
    (found : keys.mapM (valueIn row) = .ok (tuple keys row))
    (exact_values : ∀ key ∈ keys, ∀ v, valueIn row key = .ok v → v.isExact = true) :
    HasKeys keys row := by
  constructor
  · exact found
  · intro v member
    obtain ⟨key, key_in, looked_up⟩ := exists_of_mem_mapM found member
    exact exact_values key key_in v looked_up

/-- The answer of an ordered merge is the window of a stable sort: of all rows, in the order of the
keys, each row behind those before it with equal keys. -/
theorem merge_eq_window_of_stable_sort {results : List (List R)} {answer : Option (MergedRows R)}
    (several : 2 ≤ results.length) (ordered : MergeStrategy.ofSelect query = .ordered)
    (merges : merge results (.select query) mapper bindings = .ok answer)
    (exact_values : ∀ keys, SortKey.ofQuery query mapper = .ok keys →
      ∀ row ∈ results.flatten, ∀ key ∈ keys, ∀ v, valueIn row key = .ok v → v.isExact = true) :
    ∃ merged keys offset count sorted, answer = some merged ∧
      SortKey.ofQuery query mapper = .ok keys ∧
      Window.needBound bindings query.offset = .ok offset ∧
      Window.needBound bindings query.limit = .ok count ∧
      (∀ row ∈ results.flatten, keys.mapM (valueIn row) = .ok (tuple keys row)) ∧
      sorted.Perm results.flatten ∧ Rising (rowOrder keys) sorted ∧
      KeepsTies (rowOrder keys) results.flatten sorted ∧
      (∀ n, count = some n → 0 ≤ n →
        merged.toList = (sorted.drop (max 0 (offset.getD 0)).toNat).take n.toNat) ∧
      ((∀ n, count = some n → n < 0) →
        merged.toList = sorted.drop (max 0 (offset.getD 0)).toNat) := by
  rw [merge_ordered several ordered] at merges
  obtain ⟨rows, merged_rows, rfl⟩ := map_eq_ok.mp merges
  obtain ⟨keys, offset, count, sorted, keys_found, offset_found, count_found, sorts, rfl⟩ :=
    mergeOrdered_eq_ok merged_rows
  have found : ∀ row ∈ results.flatten, keys.mapM (valueIn row) = .ok (tuple keys row) :=
    fun row member => found_of_sortRows sorts member
  obtain ⟨sorted', sorts', perm, rising, ties⟩ := sortRows_eq_ok fun row member =>
    hasKeys_of_exact (found row member) (exact_values keys keys_found row member)
  rw [sorts, Except.ok.injEq] at sorts'
  subst sorts'
  refine ⟨_, keys, offset, count, sorted, rfl, keys_found, offset_found, count_found, found, perm,
    rising, ties, ?_, ?_⟩
  · intro n bounded nonneg
    rw [← Window.apply_ofBounds_of_nonneg bounded nonneg]
    simp [MergedRows.toList, MergedRows.groups]
  · intro unlimited
    rw [← Window.apply_ofBounds_of_unlimited unlimited]
    simp [MergedRows.toList, MergedRows.groups]

end Merging

/-! ## Rows with equal keys -/

/-- `SELECT k, id FROM t ORDER BY k DESC LIMIT 2 OFFSET 1`. -/
def secondByKey : Select :=
  { Select.ofItems [⟨.column none "k" ⟨7, 8⟩, none⟩, ⟨.column none "id" ⟨10, 12⟩, none⟩]
      (some (.bare "t")) with
    order := [⟨.column none "k" ⟨29, 30⟩, .descending⟩]
    limit := some (.literal (.integer 2))
    offset := some (.literal (.integer 1)) }

def keyedRow (k id : Int64) : Row :=
  ⟨[("k", .integer (.ofInt64 k)), ("id", .integer (.ofInt64 id))]⟩

theorem valueIn_keyedRow (k id : Int64) (direction : Direction) :
    valueIn (keyedRow k id) ⟨"k", direction⟩ = .ok (.integer (.ofInt64 k)) := by
  have got : (keyedRow k id).get? "k" = some (.integer (.ofInt64 k)) := by
    simp [Row.get?, keyedRow, sameWord, sameChars]
  simp [valueIn, ResultRow.property?, got]

/-- Two shards with two rows each, of which every row has the key of another. -/
def tiedResults : List (List Row) :=
  [[keyedRow 1 1, keyedRow 2 2], [keyedRow 2 3, keyedRow 1 4]]

/-- The second and the third row by falling keys. -/
theorem merge_eq_window_of_ties :
    Statement.parse "SELECT k, id FROM t ORDER BY k DESC LIMIT 2 OFFSET 1" =
        .ok (.select secondByKey) ∧
      merge tiedResults (.select secondByKey) ColumnMapper.identity .empty =
        .ok (some (.listed [keyedRow 2 3, keyedRow 1 1])) ∧
      ∃ sorted, sorted.Perm tiedResults.flatten ∧
        Rising (rowOrder [⟨"k", .descending⟩]) sorted ∧
        KeepsTies (rowOrder [⟨"k", .descending⟩]) tiedResults.flatten sorted ∧
        [keyedRow 2 3, keyedRow 1 1] = (sorted.drop 1).take 2 := by
  have named : SortKey.ofQuery secondByKey ColumnMapper.identity = .ok [⟨"k", .descending⟩] := by
    with_unfolding_all rfl
  have merges : merge tiedResults (.select secondByKey) ColumnMapper.identity .empty =
      .ok (some (.listed [keyedRow 2 3, keyedRow 1 1])) := by
    with_unfolding_all rfl
  have exact_values : ∀ keys, SortKey.ofQuery secondByKey ColumnMapper.identity = .ok keys →
      ∀ row ∈ tiedResults.flatten, ∀ key ∈ keys, ∀ v, valueIn row key = .ok v →
        v.isExact = true := by
    intro keys keys_found row member key key_in v looked_up
    rw [named, Except.ok.injEq] at keys_found
    subst keys_found
    obtain rfl := List.mem_singleton.mp key_in
    have row_is : ∃ k id, row = keyedRow k id := by
      simp only [tiedResults, List.flatten_cons, List.flatten_nil, List.append_nil, List.cons_append,
        List.nil_append, List.mem_cons, List.not_mem_nil, or_false] at member
      rcases member with rfl | rfl | rfl | rfl <;> exact ⟨_, _, rfl⟩
    obtain ⟨k, id, rfl⟩ := row_is
    rw [valueIn_keyedRow, Except.ok.injEq] at looked_up
    subst looked_up
    rfl
  obtain ⟨merged, keys, offset, count, sorted, same, keys_found, offset_found, count_found, -, perm,
    rising, ties, bounded, -⟩ := merge_eq_window_of_stable_sort (by decide)
      (by with_unfolding_all rfl) merges exact_values
  rw [named, Except.ok.injEq] at keys_found
  subst keys_found
  have two : Window.needBound .empty secondByKey.limit = .ok (some 2) := by with_unfolding_all rfl
  have one : Window.needBound .empty secondByKey.offset = .ok (some 1) := by with_unfolding_all rfl
  rw [two, Except.ok.injEq] at count_found
  rw [one, Except.ok.injEq] at offset_found
  subst count_found offset_found
  rw [Option.some.injEq] at same
  subst same
  exact ⟨by with_unfolding_all rfl, merges, sorted, perm, rising, ties, bounded 2 rfl (by decide)⟩

end ShardedSql
