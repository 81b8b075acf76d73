import ShardedSql.Merge.Rows

/-!
The views of a merged answer. Its rows stand in groups, of which any may be empty, and each view
finds its way through the groups on its own: it adds up lengths, passes groups by an index, or reads
row after row. Main statement: all views agree with the list that the groups make one after the
other, so that no view shows how the rows are grouped.
-/

namespace ShardedSql.MergedRows

variable {R : Type}

theorem isEmpty_iff {merged : MergedRows R} : merged.isEmpty = true ↔ merged.toList = [] := by
  simp [isEmpty, toList, List.flatten_eq_nil_iff]

theorem get?_eq (merged : MergedRows R) (index : Nat) :
    merged.get? index = merged.toList[index]? :=
  getIn_eq merged.groups index

/-- An index has to be one of the rows, and then has the row that stands there. -/
theorem get_eq_ok_iff {merged : MergedRows R} {index : Nat} {row : R} :
    merged.get index = .ok row ↔ merged.toList[index]? = some row := by
  rw [get, get?_eq]
  cases merged.toList[index]? <;> simp

theorem get_eq_error_iff {merged : MergedRows R} {index : Nat} {error : RowOutOfRange} :
    merged.get index = .error error ↔
      merged.toList.length ≤ index ∧ error = ⟨index, merged.toList.length⟩ := by
  rw [← List.getElem?_eq_none_iff, get, get?_eq, size_eq]
  cases merged.toList[index]? <;> simp [eq_comm]

theorem rows_eq (merged : MergedRows R) : merged.rows = merged.toList :=
  readAll_eq merged.groups

/-- The list that is handed over as it is holds the same rows as one that is read. -/
theorem intoList_eq (merged : MergedRows R) : merged.intoList = merged.toList := by
  match merged with
  | .listed rows => simp [intoList, toList, groups]
  | .concatenated [] => simp [intoList, toList, groups, readAll_eq]
  | .concatenated [rows] => simp [intoList, toList, groups]
  | .concatenated (first :: second :: others) => exact readAll_eq _

theorem equalsList_eq [BEq R] (merged : MergedRows R) (rows : List R) :
    merged.equalsList rows = (merged.toList == rows) := by
  rw [equalsList, sameRows_eq, List.flatten_singleton]
  rfl

/-- Size, emptiness, rows by index, rows one after the other and equality are those of the one list
that the groups make. -/
theorem views_eq_toList [BEq R] (merged other : MergedRows R) (rows : List R) (index : Nat) :
    merged.size = merged.toList.length ∧
      (merged.isEmpty = true ↔ merged.toList = []) ∧
      merged.get? index = merged.toList[index]? ∧
      (∀ row, merged.get index = .ok row ↔ merged.toList[index]? = some row) ∧
      (∀ error, merged.get index = .error error ↔
        merged.toList.length ≤ index ∧ error = ⟨index, merged.toList.length⟩) ∧
      merged.rows = merged.toList ∧
      merged.intoList = merged.toList ∧
      (merged == other) = (merged.toList == other.toList) ∧
      merged.equalsList rows = (merged.toList == rows) :=
  ⟨size_eq merged, isEmpty_iff, get?_eq merged index, fun _ => get_eq_ok_iff,
    fun _ => get_eq_error_iff, rows_eq merged, intoList_eq merged,
    sameRows_eq merged.groups other.groups, equalsList_eq merged rows⟩

/-- An empty group takes no index. -/
example : (concatenated [[1, 2], [], [3]]).get 2 = .ok 3 ∧
    (concatenated [[1, 2], [], [3]]).get 3 = .error ⟨3, 3⟩ :=
  ⟨rfl, rfl⟩

end ShardedSql.MergedRows
