import ShardedSql.Proofs.Coverage
import ShardedSql.Proofs.Suffixes

/-!
How many shards a statement visits. Main statement: where shards are counted by remainders or by
months, a statement that reads or changes rows visits at least one of them, whatever its head comment
says, and no statement visits a shard that there is not.
-/

namespace ShardedSql

open Numeric Sql Text

theorem NameSet.isEmpty_eq_false_iff {set : NameSet} :
    set.isEmpty = false ↔ ∃ name, name ∈ set := by
  rw [NameSet.isEmpty, List.isEmpty_eq_false_iff_exists_mem]
  rfl

theorem Routed.exists_mem_of_not_silent {routed : Routed} (speaks : routed.isSilent = false)
    (closed : routed.failOpen = false) : ∃ suffix, suffix ∈ routed.suffixes := by
  rw [Routed.isSilent, closed, Bool.not_false, Bool.and_true] at speaks
  exact NameSet.isEmpty_eq_false_iff.mp speaks

namespace Router

variable {router : Router} {bindings : Bindings} {prepared : PreparedStatement}
  {suffixes : NameSet}

/-- Whatever asks for no shard in particular asks for all of them. -/
theorem exists_mem_subTables (listed : ∃ suffix, suffix ∈ router.strategy.allSuffixes)
    (not_insert : isInsert prepared.statement = false)
    (found : router.subTables bindings prepared = .ok suffixes) :
    ∃ suffix, suffix ∈ suffixes := by
  obtain ⟨overridden, _, found⟩ := bind_eq_ok.mp found
  obtain ⟨routed, _, same⟩ := bind_eq_ok.mp found
  cases same
  obtain ⟨one, listed⟩ := listed
  split
  case isTrue => exact ⟨one, NameSet.mem_union.mpr (.inr listed)⟩
  case isFalse pinned =>
    obtain ⟨closed, determined⟩ := Bool.or_eq_false_iff.mp (Bool.eq_false_iff.mpr pinned)
    rw [not_insert, Bool.not_false, Bool.and_true] at determined
    rcases Bool.and_eq_false_iff.mp determined with asked | speaks
    · obtain ⟨suffix, member⟩ := NameSet.isEmpty_eq_false_iff.mp asked
      exact ⟨suffix, NameSet.mem_union.mpr (.inl member)⟩
    · obtain ⟨suffix, member⟩ := Routed.exists_mem_of_not_silent speaks closed
      exact ⟨suffix, NameSet.mem_union.mpr (.inr member)⟩

theorem subTables_in_range (counts : router.strategy.Counts)
    (found : router.subTables bindings prepared = .ok suffixes) :
    (∀ suffix ∈ suffixes, suffix ∈ router.strategy.allSuffixes) ∧
      (isInsert prepared.statement = false → ∃ suffix, suffix ∈ suffixes) :=
  ⟨mem_allSuffixes_of_mem_subTables counts found,
    fun not_insert => exists_mem_subTables counts.exists_mem_allSuffixes not_insert found⟩

/-- The head comment asks for the shard of -1, and no row holds nothing. -/
theorem subTables_in_range_comment :
    ∃ prepared suffixes,
      PreparedStatement.ofText "/* id:-1 */ SELECT * FROM t WHERE id = NULL" = .ok prepared ∧
      byId.subTables .empty prepared = .ok suffixes ∧
      (∀ suffix ∈ suffixes, suffix ∈ byId.strategy.allSuffixes) ∧ ∃ suffix, suffix ∈ suffixes := by
  let prepared : PreparedStatement :=
    ⟨⟨[("id", "-1")]⟩, "SELECT * FROM t WHERE id = NULL",
      selectWhere (.binary (.column none "id" ⟨22, 24⟩) .eq (.literal .null))⟩
  have parsed : PreparedStatement.ofText "/* id:-1 */ SELECT * FROM t WHERE id = NULL" =
      .ok prepared := by
    with_unfolding_all rfl
  have visited : byId.subTables .empty prepared = .ok (Strategy.singleton "3") := by
    with_unfolding_all rfl
  have counts : byId.strategy.Counts := trivial
  obtain ⟨listed, some_shard⟩ := subTables_in_range counts visited
  exact ⟨prepared, _, parsed, visited, listed, some_shard rfl⟩

end Router

end ShardedSql
