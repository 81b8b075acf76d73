import ShardedSql.Proofs.VisitedShards

/-!
What a head comment changes of the shards a statement visits. Its own shards are added to those that
the condition asks for; only the fallback to every shard, for conditions that ask for none, gives
way to it. Main statement: with a head comment that names some shard, a statement visits the shards
of the comment and no others but those it would visit without it; all of these, if its condition
pins a shard or asks for every one.
-/

namespace ShardedSql

open Sql

/-- A walk is silent if it pins nothing and does not ask for every shard. -/
theorem Routed.isSilent_eq_false_iff {routed : Routed} :
    routed.isSilent = false ↔ (∃ suffix, suffix ∈ routed.suffixes) ∨ routed.failOpen = true := by
  rw [Routed.isSilent, Bool.and_eq_false_iff, NameSet.isEmpty_eq_false_iff, Bool.not_eq_false']

namespace Router

variable {router : Router} {bindings : Bindings} {head : HeadComment} {sql : String}
  {statement : Statement} {routed : Routed} {own bare : NameSet}

/-- The shards that the answer of a walk asks for, whatever else is visited. -/
def demanded (router : Router) (routed : Routed) : NameSet :=
  if routed.failOpen then routed.suffixes ∪ router.strategy.allSuffixes else routed.suffixes

theorem mem_demanded {suffix : String} : suffix ∈ router.demanded routed ↔
    suffix ∈ routed.suffixes ∨ routed.failOpen = true ∧ suffix ∈ router.strategy.allSuffixes := by
  unfold demanded
  cases routed.failOpen <;> simp

theorem not_mem_demanded_of_silent (silent : routed.isSilent = true) {suffix : String} :
    suffix ∉ router.demanded routed := by
  intro member
  have speaks : routed.isSilent = false := by
    rw [Routed.isSilent_eq_false_iff]
    exact (mem_demanded.mp member).imp (⟨suffix, ·⟩) And.left
  rw [silent] at speaks
  cases speaks

/-- A head comment that names some shard leaves no room for the fallback. -/
theorem subTables_of_overrides (asks : router.overrides bindings head = .ok own)
    (some_shard : ∃ suffix, suffix ∈ own)
    (walked : router.visitStatement bindings statement = .ok routed) :
    router.subTables bindings ⟨head, sql, statement⟩ = .ok (own ∪ router.demanded routed) := by
  have determined : own.isEmpty = false := NameSet.isEmpty_eq_false_iff.mpr some_shard
  refine bind_eq_ok.mpr ⟨own, asks, bind_eq_ok.mpr ⟨routed, walked, pure_eq_ok.mpr ?_⟩⟩
  apply NameSet.ext
  intro suffix
  rw [NameSet.mem_union, mem_demanded]
  cases asked : routed.failOpen <;> simp [determined, or_assoc]

/-- Without a head comment a silent walk falls back to every shard. -/
theorem subTables_headless (not_insert : isInsert statement = false)
    (found : router.subTables bindings ⟨.empty, sql, statement⟩ = .ok bare) :
    ∃ routed, router.visitStatement bindings statement = .ok routed ∧
      bare = if routed.isSilent then router.strategy.allSuffixes else router.demanded routed := by
  obtain ⟨overridden, asked, found⟩ := bind_eq_ok.mp found
  obtain ⟨routed, walked, same⟩ := bind_eq_ok.mp found
  cases (overrides_of_headless rfl).symm.trans asked
  cases same
  have blank : (∅ : NameSet).isEmpty = true := rfl
  refine ⟨routed, walked, NameSet.ext fun suffix => ?_⟩
  cases silent : routed.isSilent with
  | true =>
      have unpinned : suffix ∉ routed.suffixes := by
        intro member
        have asked : suffix ∈ router.demanded routed := mem_demanded.mpr (.inl member)
        exact not_mem_demanded_of_silent silent asked
      simp [blank, not_insert, unpinned, NameSet.not_mem_empty]
  | false =>
      rw [if_neg Bool.false_ne_true, mem_demanded]
      cases routed.failOpen <;> simp [NameSet.not_mem_empty]

/-- A head comment adds the shards it names to those that a statement visits without it. If the walk
over the condition pins nothing and asks for no shard, the fallback to every shard is left out. -/
theorem subTables_commented (not_insert : isInsert statement = false)
    (asks : router.overrides bindings head = .ok own) (some_shard : ∃ suffix, suffix ∈ own)
    (found : router.subTables bindings ⟨.empty, sql, statement⟩ = .ok bare) :
    ∃ visited routed, router.subTables bindings ⟨head, sql, statement⟩ = .ok visited ∧
      router.visitStatement bindings statement = .ok routed ∧
      (∀ suffix ∈ own, suffix ∈ visited) ∧ (∀ suffix ∈ visited, suffix ∈ own ∪ bare) ∧
      ((∃ suffix, suffix ∈ routed.suffixes) ∨ routed.failOpen = true → visited = own ∪ bare) := by
  obtain ⟨routed, walked, rfl⟩ := subTables_headless not_insert found
  refine ⟨_, routed, subTables_of_overrides asks some_shard walked, walked, ?_, ?_,
    fun speaks => ?_⟩
  · exact fun suffix named => NameSet.mem_union.mpr (.inl named)
  · intro suffix member
    refine NameSet.mem_union.mpr ((NameSet.mem_union.mp member).imp_right fun demanded => ?_)
    cases silent : routed.isSilent with
    | true => exact absurd demanded (not_mem_demanded_of_silent silent)
    | false => exact demanded
  · rw [Routed.isSilent_eq_false_iff.mpr speaks, if_neg Bool.false_ne_true]

/-- The comment names the shard of 2 and the condition that of 1. -/
theorem subTables_commented_both :
    ∃ prepared visited,
      PreparedStatement.ofText "/* id:2 */ SELECT * FROM t WHERE id = 1" = .ok prepared ∧
      byId.overrides .empty prepared.head = .ok (Strategy.singleton "2") ∧
      byId.subTables .empty { prepared with head := .empty } = .ok (Strategy.singleton "1") ∧
      byId.subTables .empty prepared = .ok visited ∧
      visited = Strategy.singleton "2" ∪ Strategy.singleton "1" := by
  let prepared : PreparedStatement :=
    ⟨⟨[("id", "2")]⟩, "SELECT * FROM t WHERE id = 1", selectWhere idIsOne⟩
  have parsed : PreparedStatement.ofText "/* id:2 */ SELECT * FROM t WHERE id = 1" =
      .ok prepared := by
    with_unfolding_all rfl
  have asks : byId.overrides .empty prepared.head = .ok (Strategy.singleton "2") := by
    with_unfolding_all rfl
  have bare : byId.subTables .empty ⟨.empty, prepared.sql, prepared.statement⟩ =
      .ok (Strategy.singleton "1") := by
    with_unfolding_all rfl
  have walk : byId.visitStatement .empty prepared.statement =
      .ok (.pinned (Strategy.singleton "1")) := by
    with_unfolding_all rfl
  obtain ⟨visited, routed, found, walked, _, _, all⟩ :=
    subTables_commented rfl asks ⟨"2", Strategy.mem_singleton.mpr rfl⟩ bare
  cases walk.symm.trans walked
  exact ⟨prepared, visited, parsed, asks, bare, found,
    all (.inl ⟨"1", Strategy.mem_singleton.mpr rfl⟩)⟩

end Router

end ShardedSql
