import ShardedSql.Proofs.InsertedRows
import ShardedSql.Proofs.PlainNames
import ShardedSql.Proofs.ProductOrder

/-!
Updates that give rows a new value in the sharding column. Where an update runs is settled by its
condition; what it assigns is not looked at, so its rows may end up on a shard that their new value
does not belong to. Main statement: they stay where they belong exactly if the condition asks for
shards of the new value only, and for at least one.
-/

namespace ShardedSql

open Sql Text

/-! ## The names of a table in all statements -/

namespace Rewrites

variable {sql : String} {dimensions : List TableShards} {positions : List Nat}

/-- The tables of a statement are those at some positions. -/
theorem exists_points_of_mem_take (rewrites : Rewrites)
    (points : Points rewrites.dimensions rewrites.odometer) {count : Nat} {s : ShardStatement}
    (member : s ∈ rewrites.take count) :
    ∃ positions, Points rewrites.dimensions positions ∧
      s.tables = namesAt rewrites.dimensions positions := by
  induction count generalizing rewrites with
  | zero => cases member
  | succ count ih =>
      rw [take] at member
      unfold next? at member
      split at member
      · next first rest next =>
          split at next
          · cases next
            rcases List.mem_cons.mp member with rfl | later
            · exact ⟨rewrites.odometer, points, rfl⟩
            · let rest : Rewrites := { rewrites with
                odometer := (turn rewrites.dimensions rewrites.odometer).1
                nextIndex := rewrites.nextIndex + 1 }
              have turned : Points rest.dimensions rest.odometer := points_turn points
              exact ih rest turned later
          · cases next
      · cases member

/-- Every table with suffixes gets one of them. -/
theorem exists_mem_namesAt (points : Points dimensions positions) {shards : TableShards}
    (member : shards ∈ dimensions) :
    ∃ suffix ∈ shards.suffixes,
      (shards.table, physicalName shards.table suffix) ∈ namesAt dimensions positions := by
  induction points with
  | nil => cases member
  | @cons first position dimensions positions here _ ih =>
      rcases List.mem_cons.mp member with rfl | later
      · refine ⟨_, List.getElem_mem here, ?_⟩
        simp [namesAt, List.getElem?_eq_getElem here]
      · obtain ⟨suffix, inside, named⟩ := ih later
        exact ⟨suffix, inside, List.mem_cons_of_mem _ named⟩

/-- Each suffix of a table is given to it at some positions. -/
theorem exists_points_naming (nonempty : ∀ shards ∈ dimensions, shards.suffixes ≠ [])
    {shards : TableShards} (member : shards ∈ dimensions) {suffix : String}
    (inside : suffix ∈ shards.suffixes) :
    ∃ positions, Points dimensions positions ∧
      (shards.table, physicalName shards.table suffix) ∈ namesAt dimensions positions := by
  induction dimensions with
  | nil => cases member
  | cons first dimensions ih =>
      have rest_nonempty := fun other later => nonempty other (List.mem_cons_of_mem first later)
      rcases List.mem_cons.mp member with rfl | later
      · obtain ⟨position, here, same⟩ := List.getElem_of_mem inside
        refine ⟨position :: _, .cons here (points_start rest_nonempty), ?_⟩
        simp [namesAt, List.getElem?_eq_getElem here, same]
      · obtain ⟨positions, points, named⟩ := ih rest_nonempty later
        have first_pos := List.length_pos_of_ne_nil (nonempty first List.mem_cons_self)
        exact ⟨0 :: positions, .cons first_pos points, List.mem_cons_of_mem _ named⟩

theorem map_fst_namesAt (points : Points dimensions positions) :
    (namesAt dimensions positions).map (·.1) = dimensions.map (·.table) := by
  induction points with
  | nil => rfl
  | cons _ _ ih => simpa [namesAt] using ih

/-- No statement is left out: the one with a number is among so many. -/
theorem Stands.mem_take {rewrites : Rewrites} {index : Nat}
    (stands : Stands sql dimensions index rewrites)
    (nonempty : ∀ shards ∈ dimensions, shards.suffixes ≠ []) {count number : Nat}
    (from_index : index ≤ number) (below : number < volume dimensions)
    (within : number < index + count) :
    statementAt sql dimensions number ∈ rewrites.take count := by
  induction count generalizing index rewrites with
  | zero => omega
  | succ count ih =>
      obtain ⟨rest, next, stands_rest⟩ := stands.next nonempty (by omega)
      rw [take, next]
      rcases Nat.lt_or_eq_of_le from_index with later | rfl
      · exact List.mem_cons_of_mem _ (ih stands_rest later (by omega))
      · exact List.mem_cons_self

theorem mem_toList_ofPlan (sql : String) {plan : List TableShards}
    (fits : volume (sharded plan) < 2 ^ 64) {number : Nat}
    (below : number < volume (sharded plan)) :
    statementAt sql (sharded plan) number ∈ (ofPlan sql plan).toList := by
  have stands := stands_ofPlan sql fits
  refine stands.mem_take (suffixes_ne_nil plan) (Nat.zero_le _) below ?_
  rw [stands.left]
  omega

/-- Each suffix of a planned table is the one that some statement gives it. -/
theorem exists_statement_naming (sql : String) {plan : List TableShards}
    (fits : volume (sharded plan) < 2 ^ 64) (distinct : (plan.map (·.table)).Nodup)
    {shards : TableShards} (planned : shards ∈ plan) {suffix : String}
    (inside : suffix ∈ shards.suffixes) :
    ∃ s ∈ (ofPlan sql plan).toList,
      ∀ new, (shards.table, new) ∈ s.tables ↔ new = physicalName shards.table suffix := by
  have nonempty := suffixes_ne_nil plan
  have dimension : shards ∈ sharded plan :=
    List.mem_filter.mpr ⟨planned, by simpa using List.ne_nil_of_mem inside⟩
  obtain ⟨positions, points, named⟩ := exists_points_naming nonempty dimension inside
  obtain ⟨number, below, rfl⟩ := exists_digits nonempty points
  have keys : ((namesAt (sharded plan) (digits (sharded plan) number)).map (·.1)).Nodup := by
    rw [map_fst_namesAt points]
    exact distinct.sublist (List.filter_sublist.map _)
  refine ⟨_, mem_toList_ofPlan sql fits below, fun new => ⟨fun named_new => ?_, ?_⟩⟩
  · exact congrArg Prod.snd (List.inj_on_of_nodup_map keys named_new named rfl)
  · rintro rfl
    exact named

end Rewrites

/-! ## What an update asks for and what it assigns -/

namespace Router

variable {router : Router} {bindings : Bindings} {statement : Statement} {v : Value}

/-- The shard of a suffix may hold rows with this value. -/
def HasShard (router : Router) (v : Value) (suffix : String) : Prop :=
  ∃ own, router.strategy.suffixesFor v = .ok own ∧ suffix ∈ own

/-- The values, as far as they are known, that an update gives the sharding column. -/
def assignedValues (router : Router) (bindings : Bindings) (u : Update) : List Value :=
  (u.assignments.filter fun assignment =>
      router.isShardColumn (Statement.update u).boundTables
        (.column assignment.table assignment.column (.point 0))).filterMap
    fun assignment => assignment.value.boundValue? bindings

/-- The condition of a statement asks for a shard: a value that the column is compared to pins it,
or every shard is asked for. -/
def Asks (router : Router) (bindings : Bindings) (statement : Statement) (suffix : String) : Prop :=
  router.PinnedBy (conditionComparands router bindings statement) suffix ∨
    suffix ∈ router.strategy.allSuffixes ∧
      ((∃ item ∈ conditionComparands router bindings statement, item.isOpen = true) ∨
        ∀ other, ¬ router.PinnedBy (conditionComparands router bindings statement) other)

/-- The condition asks for shards of the value, and for no others. -/
structure AsksOnlyFor (router : Router) (bindings : Bindings) (statement : Statement) (v : Value) :
    Prop where
  some_shard : ∃ suffix, router.Asks bindings statement suffix
  own : ∀ suffix, router.Asks bindings statement suffix → router.HasShard v suffix

/-- The statement runs on a shard of the table that may hold rows with this value. -/
def RunsOnShardOf (router : Router) (table : String) (v : Value) (s : ShardStatement) : Prop :=
  ∃ suffix, (table, physicalName table suffix) ∈ s.tables ∧ router.HasShard v suffix

end Router

namespace Rewriter

variable {rewriter : Rewriter} {bindings : Bindings} {prepared : PreparedStatement}
  {router : Router} {rewrites : Rewrites} {table : String}

/-- A plan lists each table of the statement once, in their order. -/
theorem map_table_of_plan {plan : List TableShards}
    (planned : rewriter.plan bindings prepared = .ok plan) :
    plan.map (·.table) = prepared.tableNames.toList := by
  have each := mapM_eq_ok.mp planned
  clear planned
  generalize prepared.tableNames.toList = names at each
  induction each with
  | nil => rfl
  | cons here _ ih => rw [List.map_cons, ih, (planTable_eq_ok here).1]

/-- The plan of a rewrite has the table with the suffixes its router finds. -/
theorem exists_planned (rewritten : rewriter.rewrite bindings prepared = .ok rewrites)
    (listed : table ∈ prepared.tableNames) (routed : rewriter.routers.get? table = some router) :
    ∃ plan suffixes, rewrites = .ofPlan prepared.sql plan ∧
      router.subTables bindings prepared = .ok suffixes ∧ ⟨table, suffixes.toList⟩ ∈ plan ∧
      plan.map (·.table) = prepared.tableNames.toList := by
  obtain ⟨plan, planned, same⟩ := bind_eq_ok.mp rewritten
  cases same
  have tables := map_table_of_plan planned
  rw [NameSet.mem_def, ← tables] at listed
  obtain ⟨shards, member, rfl⟩ := List.mem_map.mp listed
  obtain ⟨name, _, here⟩ := exists_of_mem_mapM planned member
  obtain ⟨rfl, ⟨unrouted, _⟩ | ⟨found, suffixes, known, answered, same⟩⟩ := planTable_eq_ok here
  · rw [routed] at unrouted
    cases unrouted
  · cases routed.symm.trans known
    exact ⟨plan, suffixes, rfl, answered, same ▸ member, tables⟩

section Updates

variable {v : Value} (headless : prepared.head.isEmpty = true)
  (not_insert : Router.isInsert prepared.statement = false)
  (listed : table ∈ prepared.tableNames) (routed : rewriter.routers.get? table = some router)
  (rewritten : rewriter.rewrite bindings prepared = .ok rewrites)

include headless not_insert listed routed rewritten

/-- Where the condition asks for shards of the value only, the statements run on these. -/
theorem runsOnShardOf_of_asksOnlyFor
    (asks : router.AsksOnlyFor bindings prepared.statement v) {s : ShardStatement}
    (member : s ∈ rewrites.toList) : router.RunsOnShardOf table v s := by
  obtain ⟨plan, suffixes, rfl, answered, planned, _⟩ := exists_planned rewritten listed routed
  have asked := Router.mem_subTables_iff headless not_insert answered
  obtain ⟨one, asked_one⟩ := asks.some_shard
  have nonempty : suffixes.toList ≠ [] := List.ne_nil_of_mem ((asked one).mpr asked_one)
  have dimension : ⟨table, suffixes.toList⟩ ∈ Rewrites.sharded plan :=
    List.mem_filter.mpr ⟨planned, by simpa using nonempty⟩
  obtain ⟨positions, points, tables⟩ :=
    Rewrites.exists_points_of_mem_take (.ofPlan prepared.sql plan)
      (Rewrites.points_start (Rewrites.suffixes_ne_nil plan)) member
  obtain ⟨suffix, inside, named⟩ := Rewrites.exists_mem_namesAt points dimension
  exact ⟨suffix, tables ▸ named, asks.own suffix ((asked suffix).mp inside)⟩

/-- Where all statements run on shards of the value, the condition asks for no other ones. -/
theorem asksOnlyFor_of_runsOnShardOf (fits : Rewrites.volume rewrites.dimensions < 2 ^ 64)
    (runs : ∀ s ∈ rewrites.toList, router.RunsOnShardOf table v s) :
    router.AsksOnlyFor bindings prepared.statement v := by
  obtain ⟨plan, suffixes, same, answered, planned, tables⟩ :=
    exists_planned rewritten listed routed
  have asked := Router.mem_subTables_iff headless not_insert answered
  subst same
  constructor
  · have first := Rewrites.mem_toList_ofPlan prepared.sql fits
      (Rewrites.volume_pos (Rewrites.suffixes_ne_nil plan))
    obtain ⟨suffix, named, _⟩ := runs _ first
    obtain ⟨_, found⟩ := found_of_mem_rewrite rewritten first
    obtain ⟨other, ⟨_, router', suffixes', known, answered', inside⟩, _⟩ := found _ named
    cases routed.symm.trans known
    cases answered.symm.trans answered'
    exact ⟨other, (asked other).mp inside⟩
  · intro suffix asked_suffix
    have inside : suffix ∈ suffixes.toList := (asked suffix).mpr asked_suffix
    have distinct : (plan.map (·.table)).Nodup := tables ▸ prepared.tableNames.sorted.nodup
    obtain ⟨s, member, named⟩ :=
      Rewrites.exists_statement_naming prepared.sql fits distinct planned inside
    obtain ⟨other, named_other, own⟩ := runs s member
    exact physicalName_inj ((named _).mp named_other) ▸ own

end Updates

/-- Without a head comment an update runs where its condition asks, whatever it assigns. All its
statements run on shards of a value that it gives the sharding column, if the condition asks for
shards of this value only and for one at least; and only if it does, unless there are more
combinations of shards than can be counted. -/
theorem update_keeps_rows_iff {u : Update} (updates : prepared.statement = .update u)
    (headless : prepared.head.isEmpty = true)
    (routed : rewriter.routers.get? (lowerCase u.table) = some router)
    (rewritten : rewriter.rewrite bindings prepared = .ok rewrites) :
    ∀ v ∈ router.assignedValues bindings u,
      (router.AsksOnlyFor bindings prepared.statement v →
        ∀ s ∈ rewrites.toList, router.RunsOnShardOf (lowerCase u.table) v s) ∧
      (Rewrites.volume rewrites.dimensions < 2 ^ 64 →
        (∀ s ∈ rewrites.toList, router.RunsOnShardOf (lowerCase u.table) v s) →
          router.AsksOnlyFor bindings prepared.statement v) := by
  have not_insert : Router.isInsert prepared.statement = false := by rw [updates]; rfl
  have listed : lowerCase u.table ∈ prepared.tableNames := by
    rw [PreparedStatement.tableNames, updates]
    exact NameSet.mem_ofList.mpr List.mem_cons_self
  exact fun v _ =>
    ⟨fun asks s member =>
      runsOnShardOf_of_asksOnlyFor headless not_insert listed routed rewritten asks member,
    fun fits runs =>
      asksOnlyFor_of_runsOnShardOf headless not_insert listed routed rewritten fits runs⟩

/-! ## Rows of a table in four shards -/

/-- `UPDATE t SET id = … WHERE id = 1`. -/
def renumbering (n : Int64) : Update :=
  ⟨none, "t", none, [⟨none, "id", .literal (.integer n)⟩],
    some (.binary (.column none "id" ⟨26, 28⟩) .eq (.literal (.integer 1)))⟩

def renumber (sql : String) (n : Int64) : PreparedStatement :=
  ⟨.empty, sql, .update (renumbering n)⟩

/-- The rewrites of a statement that visits the second shard of `t`. -/
def secondShard (sql : String) : Rewrites :=
  .ofPlan sql [⟨"t", ["1"]⟩]

theorem asks_renumber {sql : String} {n : Int64} {suffix : String}
    (asks : Router.byId.Asks .empty (renumber sql n).statement suffix) : suffix = "1" := by
  have comparands : Router.conditionComparands Router.byId .empty (renumber sql n).statement =
      [.value (.ofLiteral (.integer 1))] := by
    have column : Router.byId.isShardColumn [⟨"t", none⟩] (.column none "id" ⟨26, 28⟩) = true := by
      decide +kernel
    show Router.comparands Router.byId .empty [⟨"t", none⟩] (.binary _ .eq _) = _
    rw [Router.comparands, if_pos column, Router.sideComparands]
  have own : Router.byId.suffixesFor (.ofLiteral (.integer 1)) = .ok (Strategy.singleton "1") := by
    with_unfolding_all rfl
  have pinned_iff (other : String) :
      Router.byId.PinnedBy [.value (.ofLiteral (.integer 1))] other ↔ other = "1" := by
    simp only [Router.PinnedBy, List.mem_singleton, Comparand.value.injEq]
    constructor
    · rintro ⟨_, _, rfl, found, inside⟩
      cases own.symm.trans found
      exact Strategy.mem_singleton.mp inside
    · rintro rfl
      exact ⟨_, _, rfl, own, Strategy.mem_singleton.mpr rfl⟩
  rw [Router.Asks, comparands] at asks
  rcases asks with pinned | ⟨_, ⟨item, inside, opened⟩ | nothing⟩
  · exact (pinned_iff suffix).mp pinned
  · cases List.mem_singleton.mp inside
    cases opened
  · exact absurd ((pinned_iff "1").mpr rfl) (nothing "1")

theorem update_keeps_rows_five :
    PreparedStatement.ofText "UPDATE t SET id = 5 WHERE id = 1" =
        .ok (renumber "UPDATE t SET id = 5 WHERE id = 1" 5) ∧
      byId.rewrite .empty (renumber "UPDATE t SET id = 5 WHERE id = 1" 5) =
        .ok (secondShard "UPDATE t SET id = 5 WHERE id = 1") ∧
      ∀ s ∈ (secondShard "UPDATE t SET id = 5 WHERE id = 1").toList,
        Router.byId.RunsOnShardOf (lowerCase "t") (.ofLiteral (.integer 5)) s := by
  have parsed : PreparedStatement.ofText "UPDATE t SET id = 5 WHERE id = 1" =
      .ok (renumber "UPDATE t SET id = 5 WHERE id = 1" 5) := by
    with_unfolding_all rfl
  have rewritten : byId.rewrite .empty (renumber "UPDATE t SET id = 5 WHERE id = 1" 5) =
      .ok (secondShard "UPDATE t SET id = 5 WHERE id = 1") := by
    with_unfolding_all rfl
  have routed : byId.routers.get? (lowerCase "t") = some Router.byId := by
    with_unfolding_all rfl
  have assigned : Router.byId.assignedValues .empty (renumbering 5) =
      [.ofLiteral (.integer 5)] := by
    with_unfolding_all rfl
  have own : Router.byId.HasShard (.ofLiteral (.integer 5)) "1" :=
    ⟨Strategy.singleton "1", by with_unfolding_all rfl, Strategy.mem_singleton.mpr rfl⟩
  have asks : Router.byId.AsksOnlyFor .empty
      (renumber "UPDATE t SET id = 5 WHERE id = 1" 5).statement (.ofLiteral (.integer 5)) := by
    refine ⟨⟨"1", .inl ⟨.ofLiteral (.integer 1), Strategy.singleton "1", ?_, ?_, ?_⟩⟩, ?_⟩
    · with_unfolding_all exact List.mem_singleton_self _
    · with_unfolding_all rfl
    · exact Strategy.mem_singleton.mpr rfl
    · exact fun suffix asked => asks_renumber asked ▸ own
  obtain ⟨keeps, _⟩ := update_keeps_rows_iff (u := renumbering 5) rfl rfl routed rewritten _
    (assigned ▸ List.mem_singleton_self _)
  exact ⟨parsed, rewritten, keeps asks⟩

/-- The row with the number 1 gets the number 2 and stays where rows with 1 are. -/
theorem update_strands_row :
    PreparedStatement.ofText "UPDATE t SET id = 2 WHERE id = 1" =
        .ok (renumber "UPDATE t SET id = 2 WHERE id = 1" 2) ∧
      byId.rewrite .empty (renumber "UPDATE t SET id = 2 WHERE id = 1" 2) =
        .ok (secondShard "UPDATE t SET id = 2 WHERE id = 1") ∧
      Router.byId.assignedValues .empty (renumbering 2) = [.ofLiteral (.integer 2)] ∧
      ¬ ∀ s ∈ (secondShard "UPDATE t SET id = 2 WHERE id = 1").toList,
        Router.byId.RunsOnShardOf "t" (.ofLiteral (.integer 2)) s := by
  refine ⟨by with_unfolding_all rfl, by with_unfolding_all rfl, by with_unfolding_all rfl,
    fun runs => ?_⟩
  have member : ⟨"UPDATE t_1 SET id = 2 WHERE id = 1", 0, [("t", "t_1")]⟩ ∈
      (secondShard "UPDATE t SET id = 2 WHERE id = 1").toList := by
    decide +kernel
  obtain ⟨suffix, named, own, found, inside⟩ := runs _ member
  have two : Router.byId.strategy.suffixesFor (.ofLiteral (.integer 2)) =
      .ok (Strategy.singleton "2") := by
    with_unfolding_all rfl
  cases two.symm.trans found
  cases Strategy.mem_singleton.mp inside
  exact absurd named (by decide +kernel)

end Rewriter

end ShardedSql
