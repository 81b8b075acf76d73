import ShardedSql.Proofs.UpdatedRows

/-!
The table an insert writes to. Its rows go to one shard, however many shards the insert reads from.
Main statement: all statements of an insert give the target the same name on a shard, or all leave
it as it is; where inserts have to find their shard, none does. If all tables are routed, the plan
fails exactly if the target has several shards, or none where it has to have one.
-/

namespace ShardedSql

open Numeric Sql Text

/-! ## Tables with one shard at most -/

namespace Rewrites

variable {sql : String} {plan : List TableShards}

/-- There is always a statement. -/
theorem toList_ofPlan_ne_nil (sql : String) (plan : List TableShards) :
    (ofPlan sql plan).toList ≠ [] := by
  have positive := volume_pos (suffixes_ne_nil plan)
  have total : (ofPlan sql plan).total = min (volume (sharded plan)) maxUInt64 :=
    combinations_eq (suffixes_ne_nil plan)
  have large : 0 < maxUInt64 := by decide
  have some_left : 0 < (ofPlan sql plan).total := by omega
  obtain ⟨count, left⟩ := Nat.exists_eq_add_one.mpr some_left
  have started : (ofPlan sql plan).nextIndex = 0 := rfl
  rw [toList, Rewrites.left, started, left, Nat.sub_zero, take, next?, started, if_pos some_left]
  exact List.cons_ne_nil _ _

/-- Every statement gives a table with one shard at most the name on this shard. -/
theorem mem_tables_iff_of_short (distinct : (plan.map (·.table)).Nodup) {shards : TableShards}
    (planned : shards ∈ plan) (short : shards.suffixes.length ≤ 1) {s : ShardStatement}
    (member : s ∈ (ofPlan sql plan).toList) (new : String) :
    (shards.table, new) ∈ s.tables ↔
      ∃ suffix ∈ shards.suffixes, new = physicalName shards.table suffix := by
  constructor
  · intro named
    have sound : (ofPlan sql plan).Sound fun table suffix =>
        ∃ other ∈ plan, other.table = table ∧ suffix ∈ other.suffixes :=
      sound_ofPlan fun other there suffix inside => ⟨other, there, rfl, inside⟩
    obtain ⟨suffix, ⟨other, there, same, inside⟩, renamed⟩ := (sound.mem_take member).2 _ named
    obtain rfl := List.inj_on_of_nodup_map distinct there planned same
    exact ⟨suffix, inside, renamed⟩
  · rintro ⟨suffix, inside, rfl⟩
    have dimension : shards ∈ sharded plan :=
      List.mem_filter.mpr ⟨planned, by simpa using List.ne_nil_of_mem inside⟩
    obtain ⟨positions, points, tables⟩ :=
      exists_points_of_mem_take (ofPlan sql plan) (points_start (suffixes_ne_nil plan)) member
    obtain ⟨other, there, named⟩ := exists_mem_namesAt points dimension
    have one : other = suffix := by
      match shards.suffixes, short, there, inside with
      | [only], _, there, inside => rw [List.mem_singleton.mp there, List.mem_singleton.mp inside]
    rw [tables, ← one]
    exact named

end Rewrites

namespace Rewriter

variable {rewriter : Rewriter} {bindings : Bindings} {prepared : PreparedStatement} {table : String}

/-! ## What a plan refuses -/

/-- If all tables of a statement are routed, the shards of an insert's target settle whether there
is a plan. -/
theorem plan_fails_iff_refuses (target : insertTarget? prepared.statement = some table)
    (listed : table ∈ prepared.tableNames) {suffixes : NameSet}
    (routed : ∀ other ∈ prepared.tableNames,
      ∃ own, rewriter.route bindings prepared other = .ok own)
    (found : rewriter.route bindings prepared table = .ok suffixes) :
    (∃ error, rewriter.plan bindings prepared = .error error) ↔ rewriter.Refuses suffixes := by
  rw [exists_error_iff, plan, exists_mapM_eq_ok_iff, not_iff_comm]
  constructor
  · intro accepted other member
    obtain ⟨own, answered⟩ := routed other member
    refine ⟨_, planTable_eq_ok_iff.mpr ⟨own, answered, fun same => ?_, rfl⟩⟩
    cases target.symm.trans same
    cases found.symm.trans answered
    exact accepted
  · intro planned
    obtain ⟨shards, here⟩ := planned table listed
    obtain ⟨own, answered, accepted, _⟩ := planTable_eq_ok_iff.mp here
    cases found.symm.trans answered
    exact accepted target

/-! ## The name of the target in all statements -/

section Inserts

variable {rewrites : Rewrites} (target : insertTarget? prepared.statement = some table)
  (listed : table ∈ prepared.tableNames)
  (rewritten : rewriter.rewrite bindings prepared = .ok rewrites)

include target listed rewritten

/-- The target of a planned insert has shards that are not refused, and the statements name it
there. -/
theorem exists_target_suffixes :
    ∃ suffixes, ¬ rewriter.Refuses suffixes ∧
      ∀ s ∈ rewrites.toList, ∀ new, (table, new) ∈ s.tables ↔
        ∃ suffix ∈ suffixes, new = physicalName table suffix := by
  obtain ⟨plan, planned, same⟩ := bind_eq_ok.mp rewritten
  cases same
  have tables := map_table_of_plan planned
  have distinct : (plan.map (·.table)).Nodup := tables ▸ prepared.tableNames.sorted.nodup
  rw [NameSet.mem_def, ← tables] at listed
  obtain ⟨shards, there, rfl⟩ := List.mem_map.mp listed
  obtain ⟨name, _, here⟩ := exists_of_mem_mapM planned there
  obtain ⟨suffixes, _, accepted, same⟩ := planTable_eq_ok_iff.mp here
  have own : shards.table = name := by rw [same]
  have answered : shards.suffixes = suffixes.toList := by rw [same]
  have kept : ¬ rewriter.Refuses suffixes := accepted (own ▸ target)
  have short : shards.suffixes.length ≤ 1 := by
    rw [answered]
    exact Nat.le_of_not_lt fun several => kept (.inl several)
  refine ⟨suffixes, kept, fun s member new => ?_⟩
  rw [Rewrites.mem_tables_iff_of_short distinct there short member, answered]
  rfl

/-- Where shards are not refused there is one of them, or none that has to be. -/
theorem exists_target_name :
    ∃ name : Option String, (rewriter.mandatory = true → ∃ new, name = some new) ∧
      ∀ s ∈ rewrites.toList, ∀ new, (table, new) ∈ s.tables ↔ name = some new := by
  obtain ⟨suffixes, accepted, named⟩ := exists_target_suffixes target listed rewritten
  refine ⟨suffixes.toList.head?.map (physicalName table), fun mandatory => ?_, ?_⟩
  · cases first : suffixes.toList.head? with
    | some suffix => exact ⟨_, rfl⟩
    | none =>
        have empty : suffixes = ∅ := by
          rw [← NameSet.isEmpty_iff, NameSet.isEmpty, List.head?_eq_none_iff.mp first]
          rfl
        exact absurd (.inr ⟨empty, mandatory⟩) accepted
  · intro s member new
    have short : suffixes.toList.length ≤ 1 :=
      Nat.le_of_not_lt fun several => accepted (.inl several)
    rw [named s member new]
    simp only [NameSet.mem_def]
    generalize suffixes.toList = shards at short ⊢
    cases shards with
    | nil => simp
    | cons suffix rest =>
        obtain rfl : rest = [] := List.length_eq_zero_iff.mp (by simpa using short)
        simp [eq_comm]

end Inserts

/-- All statements of an insert give its target one name, or none of them renames it, which cannot
be where an insert has to find its shard; and if every table can be routed, the plan fails exactly
if the target has two shards or more, or none where it has to have one. -/
theorem insert_has_one_target {s : Insert} (insertion : prepared.statement = .insert s) :
    (∀ rewrites, rewriter.rewrite bindings prepared = .ok rewrites →
      rewrites.toList ≠ [] ∧
      ∃ name : Option String, (rewriter.mandatory = true → ∃ new, name = some new) ∧
        ∀ statement ∈ rewrites.toList,
          statement.sql = renameWords statement.renamings prepared.sql ∧
          ∀ new, (lowerCase s.table, new) ∈ statement.tables ↔ name = some new) ∧
    ((∀ table ∈ prepared.tableNames,
        ∃ suffixes, rewriter.route bindings prepared table = .ok suffixes) →
      ∃ suffixes, rewriter.route bindings prepared (lowerCase s.table) = .ok suffixes ∧
        ((∃ error, rewriter.plan bindings prepared = .error error) ↔
          2 ≤ suffixes.size ∨ suffixes = ∅ ∧ rewriter.mandatory = true)) := by
  have target : insertTarget? prepared.statement = some (lowerCase s.table) := by
    rw [insertion]
    rfl
  have listed : lowerCase s.table ∈ prepared.tableNames := by
    rw [PreparedStatement.tableNames, insertion]
    exact NameSet.mem_ofList.mpr List.mem_cons_self
  constructor
  · intro rewrites rewritten
    obtain ⟨name, found, named⟩ := exists_target_name target listed rewritten
    refine ⟨?_, name, found, fun statement member => ⟨?_, named statement member⟩⟩
    · obtain ⟨plan, _, same⟩ := bind_eq_ok.mp rewritten
      cases same
      exact Rewrites.toList_ofPlan_ne_nil prepared.sql plan
    · exact (found_of_mem_rewrite rewritten member).1
  · intro routed
    obtain ⟨suffixes, found⟩ := routed _ listed
    exact ⟨suffixes, found, plan_fails_iff_refuses target listed routed found⟩

/-! ## An insert that reads from two shards -/

/-- `INSERT INTO t (id, x) VALUES (1, (SELECT y FROM u))`. -/
def insertFromOther : Insert where
  schema := none
  table := "t"
  columns := ["id", "x"]
  source := .values [[.literal (.integer 1), .subquery
    (Select.ofItems [⟨.column none "y" ⟨41, 42⟩, none⟩] (some (.bare "u")))]]
  onDuplicate := []

/-- Inserts have to find their shard; `t` has four shards and `u` has two. -/
def fourAndTwo : Rewriter :=
  ⟨⟨[Router.byId, .ofTable "u" (.modulo "y" 2 Nat.two_pos)]⟩, true⟩

theorem insert_has_one_target_beside_two :
    ∃ prepared rewrites,
      PreparedStatement.ofText "INSERT INTO t (id, x) VALUES (1, (SELECT y FROM u))" =
        .ok prepared ∧
      prepared.statement = .insert insertFromOther ∧
      fourAndTwo.rewrite .empty prepared = .ok rewrites ∧
      rewrites.toList.map (·.tables) =
        [[("t", "t_1"), ("u", "u_0")], [("t", "t_1"), ("u", "u_1")]] ∧
      (∃ name : Option String, (∃ new, name = some new) ∧ ∀ statement ∈ rewrites.toList,
        ∀ new, ("t", new) ∈ statement.tables ↔ name = some new) ∧
      ¬ ∃ error, fourAndTwo.plan .empty prepared = .error error := by
  let prepared : PreparedStatement :=
    ⟨.empty, "INSERT INTO t (id, x) VALUES (1, (SELECT y FROM u))", .insert insertFromOther⟩
  have parsed : PreparedStatement.ofText "INSERT INTO t (id, x) VALUES (1, (SELECT y FROM u))" =
      .ok prepared := by
    with_unfolding_all rfl
  have rewritten : fourAndTwo.rewrite .empty prepared =
      .ok (.ofPlan prepared.sql [⟨"t", ["1"]⟩, ⟨"u", ["0", "1"]⟩]) := by
    with_unfolding_all rfl
  have listed : prepared.tableNames = .ofList ["t", "u"] := by with_unfolding_all rfl
  have target : fourAndTwo.route .empty prepared "t" = .ok (Strategy.singleton "1") := by
    with_unfolding_all rfl
  have source : fourAndTwo.route .empty prepared "u" = .ok (.ofList ["0", "1"]) := by
    with_unfolding_all rfl
  have insertion : prepared.statement = .insert insertFromOther := rfl
  obtain ⟨names, plans⟩ := @insert_has_one_target fourAndTwo .empty prepared _ insertion
  have lower : lowerCase insertFromOther.table = "t" := by with_unfolding_all rfl
  rw [lower] at names plans
  refine ⟨prepared, _, parsed, rfl, rewritten, by with_unfolding_all rfl, ?_, ?_⟩
  · obtain ⟨_, name, found, named⟩ := names _ rewritten
    exact ⟨name, found rfl, fun statement member => (named statement member).2⟩
  · have routed : ∀ table ∈ prepared.tableNames,
        ∃ suffixes, fourAndTwo.route .empty prepared table = .ok suffixes := by
      intro table member
      rw [listed, NameSet.mem_ofList, List.mem_cons, List.mem_singleton] at member
      rcases member with rfl | rfl
      · exact ⟨_, target⟩
      · exact ⟨_, source⟩
    obtain ⟨suffixes, found, fails⟩ := plans routed
    cases target.symm.trans found
    rw [fails]
    decide +kernel

end Rewriter

end ShardedSql
