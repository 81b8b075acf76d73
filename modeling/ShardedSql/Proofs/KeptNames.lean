import ShardedSql.Proofs.RenamedTables

/-!
What renaming does to the other names of a statement. The text for a shard is read, and the shards
in it are taken back for their tables. Main statement: this gives the prepared statement again
exactly if each of its names is kept, and which names are kept depends on the parts they play.
-/

namespace ShardedSql

open Numeric Sql Text Segment

/-- A mapping of the names of tables, those before columns included. -/
def inTables (f : String → String) : NameMap
  | .table, name => f name
  | .schemaTable, name => f name
  | .qualifier, name => f name
  | .schema, name => name
  | .qualifiedColumn, name => name
  | .type, name => name
  | .other, name => name

namespace ShardStatement

/-- The name of a renamed table is given in lower case, any other as it is. -/
def foldTable (s : ShardStatement) (name : String) : String :=
  match s.tables.find? fun entry => sameWord entry.1 name with
  | some entry => entry.1
  | none => name

/-- The table that a name stands for, which may be that of a shard. -/
def logicalTable (s : ShardStatement) (name : String) : String :=
  match s.tables.find? fun entry => sameWord entry.2 name with
  | some entry => entry.1
  | none => s.foldTable name

def IsTable (s : ShardStatement) (name : String) : Prop :=
  ∃ entry ∈ s.tables, sameWord entry.1 name = true

def IsShard (s : ShardStatement) (name : String) : Prop :=
  ∃ entry ∈ s.tables, sameWord entry.2 name = true

/-- Whether a name in its part can be told from the text for the shard: where tables stand, it is a
renamed table, or neither renamed nor taken for a shard; anywhere else it is not renamed. -/
def Keeps (s : ShardStatement) : NameRole → String → Prop
  | .table, name => s.IsTable name ∨ renameName s.renamings name = name ∧ ¬ s.IsShard name
  | .qualifier, name => s.IsTable name ∨ renameName s.renamings name = name ∧ ¬ s.IsShard name
  | .schemaTable, name => ¬ s.IsShard name
  | .schema, name => renameName s.renamings name = name
  | .qualifiedColumn, _ => True
  | .type, name => renameName (upperNames s.renamings) name = name
  | .other, name => renameName s.renamings name = name

instance (s : ShardStatement) (name : String) : Decidable (s.IsTable name) :=
  inferInstanceAs (Decidable (∃ entry ∈ s.tables, _))

instance (s : ShardStatement) (name : String) : Decidable (s.IsShard name) :=
  inferInstanceAs (Decidable (∃ entry ∈ s.tables, _))

instance (s : ShardStatement) (role : NameRole) (name : String) : Decidable (s.Keeps role name) :=
  match role with
  | .table => inferInstanceAs (Decidable (_ ∨ _ ∧ ¬ _))
  | .qualifier => inferInstanceAs (Decidable (_ ∨ _ ∧ ¬ _))
  | .schemaTable => inferInstanceAs (Decidable (¬ _))
  | .schema => inferInstanceAs (Decidable (_ = _))
  | .qualifiedColumn => .isTrue trivial
  | .type => inferInstanceAs (Decidable (_ = _))
  | .other => inferInstanceAs (Decidable (_ = _))

variable {s : ShardStatement}

/-- Either no entry passes, or the name is the first of the two that one has. -/
theorem find?_cases (entries : List (String × String)) (test : String × String → Bool)
    (otherwise : String) :
    (match entries.find? test with | some entry => entry.1 | none => otherwise) = otherwise ∧
        ¬ (∃ entry ∈ entries, test entry = true) ∨
      ∃ entry ∈ entries, test entry = true ∧
        (match entries.find? test with | some entry => entry.1 | none => otherwise) = entry.1 := by
  split
  · next entry found =>
      exact .inr ⟨entry, List.mem_of_find?_eq_some found, List.find?_some found, rfl⟩
  · next none =>
      refine .inl ⟨rfl, ?_⟩
      rintro ⟨entry, member, same⟩
      exact List.find?_eq_none.mp none entry member same

theorem foldTable_cases (s : ShardStatement) (name : String) :
    s.foldTable name = name ∧ ¬ s.IsTable name ∨
      ∃ entry ∈ s.tables, sameWord entry.1 name = true ∧ s.foldTable name = entry.1 :=
  find?_cases s.tables (fun entry => sameWord entry.1 name) name

theorem logicalTable_cases (s : ShardStatement) (name : String) :
    s.logicalTable name = s.foldTable name ∧ ¬ s.IsShard name ∨
      ∃ entry ∈ s.tables, sameWord entry.2 name = true ∧ s.logicalTable name = entry.1 :=
  find?_cases s.tables (fun entry => sameWord entry.2 name) (s.foldTable name)

theorem length_eq_of_sameWord {left right : String} (same : sameWord left right = true) :
    left.toList.length = right.toList.length := by
  rw [sameWord, sameChars_iff] at same
  simpa [foldCase] using congrArg List.length same

/-- A name is longer than the table it is a shard of. -/
theorem Numbers.length_lt_of_sameWord (numbers : s.Numbers) {entry : String × String}
    (member : entry ∈ s.tables) {name : String} (same : sameWord entry.2 name = true) :
    entry.1.toList.length < name.toList.length := by
  obtain ⟨suffix, _, new⟩ := numbers.numbered entry member
  rw [← length_eq_of_sameWord same, new, toList_physicalName]
  simp

theorem length_foldTable (s : ShardStatement) (name : String) :
    (s.foldTable name).toList.length = name.toList.length := by
  rcases foldTable_cases s name with ⟨same, _⟩ | ⟨entry, _, same, fold⟩
  · rw [same]
  · rw [fold, length_eq_of_sameWord same]

/-- Behind a schema a name stays, and is told unless it is that of a shard. -/
theorem Numbers.logicalTable_eq_iff (numbers : s.Numbers) (name : String) :
    s.logicalTable name = s.foldTable name ↔ ¬ s.IsShard name := by
  constructor
  · rintro same ⟨entry, member, shard⟩
    rcases logicalTable_cases s name with ⟨_, other⟩ | ⟨found, found_member, here, logical⟩
    · exact other ⟨entry, member, shard⟩
    · have shorter := numbers.length_lt_of_sameWord found_member here
      rw [← length_foldTable s name, ← same, logical] at shorter
      exact absurd shorter (Nat.lt_irrefl _)
  · intro other
    rcases logicalTable_cases s name with ⟨same, _⟩ | ⟨entry, member, shard, _⟩
    · exact same
    · exact absurd ⟨entry, member, shard⟩ other

/-- The shard of a renamed table is taken back for that table. -/
theorem Numbers.logicalTable_physical (numbers : s.Numbers) {entry : String × String}
    (member : entry ∈ s.tables) : s.logicalTable entry.2 = entry.1 := by
  rcases logicalTable_cases s entry.2 with ⟨_, other⟩ | ⟨found, found_member, same, logical⟩
  · exact absurd ⟨entry, member, sameWord_self _⟩ other
  · obtain ⟨suffix, numeric, new⟩ := numbers.numbered entry member
    obtain ⟨suffix', numeric', new'⟩ := numbers.numbered found found_member
    rw [new, new'] at same
    have folded := foldCase_eq_of_sameWord_physicalName numeric' numeric same
    rw [numbers.lower found found_member, numbers.lower entry member] at folded
    rw [logical, String.toList_inj.mp folded]

/-- Where tables stand, a name is told if it is a renamed table, or stays and is no shard's. -/
theorem Numbers.logicalTable_renameName (numbers : s.Numbers) (name : String) :
    s.logicalTable (renameName s.renamings name) = s.foldTable name ↔
      s.IsTable name ∨ renameName s.renamings name = name ∧ ¬ s.IsShard name := by
  by_cases table : s.IsTable name
  · refine ⟨fun _ => .inl table, fun _ => ?_⟩
    obtain ⟨entry, member, same⟩ := table
    have plain := numbers.plain entry member
    rw [sameWord, sameChars_iff] at same
    have nonempty : name.toList ≠ [] := by
      intro empty
      rw [empty] at same
      exact plain.1 (List.map_eq_nil_iff.mp same)
    have inside : ∀ c ∈ name.toList, isNameChar c = true :=
      forall_of_foldCase_eq (congr_of_letters isNameChar_of_isAlpha) same
        fun c here => (plain.2 c here).1
    rw [renameName_word nonempty inside, foldTable]
    cases found : s.tables.find? fun entry => sameWord entry.1 name with
    | some first => exact numbers.logicalTable_physical (List.mem_of_find?_eq_some found)
    | none =>
        have other := List.find?_eq_none.mp found entry member
        rw [sameWord, sameChars_iff] at other
        exact absurd same other
  · have fold : s.foldTable name = name := by
      rcases foldTable_cases s name with ⟨same, _⟩ | ⟨entry, member, same, _⟩
      · exact same
      · exact absurd ⟨entry, member, same⟩ table
    -- No table is given for a name that is none.
    have unlisted {entry : String × String} (member : entry ∈ s.tables) : entry.1 ≠ name := by
      rintro rfl
      exact table ⟨entry, member, sameWord_self _⟩
    constructor
    · intro told
      refine .inr ?_
      rw [fold] at told
      have stays : renameName s.renamings name = name := by
        rcases logicalTable_cases s (renameName s.renamings name) with
          ⟨same, _⟩ | ⟨entry, member, _, logical⟩
        · rcases foldTable_cases s (renameName s.renamings name) with
            ⟨kept, _⟩ | ⟨entry, member, _, folded⟩
          · rw [← kept, ← same, told]
          · exact absurd (by rw [← folded, ← same, told]) (unlisted member)
        · exact absurd (by rw [← logical, told]) (unlisted member)
      refine ⟨stays, (numbers.logicalTable_eq_iff name).mp ?_⟩
      rw [stays] at told
      rw [told, fold]
    · rintro (here | ⟨stays, other⟩)
      · exact absurd here table
      · rw [stays]
        exact (numbers.logicalTable_eq_iff name).mpr other

/-- A name is told from the text for the shard exactly if its part keeps it. -/
theorem Numbers.told_iff (numbers : s.Numbers) (role : NameRole) (name : String) :
    (shardNames s.renamings).andThen (inTables s.logicalTable) role name =
      inTables s.foldTable role name ↔ s.Keeps role name := by
  cases role with
  | table => exact numbers.logicalTable_renameName name
  | schemaTable => exact numbers.logicalTable_eq_iff name
  | schema => exact Iff.rfl
  | qualifier => exact numbers.logicalTable_renameName name
  | qualifiedColumn => exact iff_of_true rfl trivial
  | type => exact Iff.rfl
  | other => exact Iff.rfl

end ShardStatement

/-- The text for a shard, with shards taken back for their tables, is the prepared statement again
up to places and the case of tables, exactly if each name is kept. -/
theorem Rewriter.named_rewrite_iff {rewriter : Rewriter} {bindings : Bindings} {text : String}
    {prepared : PreparedStatement} {rewrites : Rewrites} {s : ShardStatement}
    (counts : rewriter.routers.Counts) (prepares : PreparedStatement.ofText text = .ok prepared)
    (rewritten : rewriter.rewrite bindings prepared = .ok rewrites) (member : s ∈ rewrites.toList)
    (reads : s.Reads prepared) :
    ∃ parsed, Statement.parse s.sql = .ok parsed ∧
      (parsed.named (inTables s.logicalTable) = prepared.statement.named (inTables s.foldTable) ↔
        ∀ role name, (role, name) ∈ prepared.statement.names → s.Keeps role name) := by
  obtain ⟨parsed, read, same⟩ := parse_rewrite counts prepares rewritten member reads
  have numbers := numbers_of_rewrite counts rewritten member reads
  refine ⟨parsed, read, ?_⟩
  have back : parsed.named (inTables s.logicalTable) =
      prepared.statement.named ((shardNames s.renamings).andThen (inTables s.logicalTable)) := by
    rw [← Statement.named_named, ← same, Statement.named_named]
    rfl
  rw [back, Statement.named_eq_iff]
  exact forall_congr' fun role => forall_congr' fun name =>
    imp_congr_right fun _ => numbers.told_iff role name

theorem named_rewrite_qualifier :
    ∃ prepared parsed,
      PreparedStatement.ofText "SELECT orders.note FROM orders WHERE id = 1" = .ok prepared ∧
      ordersById.rewrite .empty prepared =
        .ok (firstPlan "SELECT orders.note FROM orders WHERE id = 1") ∧
      firstShard "SELECT orders_1.note FROM orders_1 WHERE id = 1" ∈
        (firstPlan "SELECT orders.note FROM orders WHERE id = 1").toList ∧
      Statement.parse "SELECT orders_1.note FROM orders_1 WHERE id = 1" = .ok parsed ∧
      parsed.named (inTables
          (firstShard "SELECT orders_1.note FROM orders_1 WHERE id = 1").logicalTable) =
        prepared.statement.named (inTables
          (firstShard "SELECT orders_1.note FROM orders_1 WHERE id = 1").foldTable) := by
  let prepared : PreparedStatement :=
    ⟨.empty, "SELECT orders.note FROM orders WHERE id = 1",
      whereIdIsOne (.column (some "orders") "note" ⟨7, 18⟩) (.bare "orders") ⟨37, 39⟩⟩
  have prepares : PreparedStatement.ofText "SELECT orders.note FROM orders WHERE id = 1" =
      .ok prepared := by
    with_unfolding_all rfl
  have rewritten : ordersById.rewrite .empty prepared =
      .ok (firstPlan "SELECT orders.note FROM orders WHERE id = 1") := by
    with_unfolding_all rfl
  have member : firstShard "SELECT orders_1.note FROM orders_1 WHERE id = 1" ∈
      (firstPlan "SELECT orders.note FROM orders WHERE id = 1").toList := by
    decide +kernel
  have reads : (firstShard "SELECT orders_1.note FROM orders_1 WHERE id = 1").Reads prepared :=
    ⟨by decide +kernel, by decide +kernel, by decide +kernel, by decide +kernel⟩
  have keeps : ∀ entry ∈ prepared.statement.names,
      (firstShard "SELECT orders_1.note FROM orders_1 WHERE id = 1").Keeps entry.1 entry.2 := by
    decide +kernel
  obtain ⟨parsed, read, told⟩ :=
    Rewriter.named_rewrite_iff counts_ordersById prepares rewritten member reads
  exact ⟨prepared, parsed, prepares, rewritten, member, read,
    told.mpr fun role name inside => keeps (role, name) inside⟩

/-- A column that is named like its table is renamed with it. -/
theorem named_rewrite_column :
    ∃ prepared parsed,
      PreparedStatement.ofText "SELECT orders FROM orders WHERE id = 1" = .ok prepared ∧
      ordersById.rewrite .empty prepared =
        .ok (firstPlan "SELECT orders FROM orders WHERE id = 1") ∧
      firstShard "SELECT orders_1 FROM orders_1 WHERE id = 1" ∈
        (firstPlan "SELECT orders FROM orders WHERE id = 1").toList ∧
      Statement.parse "SELECT orders_1 FROM orders_1 WHERE id = 1" = .ok parsed ∧
      parsed.named (inTables
          (firstShard "SELECT orders_1 FROM orders_1 WHERE id = 1").logicalTable) ≠
        prepared.statement.named (inTables
          (firstShard "SELECT orders_1 FROM orders_1 WHERE id = 1").foldTable) := by
  let prepared : PreparedStatement :=
    ⟨.empty, "SELECT orders FROM orders WHERE id = 1",
      whereIdIsOne (.column none "orders" ⟨7, 13⟩) (.bare "orders") ⟨32, 34⟩⟩
  let parsed : Statement :=
    whereIdIsOne (.column none "orders_1" ⟨7, 15⟩) (.bare "orders_1") ⟨36, 38⟩
  have prepares : PreparedStatement.ofText "SELECT orders FROM orders WHERE id = 1" =
      .ok prepared := by
    with_unfolding_all rfl
  have rewritten : ordersById.rewrite .empty prepared =
      .ok (firstPlan "SELECT orders FROM orders WHERE id = 1") := by
    with_unfolding_all rfl
  have read : Statement.parse "SELECT orders_1 FROM orders_1 WHERE id = 1" = .ok parsed := by
    with_unfolding_all rfl
  refine ⟨prepared, parsed, prepares, rewritten, by decide +kernel, read, fun same => ?_⟩
  exact absurd (congrArg Statement.names same) (by decide +kernel)

end ShardedSql
