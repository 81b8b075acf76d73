import Mathlib.Data.List.Find
import ShardedSql.Proofs.RenamedStatement

/-!
The tables of a statement for a shard. Main statement: these are the tables of the prepared
statement, each that is renamed by its name on the shard, exactly if none of those stands behind a
schema.
-/

namespace ShardedSql

open Numeric Sql Text Segment

namespace ShardStatement

/-- The name that a table has on the shard. -/
def nameOf (s : ShardStatement) (table : String) : String :=
  match s.tables.find? (·.1 == table) with
  | some entry => entry.2
  | none => table

/-- Each renamed table has a plain name in lower case and gets a number. -/
structure Numbers (s : ShardStatement) : Prop where
  plain : ∀ entry ∈ s.tables, IsPlain entry.1
  lower : ∀ entry ∈ s.tables, foldCase entry.1.toList = entry.1.toList
  numbered : ∀ entry ∈ s.tables, ∃ suffix, IsNumeric suffix ∧
    entry.2 = physicalName entry.1 suffix

variable {s : ShardStatement}

/-- A word by itself is renamed if it is a table. -/
theorem renameName_word {name : String} (nonempty : name.toList ≠ [])
    (inside : ∀ c ∈ name.toList, isNameChar c = true) :
    renameName s.renamings name =
      ((s.tables.find? fun entry => sameWord entry.1 name).map (·.2)).getD name := by
  have found : s.renamings.find? (fun entry => sameChars entry.old.toList name.toList) =
      (s.tables.find? fun entry => sameWord entry.1 name).map fun entry => ⟨entry.1, entry.2⟩ :=
    List.find?_map
  rw [renameName, renameText_alone nonempty inside, renamed, found]
  cases s.tables.find? fun entry => sameWord entry.1 name <;> simp

theorem Numbers.sameWord_eq (numbers : s.Numbers) {entry : String × String}
    (member : entry ∈ s.tables) {name : String} (plain : IsPlain name) :
    sameWord entry.1 name = (entry.1 == lowerCase name) := by
  rw [Bool.eq_iff_iff, sameWord, sameChars_iff, numbers.lower entry member, beq_iff_eq,
    plain.lowerCase_eq, lowerAscii, ← String.toList_inj, String.toList_ofList]

theorem Numbers.lowerCase_physical (numbers : s.Numbers) {entry : String × String}
    (member : entry ∈ s.tables) : lowerCase entry.2 = entry.2 := by
  obtain ⟨suffix, numeric, new⟩ := numbers.numbered entry member
  rw [new, (isPlain_physicalName (numbers.plain entry member) numeric).lowerCase_eq, lowerAscii,
    foldCase_physicalName numeric, numbers.lower entry member, ← toList_physicalName,
    String.ofList_toList]

/-- A plain name is renamed as the table it is the name of. -/
theorem Numbers.lowerCase_renameName (numbers : s.Numbers) {name : String}
    (plain : IsPlain name) :
    lowerCase (renameName s.renamings name) = s.nameOf (lowerCase name) := by
  have same : s.tables.find? (fun entry => sameWord entry.1 name) =
      s.tables.find? (·.1 == lowerCase name) :=
    List.find?_congr fun entry member => numbers.sameWord_eq member plain
  rw [renameName_word plain.1 fun c member => (plain.2 c member).1, same, nameOf]
  cases found : s.tables.find? (·.1 == lowerCase name) with
  | none => rfl
  | some entry => exact numbers.lowerCase_physical (List.mem_of_find?_eq_some found)

theorem nameOf_of_not_mem {table : String} (other : table ∉ s.tables.map (·.1)) :
    s.nameOf table = table := by
  have none : s.tables.find? (·.1 == table) = none := by
    rw [List.find?_eq_none]
    intro entry member same
    exact other (List.mem_map.mpr ⟨entry, member, beq_iff_eq.mp same⟩)
  rw [nameOf, none]

/-- Each place that names a table without need of a schema names it by its name on the shard. -/
theorem Numbers.listed_mapTable (numbers : s.Numbers) {use : Option String × String}
    (plain : listed use ∈ s.tables.map (·.1) → IsPlain use.2)
    (other : listed use ∉ s.tables.map (·.1) → renameName s.renamings use.2 = use.2)
    (bare : listed use ∈ s.tables.map (·.1) → use.1 = none) :
    listed (mapTable (shardNames s.renamings) use) = s.nameOf (listed use) := by
  match use with
  | (none, name) =>
      by_cases renamed : lowerCase name ∈ s.tables.map (·.1)
      · exact numbers.lowerCase_renameName (plain renamed)
      · change lowerCase (renameName s.renamings name) = s.nameOf (lowerCase name)
        rw [other renamed, nameOf_of_not_mem renamed]
  | (some schema, name) =>
      have unlisted : lowerCase name ∉ s.tables.map (·.1) := by
        intro renamed
        cases bare renamed
      exact (nameOf_of_not_mem unlisted).symm

theorem exists_of_nameOf {table : String} (member : table ∈ s.tables.map (·.1)) :
    ∃ entry ∈ s.tables, s.nameOf table = entry.2 := by
  unfold nameOf
  split
  · next entry found => exact ⟨entry, List.mem_of_find?_eq_some found, rfl⟩
  · next none =>
      obtain ⟨entry, inside, rfl⟩ := List.mem_map.mp member
      exact absurd (beq_self_eq_true entry.1) (List.find?_eq_none.mp none entry inside)

end ShardStatement

section Statements

variable {rewriter : Rewriter} {bindings : Bindings} {text : String}
  {prepared : PreparedStatement} {rewrites : Rewrites} {s : ShardStatement}

theorem PreparedStatement.mem_tableNames {table : String} :
    table ∈ prepared.tableNames ↔ ∃ use ∈ prepared.statement.tableUses, listed use = table := by
  rw [tableNames, Statement.tableNames_eq, NameSet.mem_ofList, List.mem_map]

theorem Rewriter.numbers_of_rewrite (counts : rewriter.routers.Counts)
    (rewritten : rewriter.rewrite bindings prepared = .ok rewrites) (member : s ∈ rewrites.toList)
    (reads : s.Reads prepared) : s.Numbers := by
  have tables := (mem_rewrite counts rewritten member).2
  have written {entry : String × String} (inside : entry ∈ s.tables) :
      ∃ name, IsPlain name ∧ lowerCase name = entry.1 := by
    obtain ⟨_, ⟨known, _⟩, _⟩ := tables entry inside
    obtain ⟨use, used, same⟩ := PreparedStatement.mem_tableNames.mp known
    refine ⟨use.2, reads.plain use used ?_, same⟩
    rw [same]
    exact List.mem_map.mpr ⟨entry, inside, rfl⟩
  constructor
  · intro entry inside
    obtain ⟨name, word, same⟩ := written inside
    rw [← same]
    exact isPlain_lowerCase word
  · intro entry inside
    obtain ⟨name, _, same⟩ := written inside
    rw [← same, foldCase_lowerCase]
  · intro entry inside
    obtain ⟨suffix, ⟨_, numeric⟩, new⟩ := tables entry inside
    exact ⟨suffix, numeric, new⟩

/-- The tables of a renamed statement, by the places that name them. -/
theorem tableNames_of_named {parsed : Statement} {f : NameMap}
    (same : parsed.named .identity = prepared.statement.named f) :
    parsed.tableNames =
      .ofList (prepared.statement.tableUses.map fun use => listed (mapTable f use)) := by
  have identity : mapTable NameMap.identity = id := by
    funext use
    obtain ⟨_ | _, _⟩ := use <;> rfl
  have uses := congrArg Statement.tableUses same
  rw [Statement.tableUses_named, Statement.tableUses_named, identity, List.map_id] at uses
  rw [Statement.tableNames_eq, uses, List.map_map]
  rfl

/-- The tables of the text for a shard are the tables of the statement under their names on the
shard, exactly if each table that is renamed is named without a schema. -/
theorem Rewriter.tableNames_rewrite_iff (counts : rewriter.routers.Counts)
    (prepares : PreparedStatement.ofText text = .ok prepared)
    (rewritten : rewriter.rewrite bindings prepared = .ok rewrites) (member : s ∈ rewrites.toList)
    (reads : s.Reads prepared)
    (others : ∀ use ∈ prepared.statement.tableUses, listed use ∉ s.tables.map (·.1) →
      renameName s.renamings use.2 = use.2)
    (fresh : ∀ entry ∈ s.tables, entry.2 ∉ prepared.tableNames) :
    ∃ parsed, Statement.parse s.sql = .ok parsed ∧
      (parsed.tableNames = .ofList (prepared.tableNames.toList.map s.nameOf) ↔
        ∀ use ∈ prepared.statement.tableUses, listed use ∈ s.tables.map (·.1) → use.1 = none) := by
  obtain ⟨parsed, read, same⟩ := parse_rewrite counts prepares rewritten member reads
  have numbers := numbers_of_rewrite counts rewritten member reads
  refine ⟨parsed, read, ?_⟩
  rw [tableNames_of_named same]
  constructor
  · intro equal use used renamed
    match use with
    | (none, _) => rfl
    | (some schema, name) =>
        -- Behind a schema the name stays, but no table has that name on the shard.
        have stays : lowerCase name ∈ NameSet.ofList (prepared.tableNames.toList.map s.nameOf) := by
          rw [← equal, NameSet.mem_ofList]
          exact List.mem_map.mpr ⟨_, used, rfl⟩
        obtain ⟨table, known, image⟩ := List.mem_map.mp (NameSet.mem_ofList.mp stays)
        have here : lowerCase name ∈ prepared.tableNames :=
          PreparedStatement.mem_tableNames.mpr ⟨_, used, rfl⟩
        by_cases inside : table ∈ s.tables.map (·.1)
        · obtain ⟨entry, entry_member, physical⟩ := ShardStatement.exists_of_nameOf inside
          rw [physical] at image
          rw [← image] at here
          exact absurd here (fresh entry entry_member)
        · rw [ShardStatement.nameOf_of_not_mem inside] at image
          rw [image] at inside
          exact absurd renamed inside
  · intro bare
    have image {use : Option String × String} (used : use ∈ prepared.statement.tableUses) :
        listed (mapTable (shardNames s.renamings) use) = s.nameOf (listed use) :=
      numbers.listed_mapTable (reads.plain use used) (others use used) (bare use used)
    apply NameSet.ext
    intro table
    rw [NameSet.mem_ofList, NameSet.mem_ofList, List.mem_map, List.mem_map]
    constructor
    · rintro ⟨use, used, rfl⟩
      exact ⟨listed use, PreparedStatement.mem_tableNames.mpr ⟨use, used, rfl⟩, (image used).symm⟩
    · rintro ⟨_, known, rfl⟩
      obtain ⟨use, used, rfl⟩ := PreparedStatement.mem_tableNames.mp known
      exact ⟨use, used, image used⟩

end Statements

/-! ## One statement -/

/-- `orders` are shared out by the remainders of `id` by 2. -/
def ordersById : Rewriter :=
  ⟨⟨[.ofTable "orders" (.modulo "id" 2 (by decide))]⟩, false⟩

theorem counts_ordersById : ordersById.routers.Counts := by
  intro router member
  cases List.mem_singleton.mp member
  trivial

/-- A query that asks for `id = 1`; `place` is where the `id` of the condition stands. -/
def whereIdIsOne (item : Expr) (source : TableRef) (place : Span) : Statement :=
  .select { Select.ofItems [⟨item, none⟩] (some source) with
    condition := some (.binary (.column none "id" place) .eq (.literal (.integer 1))) }

/-- The plan of a text that reads the shard of 1, and the one statement of this plan. -/
def firstPlan (sql : String) : Rewrites :=
  ⟨sql, [⟨"orders", ["1"]⟩], [0], 0, 1⟩

def firstShard (sql : String) : ShardStatement :=
  ⟨sql, 0, [("orders", "orders_1")]⟩

theorem tableNames_rewrite_orders :
    ∃ prepared parsed,
      PreparedStatement.ofText "SELECT * FROM Orders WHERE id = 1" = .ok prepared ∧
      ordersById.rewrite .empty prepared = .ok (firstPlan "SELECT * FROM Orders WHERE id = 1") ∧
      firstShard "SELECT * FROM orders_1 WHERE id = 1" ∈
        (firstPlan "SELECT * FROM Orders WHERE id = 1").toList ∧
      Statement.parse "SELECT * FROM orders_1 WHERE id = 1" = .ok parsed ∧
      parsed.tableNames = .ofList (prepared.tableNames.toList.map
        (firstShard "SELECT * FROM orders_1 WHERE id = 1").nameOf) := by
  let prepared : PreparedStatement :=
    ⟨.empty, "SELECT * FROM Orders WHERE id = 1",
      whereIdIsOne (.wildcard none) (.bare "Orders") ⟨27, 29⟩⟩
  have prepares : PreparedStatement.ofText "SELECT * FROM Orders WHERE id = 1" = .ok prepared := by
    with_unfolding_all rfl
  have rewritten : ordersById.rewrite .empty prepared =
      .ok (firstPlan "SELECT * FROM Orders WHERE id = 1") := by
    with_unfolding_all rfl
  have member : firstShard "SELECT * FROM orders_1 WHERE id = 1" ∈
      (firstPlan "SELECT * FROM Orders WHERE id = 1").toList := by
    decide +kernel
  have reads : (firstShard "SELECT * FROM orders_1 WHERE id = 1").Reads prepared :=
    ⟨by decide +kernel, by decide +kernel, by decide +kernel, by decide +kernel⟩
  obtain ⟨parsed, read, tables⟩ :=
    Rewriter.tableNames_rewrite_iff counts_ordersById prepares rewritten member reads
      (by decide +kernel) (by decide +kernel)
  exact ⟨prepared, parsed, prepares, rewritten, member, read, tables.mpr (by decide +kernel)⟩

/-- A table behind a schema keeps its name, although the statement counts it as renamed. -/
theorem tableNames_rewrite_qualified :
    ∃ prepared parsed,
      PreparedStatement.ofText "SELECT * FROM db.orders WHERE id = 1" = .ok prepared ∧
      ordersById.rewrite .empty prepared =
        .ok (firstPlan "SELECT * FROM db.orders WHERE id = 1") ∧
      firstShard "SELECT * FROM db.orders WHERE id = 1" ∈
        (firstPlan "SELECT * FROM db.orders WHERE id = 1").toList ∧
      Statement.parse "SELECT * FROM db.orders WHERE id = 1" = .ok parsed ∧
      parsed.tableNames ≠ .ofList (prepared.tableNames.toList.map
        (firstShard "SELECT * FROM db.orders WHERE id = 1").nameOf) := by
  let prepared : PreparedStatement :=
    ⟨.empty, "SELECT * FROM db.orders WHERE id = 1",
      whereIdIsOne (.wildcard none) (.table (some "db") "orders" none) ⟨30, 32⟩⟩
  have prepares : PreparedStatement.ofText "SELECT * FROM db.orders WHERE id = 1" =
      .ok prepared := by
    with_unfolding_all rfl
  have rewritten : ordersById.rewrite .empty prepared =
      .ok (firstPlan "SELECT * FROM db.orders WHERE id = 1") := by
    with_unfolding_all rfl
  have read := (PreparedStatement.ofText_eq_ok.mp prepares).2
  exact ⟨prepared, prepared.statement, prepares, rewritten, by decide +kernel, read,
    by decide +kernel⟩

end ShardedSql
