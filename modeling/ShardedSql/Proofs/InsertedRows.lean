import ShardedSql.Proofs.Comparands
import ShardedSql.Proofs.ShardStatements

/-!
Which rows of an insert say where they belong. The walk collects what the cells in the sharding
column say; a row without such a cell says nothing, and neither does a query that does not read the
table. Main statement: an insert into one shard has in every row a value of that shard, or nothing,
exactly if every row has a cell in the sharding column and none of these cells is a query; where the
shards cannot be listed, no cell may be any other expression without a value.
-/

namespace ShardedSql

open Sql Text

namespace Sql.Expr

/-- The value of a literal, or of a placeholder that one is bound to. -/
def boundValue? (bindings : Bindings) : Expr → Option Value
  | .paren inner => inner.boundValue? bindings
  | .literal l => some (.ofLiteral l)
  | .placeholder place => bindings.placeholder? place
  | _ => none

def isQuery : Expr → Bool
  | .paren inner => inner.isQuery
  | .subquery _ => true
  | _ => false

theorem not_isQuery_of_value {bindings : Bindings} {cell : Expr} {v : Value}
    (value : cell.boundValue? bindings = some v) : cell.isQuery = false := by
  induction cell using unparenthesized.induct with
  | case1 inner ih => exact ih value
  | case2 e bare =>
      cases e with
      | paren inner => exact absurd rfl (bare inner)
      | subquery _ => cases value
      | _ => rfl

end Sql.Expr

namespace Router

variable {router : Router} {bindings : Bindings}

theorem sideComparands_of_value {cell : Expr} {v : Value}
    (value : cell.boundValue? bindings = some v) :
    sideComparands router bindings cell = [.value v] := by
  induction cell using Expr.unparenthesized.induct with
  | case1 inner ih =>
      rw [sideComparands]
      exact ih value
  | case2 e bare =>
      cases e with
      | paren inner => exact absurd rfl (bare inner)
      | literal l =>
          obtain rfl : .ofLiteral l = v := Option.some.inj value
          rw [sideComparands]
      | placeholder place =>
          rw [Expr.boundValue?] at value
          rw [sideComparands, value]
      | _ => cases value

theorem isOpen_of_no_value (router : Router) {cell : Expr} (no_query : cell.isQuery = false)
    (no_value : cell.boundValue? bindings = none) :
    ∃ item ∈ sideComparands router bindings cell, item.isOpen = true := by
  induction cell using Expr.unparenthesized.induct with
  | case1 inner ih =>
      rw [sideComparands]
      exact ih no_query no_value
  | case2 e bare =>
      cases e with
      | paren inner => exact absurd rfl (bare inner)
      | literal _ => cases no_value
      | subquery _ => cases no_query
      | placeholder place =>
          rw [Expr.boundValue?] at no_value
          simp [sideComparands, no_value, Comparand.isOpen]
      | _ => simp [sideComparands, Comparand.isOpen]

/-- The place of the sharding column among the columns of an insert. -/
def shardIndex? (router : Router) (s : Insert) : Option Nat :=
  s.columns.findIdx? (sameWord · router.strategy.column)

/-- What the cells in a column say of the shard. -/
def cellComparands (router : Router) (bindings : Bindings) (index : Nat) (rows : List (List Expr)) :
    List Comparand :=
  (rows.filterMap (·[index]?)).flatMap (sideComparands router bindings)

/-- An insert into the router's table visits what the values in its rows pin, and every shard if
there is something without a value; without the sharding column it visits none. -/
theorem subTables_insert {prepared : PreparedStatement} {s : Insert} {rows : List (List Expr)}
    {suffixes : NameSet} (headless : prepared.head.isEmpty = true)
    (insertion : prepared.statement = .insert s) (source : s.source = .values rows)
    (named : sameWord s.table router.table = true)
    (found : router.subTables bindings prepared = .ok suffixes) :
    (router.shardIndex? s = none ∧ suffixes = ∅) ∨
      ∃ index routed, router.shardIndex? s = some index ∧
        absorbAll router.answer (cellComparands router bindings index rows) = .ok routed ∧
        suffixes = if routed.failOpen then ∅ ∪ routed.suffixes ∪ router.strategy.allSuffixes
          else ∅ ∪ routed.suffixes := by
  simp only [subTables, overrides_of_headless headless, insertion, visitStatement, visitInsert,
    named, source, isInsert, bind_eq_ok, pure_eq_ok, Except.ok.injEq, ↓reduceIte] at found
  obtain ⟨_, rfl, routed, answered, rfl⟩ := found
  unfold shardIndex?
  cases column : s.columns.findIdx? (sameWord · router.strategy.column) with
  | none =>
      rw [column] at answered
      cases answered
      exact .inl ⟨rfl, rfl⟩
  | some index =>
      rw [column] at answered
      refine .inr ⟨index, routed, rfl, ?_, by simp⟩
      rw [← answered, cellComparands, absorbAll_flatMap]
      congr 1
      funext cell
      exact (compared_eq cell).symm

/-- A row has a value in the sharding column to which the strategy gives this suffix or none. -/
def RowSettles (router : Router) (bindings : Bindings) (index : Nat) (suffix : String)
    (row : List Expr) : Prop :=
  ∃ cell v own, row[index]? = some cell ∧ cell.boundValue? bindings = some v ∧
    router.suffixesFor v = .ok own ∧ (own = Strategy.singleton suffix ∨ own = ∅)

/-- A row has a cell in the sharding column that is no query, and where the shards cannot be listed
it is a value. -/
def RowSpeaks (router : Router) (bindings : Bindings) (index : Nat) (row : List Expr) : Prop :=
  ∃ cell, row[index]? = some cell ∧ cell.isQuery = false ∧
    (router.strategy.allSuffixes = ∅ → ∃ v, cell.boundValue? bindings = some v)

theorem eq_singleton_or_empty {own : NameSet} {suffix : String}
    (within : ∀ other ∈ own, other = suffix) : own = Strategy.singleton suffix ∨ own = ∅ := by
  by_cases member : suffix ∈ own
  · left
    apply NameSet.ext
    intro other
    rw [Strategy.mem_singleton]
    exact ⟨within other, fun same => same ▸ member⟩
  · right
    apply NameSet.ext
    intro other
    constructor
    · intro inside
      exact absurd (within other inside ▸ inside) member
    · exact fun inside => absurd inside NameSet.not_mem_empty

section OneShard

variable {s : Insert} {rows : List (List Expr)} {routed : Routed} {index : Nat} {suffix : String}
  (walked : absorbAll router.answer (cellComparands router bindings index rows) = .ok routed)
  (one : Strategy.singleton suffix =
    if routed.failOpen then ∅ ∪ routed.suffixes ∪ router.strategy.allSuffixes
    else ∅ ∪ routed.suffixes)

include walked one

/-- In an insert into one shard of several that can be listed, every cell that is no query is a
value. -/
theorem exists_value_of_one (several : router.strategy.allSuffixes ≠ Strategy.singleton suffix)
    {row : List Expr} (member : row ∈ rows) (speaks : router.RowSpeaks bindings index row) :
    ∃ cell v, row[index]? = some cell ∧ cell.boundValue? bindings = some v := by
  obtain ⟨cell, there, no_query, unlisted⟩ := speaks
  cases value : cell.boundValue? bindings with
  | some v => exact ⟨cell, v, there, value⟩
  | none =>
      obtain ⟨item, inside, opened⟩ :=
        isOpen_of_no_value router no_query value
      have asked : routed.failOpen = true := by
        refine (failOpen_iff walked).mpr ⟨item, ?_, opened⟩
        exact List.mem_flatMap.mpr ⟨cell, List.mem_filterMap.mpr ⟨row, member, there⟩, inside⟩
      rw [if_pos asked] at one
      have within : ∀ other ∈ router.strategy.allSuffixes, other = suffix := by
        intro other listed
        rw [← Strategy.mem_singleton, one]
        exact NameSet.mem_union.mpr (.inr listed)
      rcases eq_singleton_or_empty within with only | unlistable
      · exact absurd only several
      · obtain ⟨v, bound⟩ := unlisted unlistable
        rw [value] at bound
        cases bound

theorem rowSettles_of_value {row : List Expr} (member : row ∈ rows) {cell : Expr} {v : Value}
    (there : row[index]? = some cell) (value : cell.boundValue? bindings = some v) :
    router.RowSettles bindings index suffix row := by
  have compared : .value v ∈ cellComparands router bindings index rows := by
    refine List.mem_flatMap.mpr ⟨cell, List.mem_filterMap.mpr ⟨row, member, there⟩, ?_⟩
    rw [sideComparands_of_value value]
    exact List.mem_singleton_self _
  obtain ⟨here, answered⟩ := answers_of_absorbAll walked compared
  obtain ⟨own, found, rfl⟩ := map_eq_ok.mp answered
  refine ⟨cell, v, own, there, value, found, eq_singleton_or_empty ?_⟩
  intro other inside
  have pinned : other ∈ routed.suffixes :=
    (mem_suffixes_iff walked other).mpr ⟨v, own, compared, found, inside⟩
  rw [← Strategy.mem_singleton, one]
  split <;> simp [pinned]

end OneShard

end Router

namespace Rewriter

variable {rewriter : Rewriter} {bindings : Bindings} {prepared : PreparedStatement}

/-- An insert that is planned into one shard settles it in every row, exactly if every row speaks,
or there is only this shard. -/
theorem plan_settles_iff {s : Insert} {rows : List (List Expr)} {plan : List TableShards}
    {suffix : String} (headless : prepared.head.isEmpty = true)
    (insertion : prepared.statement = .insert s) (source : s.source = .values rows)
    (planned : rewriter.plan bindings prepared = .ok plan)
    (one : ⟨lowerCase s.table, [suffix]⟩ ∈ plan) :
    ∃ router, rewriter.routers.get? (lowerCase s.table) = some router ∧
      (sameWord s.table router.table = true → ∃ index, router.shardIndex? s = some index ∧
        ((router.strategy.allSuffixes = Strategy.singleton suffix ∨
            ∀ row ∈ rows, router.RowSettles bindings index suffix row) ↔
          router.strategy.allSuffixes = Strategy.singleton suffix ∨
            ∀ row ∈ rows, router.RowSpeaks bindings index row)) := by
  obtain ⟨table, _, planned_table⟩ := exists_of_mem_mapM planned one
  obtain ⟨rfl, ⟨_, nothing⟩ | ⟨router, suffixes, routed, found, same⟩⟩ :=
    planTable_eq_ok planned_table
  · cases nothing
  refine ⟨router, routed, fun named => ?_⟩
  have only : Strategy.singleton suffix = suffixes := by
    apply NameSet.ext
    intro other
    rw [Strategy.mem_singleton, NameSet.mem_def, ← same, List.mem_singleton]
  subst only
  rcases Router.subTables_insert headless insertion source named found with
    ⟨_, empty⟩ | ⟨index, walk, column, walked, shards⟩
  · have member : suffix ∈ Strategy.singleton suffix := Strategy.mem_singleton.mpr rfl
    rw [empty] at member
    exact absurd member NameSet.not_mem_empty
  refine ⟨index, column, ?_⟩
  constructor
  · rintro (single | settled)
    · exact .inl single
    · refine .inr fun row member => ?_
      obtain ⟨cell, v, _, there, value, _⟩ := settled row member
      exact ⟨cell, there, Expr.not_isQuery_of_value value, fun _ => ⟨v, value⟩⟩
  · rintro (single | spoken)
    · exact .inl single
    · by_cases single : router.strategy.allSuffixes = Strategy.singleton suffix
      · exact .inl single
      · refine .inr fun row member => ?_
        obtain ⟨cell, v, there, value⟩ :=
          Router.exists_value_of_one walked shards single member (spoken row member)
        exact Router.rowSettles_of_value walked shards member there value

/-! ## Rows of a table in four shards -/

/-- The table `t` by the remainder of `id`. -/
def byId : Rewriter :=
  ⟨⟨[Router.byId]⟩, false⟩

/-- `INSERT INTO t (id)` with one cell in each row. -/
def insertIds (sql : String) (cells : List Expr) : PreparedStatement :=
  ⟨.empty, sql, .insert ⟨none, "t", ["id"], .values (cells.map fun cell => [cell]), []⟩⟩

def valueCells : List Expr :=
  [.literal (.integer 1), .literal .null, .literal (.integer 5)]

theorem plan_settles_values :
    PreparedStatement.ofText "INSERT INTO t (id) VALUES (1), (NULL), (5)" =
        .ok (insertIds "INSERT INTO t (id) VALUES (1), (NULL), (5)" valueCells) ∧
      byId.plan .empty (insertIds "INSERT INTO t (id) VALUES (1), (NULL), (5)" valueCells) =
        .ok [⟨"t", ["1"]⟩] ∧
      ∀ cell ∈ valueCells, Router.byId.RowSettles .empty 0 "1" [cell] := by
  have parsed : PreparedStatement.ofText "INSERT INTO t (id) VALUES (1), (NULL), (5)" =
      .ok (insertIds "INSERT INTO t (id) VALUES (1), (NULL), (5)" valueCells) := by
    with_unfolding_all rfl
  have planned : byId.plan .empty
      (insertIds "INSERT INTO t (id) VALUES (1), (NULL), (5)" valueCells) =
        .ok [⟨"t", ["1"]⟩] := by
    with_unfolding_all rfl
  have lower : lowerCase "t" = "t" := by decide +kernel
  have one : ⟨lowerCase "t", ["1"]⟩ ∈ [(⟨"t", ["1"]⟩ : TableShards)] := by simp [lower]
  obtain ⟨router, routed, settles_iff⟩ := plan_settles_iff rfl rfl rfl planned one
  obtain rfl : Router.byId = router := by
    rw [lower] at routed
    exact Option.some.inj ((show byId.routers.get? "t" = some Router.byId by
      with_unfolding_all rfl).symm.trans routed)
  obtain ⟨index, column, settles⟩ := settles_iff (by decide +kernel)
  obtain rfl : 0 = index :=
    Option.some.inj ((show _ = some 0 by with_unfolding_all rfl).symm.trans column)
  have spoken : ∀ row ∈ valueCells.map fun cell => [cell], Router.byId.RowSpeaks .empty 0 row := by
    intro row member
    obtain ⟨cell, inside, rfl⟩ := List.mem_map.mp member
    simp only [valueCells, List.mem_cons, List.not_mem_nil, or_false] at inside
    rcases inside with rfl | rfl | rfl <;> exact ⟨_, rfl, rfl, fun _ => ⟨_, rfl⟩⟩
  refine ⟨parsed, planned, ?_⟩
  rcases settles.mpr (.inr spoken) with single | settled
  · exact absurd single (by decide +kernel)
  · exact fun cell member => settled [cell] (List.mem_map_of_mem member)

/-- A number, and what a query over another table finds. -/
def queryCells : List Expr :=
  [.literal (.integer 1),
    .subquery (Select.ofItems [⟨.column none "x" ⟨40, 41⟩, none⟩] (some (.bare "u")))]

/-- The second row may belong to any shard, and the insert is planned into one. -/
theorem plan_guesses_query :
    PreparedStatement.ofText "INSERT INTO t (id) VALUES (1), ((SELECT x FROM u))" =
        .ok (insertIds "INSERT INTO t (id) VALUES (1), ((SELECT x FROM u))" queryCells) ∧
      byId.plan .empty (insertIds "INSERT INTO t (id) VALUES (1), ((SELECT x FROM u))" queryCells) =
        .ok [⟨"t", ["1"]⟩, ⟨"u", []⟩] ∧
      Router.byId.strategy.allSuffixes ≠ Strategy.singleton "1" ∧
      ¬ ∀ cell ∈ queryCells, Router.byId.RowSettles .empty 0 "1" [cell] := by
  refine ⟨by with_unfolding_all rfl, by with_unfolding_all rfl, by decide +kernel, ?_⟩
  intro settled
  obtain ⟨cell, v, _, there, value, _⟩ :=
    settled _ (List.mem_cons_of_mem _ (List.mem_singleton_self _))
  obtain rfl := Option.some.inj there
  cases value

end Rewriter

end ShardedSql
