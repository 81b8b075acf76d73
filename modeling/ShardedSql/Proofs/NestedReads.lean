import ShardedSql.Proofs.Comparands

/-!
Queries inside a statement that read a whole table. The walk over the condition only comes to those
that the sharding column is compared to. Main statement: a statement visits every shard for each
nested query over all rows of the table exactly if there is none, if something without a value is
compared to the column, or if the compared values pin no shard or pin them all.
-/

namespace ShardedSql.Sql

mutual

/-- The queries in an expression, at any depth. -/
def Expr.nestedQueries : Expr → List Select
  | .subquery query => query :: query.nestedQueries
  | .existence query _ => query :: query.nestedQueries
  | .binary left _ right => left.nestedQueries ++ right.nestedQueries
  | .unary _ operand => operand.nestedQueries
  | .isNull operand _ => operand.nestedQueries
  | .cast operand _ => operand.nestedQueries
  | .paren inner => inner.nestedQueries
  | .call _ args _ => listQueries args
  | .inList operand items _ => operand.nestedQueries ++ listQueries items
  | .between operand low high _ =>
      operand.nestedQueries ++ low.nestedQueries ++ high.nestedQueries
  | .choice subject branches otherwise =>
      optionQueries subject ++ branchQueries branches ++ optionQueries otherwise
  | .literal _ => []
  | .column _ _ _ => []
  | .placeholder _ => []
  | .wildcard _ => []

def listQueries : List Expr → List Select
  | [] => []
  | e :: rest => e.nestedQueries ++ listQueries rest

def optionQueries : Option Expr → List Select
  | none => []
  | some e => e.nestedQueries

def branchQueries : List Branch → List Select
  | [] => []
  | ⟨condition, result⟩ :: rest =>
      condition.nestedQueries ++ result.nestedQueries ++ branchQueries rest

def itemQueries : List SelectItem → List Select
  | [] => []
  | ⟨e, _⟩ :: rest => e.nestedQueries ++ itemQueries rest

def orderQueries : List OrderItem → List Select
  | [] => []
  | ⟨e, _⟩ :: rest => e.nestedQueries ++ orderQueries rest

def TableRef.nestedQueries : TableRef → List Select
  | .table _ _ _ => []
  | .derived query _ => query :: query.nestedQueries
  | .join left _ right condition _ =>
      left.nestedQueries ++ right.nestedQueries ++ optionQueries condition

def sourceQueries : Option TableRef → List Select
  | none => []
  | some t => t.nestedQueries

/-- The queries in all clauses of a query, without the query itself. -/
def Select.nestedQueries : Select → List Select
  | ⟨_, items, source, condition, groups, having, order, limit, offset⟩ =>
      sourceQueries source ++ itemQueries items ++ optionQueries condition ++ listQueries groups
        ++ optionQueries having ++ orderQueries order ++ optionQueries limit
        ++ optionQueries offset

end

def assignmentQueries (assignments : List Assignment) : List Select :=
  assignments.flatMap fun assignment => assignment.value.nestedQueries

def InsertSource.nestedQueries : InsertSource → List Select
  | .values rows => rows.flatMap listQueries
  | .query q => q :: q.nestedQueries
  | .defaults => []

/-- Every query nested in a statement. -/
def Statement.nestedQueries : Statement → List Select
  | .select query => query.nestedQueries
  | .insert s => s.source.nestedQueries ++ assignmentQueries s.onDuplicate
  | .update s => assignmentQueries s.assignments ++ optionQueries s.condition
  | .delete s => optionQueries s.condition

theorem Statement.nestedQueries_of_condition {statement : Statement} {predicate : Expr}
    (condition : statement.condition = some predicate) {query : Select}
    (member : query ∈ predicate.nestedQueries) : query ∈ statement.nestedQueries := by
  cases statement with
  | select outer =>
      obtain ⟨_, _, _, _, _, _, _, _, _⟩ := outer
      simp only [Statement.condition] at condition
      subst condition
      simp [Statement.nestedQueries, Select.nestedQueries, optionQueries, member]
  | insert s => cases condition
  | update s | delete s =>
      simp only [Statement.condition] at condition
      simp [Statement.nestedQueries, condition, optionQueries, member]

end ShardedSql.Sql

namespace ShardedSql.Router

open Sql Text

variable {router : Router} {bindings : Bindings}

/-- Whether a query ranges over the router's table itself without a condition on its rows. -/
def readsAll (router : Router) (query : Select) : Bool :=
  query.condition.isNone && query.boundTables.any router.owns

mutual

theorem allRows_of_comparands (bound : List BoundTable) (e : Expr) {query : Select}
    (member : .allRows query ∈ comparands router bindings bound e) :
    query ∈ e.nestedQueries ∧ router.readsAll query = true := by
  unfold comparands at member
  split at member
  case h_1 inner =>
    rw [Expr.nestedQueries]
    exact allRows_of_comparands bound inner member
  case h_2 left right | h_3 left right =>
    rw [Expr.nestedQueries, List.mem_append]
    rcases List.mem_append.mp member with first | second
    · exact (allRows_of_comparands bound left first).imp_left .inl
    · exact (allRows_of_comparands bound right second).imp_left .inr
  case h_4 left right =>
    rw [Expr.nestedQueries, List.mem_append]
    split at member
    · exact (allRows_of_side right member).imp_left .inr
    · split at member
      · exact (allRows_of_side left member).imp_left .inl
      · cases member
  case h_5 operand items =>
    rw [Expr.nestedQueries, List.mem_append]
    split at member
    · split at member
      · simp at member
      · exact (allRows_of_list items member).imp_left .inr
    · cases member
  case h_6 => cases member

theorem allRows_of_side (e : Expr) {query : Select}
    (member : .allRows query ∈ sideComparands router bindings e) :
    query ∈ e.nestedQueries ∧ router.readsAll query = true := by
  unfold sideComparands at member
  split at member
  case h_1 inner =>
    rw [Expr.nestedQueries]
    exact allRows_of_side inner member
  case h_2 => simp at member
  case h_3 => split at member <;> simp at member
  case h_4 inner =>
    rw [Expr.nestedQueries, List.mem_cons]
    rcases allRows_of_query inner member with ⟨rfl | deeper, all⟩
    · exact ⟨.inl rfl, all⟩
    · exact ⟨.inr deeper, all⟩
  case h_5 => simp at member

theorem allRows_of_list (items : List Expr) {query : Select}
    (member : .allRows query ∈ listComparands router bindings items) :
    query ∈ listQueries items ∧ router.readsAll query = true := by
  match items with
  | [] => cases member
  | e :: rest =>
      rw [listComparands] at member
      rw [listQueries, List.mem_append]
      rcases List.mem_append.mp member with first | later
      · exact (allRows_of_side e first).imp_left .inl
      · exact (allRows_of_list rest later).imp_left .inr

theorem allRows_of_query (outer : Select) {query : Select}
    (member : .allRows query ∈ queryComparands router bindings outer) :
    (query = outer ∨ query ∈ outer.nestedQueries) ∧ router.readsAll query = true := by
  match outer with
  | ⟨_, _, _, none, _, _, _, _, _⟩ =>
      rw [queryComparands] at member
      split at member
      · split at member
        next owned =>
          simp only [List.mem_singleton, Comparand.allRows.injEq] at member
          subst member
          exact ⟨.inl rfl, by simpa [readsAll] using owned⟩
        next => cases member
      · cases member
  | ⟨_, _, _, some predicate, _, _, _, _, _⟩ =>
      rw [queryComparands] at member
      split at member
      · obtain ⟨deeper, all⟩ := allRows_of_comparands _ predicate member
        exact ⟨.inr (by simp [Select.nestedQueries, optionQueries, deeper]), all⟩
      · cases member

end

/-- A set of suffixes with those of all shards. -/
def Covers (router : Router) (suffixes : NameSet) : Prop :=
  ∀ suffix ∈ router.strategy.allSuffixes, suffix ∈ suffixes

/-- A query over all rows that the sharding column is compared to is nested in the statement. -/
theorem allRows_of_conditionComparands {statement : Statement} {query : Select}
    (compared : .allRows query ∈ conditionComparands router bindings statement) :
    query ∈ statement.nestedQueries ∧ router.readsAll query = true := by
  unfold conditionComparands at compared
  split at compared
  next predicate condition =>
    obtain ⟨nested, all⟩ := allRows_of_comparands _ predicate compared
    exact ⟨Statement.nestedQueries_of_condition condition nested, all⟩
  next => cases compared

/-- What is visited has all shards exactly if something without a value is compared to the column,
or if the compared values pin no shard or every shard. -/
theorem covers_iff_of_subTables {prepared : PreparedStatement} {suffixes : NameSet}
    (headless : prepared.head.isEmpty = true) (not_insert : isInsert prepared.statement = false)
    (found : router.subTables bindings prepared = .ok suffixes) :
    router.Covers suffixes ↔
      (∃ item ∈ conditionComparands router bindings prepared.statement, item.isOpen = true) ∨
        (∀ suffix,
          ¬ router.PinnedBy (conditionComparands router bindings prepared.statement) suffix) ∨
        ∀ suffix ∈ router.strategy.allSuffixes,
          router.PinnedBy (conditionComparands router bindings prepared.statement) suffix := by
  have visited := mem_subTables_iff headless not_insert found
  constructor
  · intro covers
    by_cases asked : (∃ item ∈ conditionComparands router bindings prepared.statement,
        item.isOpen = true) ∨ ∀ suffix,
          ¬ router.PinnedBy (conditionComparands router bindings prepared.statement) suffix
    · exact asked.imp_right .inl
    · refine .inr (.inr fun suffix listed => ?_)
      rcases (visited suffix).mp (covers suffix listed) with pinned | ⟨_, all⟩
      · exact pinned
      · exact absurd all asked
  · intro asked suffix listed
    rw [visited]
    rcases asked with opened | silent | pinned
    · exact .inr ⟨listed, .inl opened⟩
    · exact .inr ⟨listed, .inr silent⟩
    · exact .inl (pinned suffix listed)

/-- Every nested query over all rows of the table finds them, exactly if there is no such query, if
something without a value is compared to the sharding column, or if the compared values pin no shard
or every shard. A query over all rows that the column is compared to finds them. -/
theorem subTables_covers_iff {prepared : PreparedStatement} {suffixes : NameSet}
    (headless : prepared.head.isEmpty = true) (not_insert : isInsert prepared.statement = false)
    (found : router.subTables bindings prepared = .ok suffixes) :
    ((∀ query ∈ prepared.statement.nestedQueries, router.readsAll query = true →
        router.Covers suffixes) ↔
      (∀ query ∈ prepared.statement.nestedQueries, router.readsAll query = false) ∨
        (∃ item ∈ conditionComparands router bindings prepared.statement, item.isOpen = true) ∨
        (∀ suffix,
          ¬ router.PinnedBy (conditionComparands router bindings prepared.statement) suffix) ∨
        ∀ suffix ∈ router.strategy.allSuffixes,
          router.PinnedBy (conditionComparands router bindings prepared.statement) suffix) ∧
    ∀ query, .allRows query ∈ conditionComparands router bindings prepared.statement →
      query ∈ prepared.statement.nestedQueries ∧ router.readsAll query = true ∧
        router.Covers suffixes := by
  have covers_iff := covers_iff_of_subTables headless not_insert found
  constructor
  · rw [← covers_iff]
    constructor
    · intro each
      by_cases some_reads : ∃ query ∈ prepared.statement.nestedQueries, router.readsAll query = true
      · obtain ⟨query, member, all⟩ := some_reads
        exact .inr (each query member all)
      · refine .inl fun query member => ?_
        rw [← Bool.not_eq_true]
        exact fun all => some_reads ⟨query, member, all⟩
    · rintro (none_reads | covers) query member all
      · rw [none_reads query member] at all
        cases all
      · exact covers
  · intro query compared
    obtain ⟨nested, all⟩ := allRows_of_conditionComparands compared
    -- Such a query has no value of its own, so that every shard is visited for it.
    exact ⟨nested, all, covers_iff.mpr (.inl ⟨_, compared, rfl⟩)⟩

/-- `SELECT * FROM t`. -/
def wholeTable : Select :=
  Select.ofItems [⟨.wildcard none, none⟩] (some (.bare "t"))

/-- The column is compared to a query over all rows. -/
theorem subTables_covers_compared :
    ∃ prepared suffixes,
      PreparedStatement.ofText "SELECT * FROM t WHERE id = 1 OR id = (SELECT * FROM t)" =
        .ok prepared ∧
      byId.subTables .empty prepared = .ok suffixes ∧
      wholeTable ∈ prepared.statement.nestedQueries ∧ byId.readsAll wholeTable = true ∧
      ∀ query ∈ prepared.statement.nestedQueries, byId.readsAll query = true →
        byId.Covers suffixes := by
  let prepared : PreparedStatement :=
    ⟨.empty, "SELECT * FROM t WHERE id = 1 OR id = (SELECT * FROM t)",
      selectWhere (.binary idIsOne .or
        (.binary (.column none "id" ⟨32, 34⟩) .eq (.subquery wholeTable)))⟩
  have parsed : PreparedStatement.ofText
      "SELECT * FROM t WHERE id = 1 OR id = (SELECT * FROM t)" = .ok prepared := by
    with_unfolding_all rfl
  obtain ⟨suffixes, visited⟩ : ∃ suffixes, byId.subTables .empty prepared = .ok suffixes :=
    ⟨.ofList ["0", "1", "2", "3"], by with_unfolding_all rfl⟩
  have compared : .allRows wholeTable ∈ conditionComparands byId .empty prepared.statement := by
    have items : conditionComparands byId .empty prepared.statement =
        [.value (.integer (.ofInt64 1)), .allRows wholeTable] := by
      with_unfolding_all rfl
    simp [items]
  obtain ⟨covers, each⟩ := subTables_covers_iff rfl rfl visited
  obtain ⟨nested, all, _⟩ := each wholeTable compared
  exact ⟨prepared, suffixes, parsed, visited, nested, all,
    covers.mpr (.inr (.inl ⟨_, compared, rfl⟩))⟩

/-- Beside a comparison that pins a shard, a query over all rows under `EXISTS`: the rows in the
other shards are not visited. -/
theorem subTables_misses_existence :
    ∃ prepared suffixes,
      PreparedStatement.ofText "SELECT * FROM t WHERE id = 1 AND EXISTS (SELECT * FROM t)" =
        .ok prepared ∧
      prepared.head.isEmpty = true ∧ isInsert prepared.statement = false ∧
      byId.subTables .empty prepared = .ok suffixes ∧
      wholeTable ∈ prepared.statement.nestedQueries ∧ byId.readsAll wholeTable = true ∧
      ¬ byId.Covers suffixes := by
  let prepared : PreparedStatement :=
    ⟨.empty, "SELECT * FROM t WHERE id = 1 AND EXISTS (SELECT * FROM t)",
      selectWhere (.binary idIsOne .and (.existence wholeTable false))⟩
  have parsed : PreparedStatement.ofText
      "SELECT * FROM t WHERE id = 1 AND EXISTS (SELECT * FROM t)" = .ok prepared := by
    with_unfolding_all rfl
  have visited : byId.subTables .empty prepared = .ok (Strategy.singleton "1") := by
    with_unfolding_all rfl
  refine ⟨prepared, _, parsed, rfl, rfl, visited, ?_, by decide +kernel, fun covers => ?_⟩
  · exact List.mem_singleton.mpr rfl
  · exact absurd (covers "2" (by decide +kernel)) (by decide +kernel)

end ShardedSql.Router
