import ShardedSql.Proofs.Coverage
import ShardedSql.Proofs.FilledText
import ShardedSql.Proofs.WrittenHead

/-!
Routing a statement with values in the places of its placeholders. A run that looks parameters up by
their positions is compared with a run over the filled statement, in which nothing is left to look
up. Main statement: the two visit the same shards, or fail alike.
-/

namespace ShardedSql

open Sql Text

/-- Numbers of the widest integer column bound by position, and nothing by name. -/
def Parameters.ofNumbers (values : List Int64) : Parameters :=
  ⟨values.map fun value => .integer (.ofInt64 value), []⟩

/-! ## Tables of filled statements -/

namespace Sql

variable (values : List Int64)

theorem Placeholder.tables_filled (place : Placeholder) : (place.filled values).tables = [] := by
  rcases place.filled_cases values with same | ⟨value, same⟩ <;> simp [same, Expr.tables]

theorem Placeholder.subqueries_filled (place : Placeholder) :
    (place.filled values).subqueries = [] := by
  rcases place.filled_cases values with same | ⟨value, same⟩ <;> simp [same, Expr.subqueries]

mutual

/-- A value names no table, so filling changes none. -/
theorem Expr.tables_filled (e : Expr) : (e.filled values).tables = e.tables := by
  match e with
  | .subquery query => simp [Expr.filled, Expr.tables, query.tables_filled]
  | .existence query _ => simp [Expr.filled, Expr.tables, query.tables_filled]
  | .binary left _ right =>
      simp [Expr.filled, Expr.tables, left.tables_filled, right.tables_filled]
  | .unary _ operand => simp [Expr.filled, Expr.tables, operand.tables_filled]
  | .isNull operand _ => simp [Expr.filled, Expr.tables, operand.tables_filled]
  | .cast operand _ => simp [Expr.filled, Expr.tables, operand.tables_filled]
  | .paren inner => simp [Expr.filled, Expr.tables, inner.tables_filled]
  | .call _ args _ => simp [Expr.filled, Expr.tables, listTables_filled args]
  | .inList operand items _ =>
      simp [Expr.filled, Expr.tables, operand.tables_filled, listTables_filled items]
  | .between operand low high _ =>
      simp [Expr.filled, Expr.tables, operand.tables_filled, low.tables_filled,
        high.tables_filled]
  | .choice subject branches otherwise =>
      have first := optionTables_filled subject
      have last := optionTables_filled otherwise
      cases subject <;> cases otherwise <;>
        simp_all [Expr.filled, filledOption, optionTables, Expr.tables,
          branchTables_filled branches]
  | .literal _ => simp [Expr.filled, Expr.tables]
  | .column _ _ _ => simp [Expr.filled, Expr.tables]
  | .placeholder place => simp [Expr.filled, Expr.tables, place.tables_filled]
  | .wildcard _ => simp [Expr.filled, Expr.tables]

theorem listTables_filled (es : List Expr) :
    listTables (filledList values es) = listTables es := by
  match es with
  | [] => rfl
  | e :: rest => simp [filledList, listTables, e.tables_filled, listTables_filled rest]

theorem branchTables_filled (branches : List Branch) :
    branchTables (filledBranches values branches) = branchTables branches := by
  match branches with
  | [] => rfl
  | ⟨condition, result⟩ :: rest =>
      simp [filledBranches, branchTables, condition.tables_filled, result.tables_filled,
        branchTables_filled rest]

theorem itemTables_filled (items : List SelectItem) :
    itemTables (filledItems values items) = itemTables items := by
  match items with
  | [] => rfl
  | ⟨e, _⟩ :: rest => simp [filledItems, itemTables, e.tables_filled, itemTables_filled rest]

theorem orderTables_filled (order : List OrderItem) :
    orderTables (filledOrder values order) = orderTables order := by
  match order with
  | [] => rfl
  | ⟨e, _⟩ :: rest => simp [filledOrder, orderTables, e.tables_filled, orderTables_filled rest]

theorem TableRef.tables_filled (t : TableRef) : (t.filled values).tables = t.tables := by
  match t with
  | .table _ _ _ => simp [TableRef.filled, TableRef.tables]
  | .derived query _ => simp [TableRef.filled, TableRef.tables, query.tables_filled]
  | .join left _ right condition _ =>
      have on_tables := optionTables_filled condition
      cases condition <;>
        simp_all [TableRef.filled, filledOption, optionTables, TableRef.tables,
          left.tables_filled, right.tables_filled]

theorem optionTables_filled (e : Option Expr) :
    optionTables (filledOption values e) = optionTables e := by
  match e with
  | none => rfl
  | some e => simp [filledOption, optionTables, e.tables_filled]

theorem sourceTables_filled (source : Option TableRef) :
    ((filledSource values source).map TableRef.tables).getD [] =
      (source.map TableRef.tables).getD [] := by
  match source with
  | none => rfl
  | some t => simp [filledSource, t.tables_filled]

theorem Select.tables_filled (query : Select) : (query.filled values).tables = query.tables := by
  match query with
  | ⟨_, items, source, condition, groups, having, order, _, _⟩ =>
      have from_tables := sourceTables_filled source
      have where_tables := optionTables_filled condition
      have having_tables := optionTables_filled having
      cases source <;> cases condition <;> cases having <;>
        simp_all [Select.filled, filledOption, filledSource, optionTables, Select.tables,
          itemTables_filled items, listTables_filled groups, orderTables_filled order]

end

theorem Select.tableNames_filled (query : Select) :
    (query.filled values).tableNames = query.tableNames := by
  rw [Select.tableNames, query.tables_filled, Select.tableNames]

theorem TableRef.boundTables_filled (t : TableRef) :
    (t.filled values).boundTables = t.boundTables := by
  match t with
  | .table _ _ _ => simp [TableRef.filled]
  | .derived _ _ => simp [TableRef.filled, TableRef.boundTables]
  | .join left _ right _ _ =>
      simp [TableRef.filled, TableRef.boundTables, left.boundTables_filled,
        right.boundTables_filled]

theorem Select.boundTables_filled (query : Select) :
    (query.filled values).boundTables = query.boundTables := by
  obtain ⟨_, _, source, _, _, _, _, _, _⟩ := query
  cases source with
  | none => simp [Select.filled, filledSource, Select.boundTables]
  | some t => simp [Select.filled, filledSource, Select.boundTables, t.boundTables_filled]

theorem Statement.boundTables_filled (statement : Statement) :
    (statement.filled values).boundTables = statement.boundTables := by
  cases statement with
  | select query => exact query.boundTables_filled values
  | _ => rfl

theorem Statement.condition_filled (statement : Statement) :
    (statement.filled values).condition = filledOption values statement.condition := by
  cases statement with
  | select query =>
      obtain ⟨_, _, _, condition, _, _, _, _, _⟩ := query
      simp only [Statement.filled, Statement.condition, Select.filled]
  | _ => rfl

mutual

/-- The queries in a filled expression are those of the expression, filled. -/
theorem Expr.subqueries_filled (e : Expr) :
    (e.filled values).subqueries = e.subqueries.map (·.filled values) := by
  match e with
  | .subquery query => simp [Expr.filled, Expr.subqueries]
  | .existence query _ => simp [Expr.filled, Expr.subqueries]
  | .binary left _ right =>
      simp [Expr.filled, Expr.subqueries, left.subqueries_filled, right.subqueries_filled]
  | .unary _ operand => simp [Expr.filled, Expr.subqueries, operand.subqueries_filled]
  | .isNull operand _ => simp [Expr.filled, Expr.subqueries, operand.subqueries_filled]
  | .cast operand _ => simp [Expr.filled, Expr.subqueries, operand.subqueries_filled]
  | .paren inner => simp [Expr.filled, Expr.subqueries, inner.subqueries_filled]
  | .call _ args _ => simp [Expr.filled, Expr.subqueries, listSubqueries_filled args]
  | .inList operand items _ =>
      simp [Expr.filled, Expr.subqueries, operand.subqueries_filled, listSubqueries_filled items]
  | .between operand low high _ =>
      simp [Expr.filled, Expr.subqueries, operand.subqueries_filled, low.subqueries_filled,
        high.subqueries_filled]
  | .choice subject branches otherwise =>
      have first := optionSubqueries_filled subject
      have last := optionSubqueries_filled otherwise
      cases subject <;> cases otherwise <;>
        simp_all [Expr.filled, filledOption, Expr.subqueries, branchSubqueries_filled branches]
  | .literal _ => simp [Expr.filled, Expr.subqueries]
  | .column _ _ _ => simp [Expr.filled, Expr.subqueries]
  | .placeholder place => simp [Expr.filled, Expr.subqueries, place.subqueries_filled]
  | .wildcard _ => simp [Expr.filled, Expr.subqueries]

theorem optionSubqueries_filled (e : Option Expr) :
    ((filledOption values e).map Expr.subqueries).getD [] =
      ((e.map Expr.subqueries).getD []).map (·.filled values) := by
  match e with
  | none => rfl
  | some e => simp [filledOption, e.subqueries_filled]

theorem listSubqueries_filled (es : List Expr) :
    listSubqueries (filledList values es) = (listSubqueries es).map (·.filled values) := by
  match es with
  | [] => rfl
  | e :: rest =>
      simp [filledList, listSubqueries, e.subqueries_filled, listSubqueries_filled rest]

theorem branchSubqueries_filled (branches : List Branch) :
    branchSubqueries (filledBranches values branches) =
      (branchSubqueries branches).map (·.filled values) := by
  match branches with
  | [] => rfl
  | ⟨condition, result⟩ :: rest =>
      simp [filledBranches, branchSubqueries, condition.subqueries_filled,
        result.subqueries_filled, branchSubqueries_filled rest]

end

end Sql

/-! ## Routing -/

section Routing

variable (router : Router) (values : List Int64)

namespace Router

/-- A value is no column, and parentheses around it do not matter. -/
theorem isShardColumn_filled (bound : List BoundTable) (e : Expr) :
    router.isShardColumn bound (e.filled values) = router.isShardColumn bound e := by
  match e with
  | .paren inner =>
      have same := isShardColumn_filled bound inner
      simpa [Expr.filled, isShardColumn, Expr.unparenthesized] using same
  | .placeholder place =>
      rcases place.filled_cases values with same | ⟨value, same⟩ <;>
        simp [Expr.filled, same, isShardColumn, Expr.unparenthesized]
  | .literal _ | .column _ _ _ | .binary _ _ _ | .unary _ _ | .call _ _ _ | .subquery _
  | .existence _ _ | .isNull _ _ | .inList _ _ _ | .between _ _ _ _ | .choice _ _ _ | .cast _ _
  | .wildcard _ => simp [Expr.filled, isShardColumn, Expr.unparenthesized]

/-- The value in the place of a placeholder counts as the parameter of its position. -/
theorem compared_placeholder (place : Placeholder) :
    compared router .empty (place.filled values) =
      compared router (Parameters.ofNumbers values).bindings (.placeholder place) := by
  cases place with
  | named name =>
      simp [Placeholder.filled, compared, Bindings.placeholder?, Bindings.empty,
        Parameters.bindings, Parameters.ofNumbers]
  | positional ordinal =>
      rw [Placeholder.filled]
      cases found : values[ordinal]? <;>
        simp [compared, Bindings.placeholder?, Bindings.empty, Parameters.bindings,
          Parameters.ofNumbers, Value.ofLiteral, found]

theorem visit_placeholder (bound : List BoundTable) (place : Placeholder) :
    visit router .empty bound (place.filled values) = .ok .nothing := by
  rcases place.filled_cases values with same | ⟨value, same⟩ <;> simp [same, visit]

/-- Whether a list of `IN` is a query. -/
def isQuery : List Expr → Bool
  | [.subquery _] => true
  | _ => false

theorem visit_inList {bindings : Bindings} (bound : List BoundTable) (operand : Expr)
    (items : List Expr) :
    visit router bindings bound (.inList operand items false) =
      if router.isShardColumn bound operand then
        if isQuery items then .ok .everything else comparedAll router bindings items
      else .ok .nothing := by
  cases query : isQuery items with
  | true =>
      unfold isQuery at query
      split at query
      · simp [visit]
      · cases query
  | false =>
      have other : ∀ q, items ≠ [.subquery q] := by
        rintro q rfl
        cases query
      rw [visit]
      · rfl
      · exact other

theorem isQuery_filled (items : List Expr) :
    isQuery (filledList values items) = isQuery items := by
  have one (e : Expr) : isQuery [e.filled values] = isQuery [e] := by
    cases e with
    | placeholder place =>
        rcases place.filled_cases values with same | ⟨value, same⟩ <;>
          simp [Expr.filled, same, isQuery]
    | _ => simp [Expr.filled, isQuery]
  rcases items with _ | ⟨e, _ | ⟨second, others⟩⟩
  · rfl
  · exact one e
  · simp [filledList, isQuery]

mutual

/-- A filled predicate without parameters asks for what the predicate asks for with them. -/
theorem visit_filled (bound : List BoundTable) (e : Expr) :
    visit router .empty bound (e.filled values) =
      visit router (Parameters.ofNumbers values).bindings bound e := by
  match e with
  | .paren inner => simp [Expr.filled, visit, visit_filled bound inner]
  | .binary left op right =>
      cases op with
      | and =>
          rw [Expr.filled, visit, visit, visit_filled bound left, visit_filled bound right]
      | or =>
          rw [Expr.filled, visit, visit, visit_filled bound left, visit_filled bound right]
      | eq =>
          rw [Expr.filled, visit, visit, router.isShardColumn_filled, router.isShardColumn_filled,
            compared_filled left, compared_filled right]
      | _ => simp [Expr.filled, visit]
  | .inList operand items true => simp [Expr.filled, visit]
  | .inList operand items false =>
      rw [Expr.filled, visit_inList, visit_inList, router.isShardColumn_filled, isQuery_filled,
        comparedAll_filled items]
  | .placeholder place => simp [Expr.filled, visit_placeholder, visit]
  | .literal _ | .column _ _ _ | .unary _ _ | .call _ _ _ | .subquery _
  | .existence _ _ | .isNull _ _ | .between _ _ _ _ | .choice _ _ _ | .cast _ _
  | .wildcard _ => simp [Expr.filled, visit]

theorem compared_filled (e : Expr) :
    compared router .empty (e.filled values) =
      compared router (Parameters.ofNumbers values).bindings e := by
  match e with
  | .paren inner => simp [Expr.filled, compared, compared_filled inner]
  | .placeholder place => rw [Expr.filled, compared_placeholder]
  | .subquery query => simp [Expr.filled, compared, visitQuery_filled query]
  | .literal _ | .column _ _ _ | .binary _ _ _ | .unary _ _ | .call _ _ _
  | .existence _ _ | .isNull _ _ | .inList _ _ _ | .between _ _ _ _ | .choice _ _ _ | .cast _ _
  | .wildcard _ => simp [Expr.filled, compared]

theorem comparedAll_filled (es : List Expr) :
    comparedAll router .empty (filledList values es) =
      comparedAll router (Parameters.ofNumbers values).bindings es := by
  match es with
  | [] => rfl
  | e :: rest => simp [filledList, comparedAll, compared_filled e, comparedAll_filled rest]

theorem visitQuery_filled (query : Select) :
    visitQuery router .empty (query.filled values) =
      visitQuery router (Parameters.ofNumbers values).bindings query := by
  have names := query.tableNames_filled values
  have bound := query.boundTables_filled values
  match query with
  | ⟨_, _, _, condition, _, _, _, _, _⟩ =>
      cases condition with
      | none => simp_all [Select.filled, filledOption, visitQuery]
      | some predicate =>
          simp_all [Select.filled, filledOption, visitQuery, visit_filled _ predicate]

end

theorem insertQueries_filled (s : Insert) :
    insertQueries (s.filled values) = (insertQueries s).map (·.filled values) := by
  have assigned :
      (s.onDuplicate.map (Assignment.filled values)).flatMap (·.value.subqueries) =
        (s.onDuplicate.flatMap (·.value.subqueries)).map (·.filled values) := by
    rw [List.flatMap_map, List.map_flatMap]
    simp only [Assignment.filled, Expr.subqueries_filled]
  unfold insertQueries
  rw [List.map_append, ← assigned]
  obtain ⟨_, _, _, source, _⟩ := s
  cases source with
  | defaults => rfl
  | query query => rfl
  | values rows =>
      have rows_filled : (rows.map (filledList values)).flatten =
          rows.flatten.map (·.filled values) := by
        rw [funext (filledList_eq_map values), List.map_flatten]
      simp only [Insert.filled, InsertSource.filled, rows_filled, List.flatMap_map,
        List.map_flatMap, Expr.subqueries_filled]

theorem absorbAll_map {α β : Type} (route : β → Except ShardError Routed) (f : α → β)
    (items : List α) : absorbAll route (items.map f) = absorbAll (fun item => route (f item)) items := by
  induction items with
  | nil => rfl
  | cons item rest ih => rw [List.map_cons, absorbAll, absorbAll, ih]

theorem visitInsert_filled (s : Insert) :
    visitInsert router .empty (s.filled values) =
      visitInsert router (Parameters.ofNumbers values).bindings s := by
  have each (query : Select) : visitInsertQuery router .empty (query.filled values) =
      visitInsertQuery router (Parameters.ofNumbers values).bindings query := by
    rw [visitInsertQuery, visitQuery_filled, visitInsertQuery]
  have queries : absorbAll (visitInsertQuery router .empty)
      ((insertQueries (s.filled values)).filter fun query => router.table ∈ query.tableNames) =
        absorbAll (visitInsertQuery router (Parameters.ofNumbers values).bindings)
          ((insertQueries s).filter fun query => router.table ∈ query.tableNames) := by
    rw [insertQueries_filled, List.filter_map, absorbAll_map]
    simp only [Function.comp_def, Select.tableNames_filled, each]
  unfold visitInsert
  rw [queries]
  obtain ⟨_, _, columns, source, _⟩ := s
  cases source with
  | defaults => rfl
  | query query => rfl
  | values rows =>
      cases found : columns.findIdx? (sameWord · router.strategy.column) with
      | none => simp [Insert.filled, InsertSource.filled, found]
      | some index =>
          have pinned : (rows.map (filledList values)).filterMap (·[index]?) =
              (rows.filterMap (·[index]?)).map (·.filled values) := by
            rw [List.filterMap_map, List.map_filterMap]
            simp only [Function.comp_def, filledList_eq_map, List.getElem?_map]
          simp only [Insert.filled, InsertSource.filled, found, pinned, absorbAll_map,
            compared_filled]

theorem isInsert_filled (statement : Statement) :
    isInsert (statement.filled values) = isInsert statement := by
  cases statement <;> rfl

/-- A filled statement without parameters asks for what the statement asks for with them, and where
the one fails the other fails alike. -/
theorem visitStatement_filled (statement : Statement) :
    visitStatement router .empty (statement.filled values) =
      visitStatement router (Parameters.ofNumbers values).bindings statement := by
  cases kind : isInsert statement with
  | true =>
      cases statement with
      | insert s => exact visitInsert_filled router values s
      | _ => cases kind
  | false =>
      have filled_kind : isInsert (statement.filled values) = false := by
        rw [isInsert_filled, kind]
      rw [visitStatement_of_not_insert filled_kind, visitStatement_of_not_insert kind,
        Statement.condition_filled, Statement.boundTables_filled]
      cases statement.condition with
      | none => rfl
      | some predicate => exact visit_filled router values statement.boundTables predicate

end Router

end Routing

/-- The filled text of a statement has its head comment, and its statement is the filled one. -/
theorem HeadComment.split_filledText {text body : String} {head : HeadComment} {parsed : Statement}
    (cut : split text = (head, body)) (read : Statement.parse body = .ok parsed)
    (values : List Int64) :
    split (filledText values text) = (head, filledText values body) ∧
      tokenKinds text = tokenKinds body := by
  have fine : ∀ piece ∈ values.map numberText, Writing.IsPiece piece :=
    List.forall_mem_map.mpr fun value _ => Filling.isPiece_numberText value
  simp only [filledText, Filling.filledChars_eq_writtenChars]
  exact split_writtenText cut read fine

/-- Positional parameters reach the places of their question marks: where a text without a head
comment is a statement, so is the text with the numbers in the places of its question marks, and
without parameters it visits the shards that the text visits with the numbers as parameters, or
fails alike. -/
theorem Router.subTables_filledText (text : String) (prepared : PreparedStatement)
    (values : List Int64) (reads : PreparedStatement.ofText text = .ok prepared)
    (headless : prepared.head.isEmpty = true)
    (length : values.length = (tokenKinds text).count (.symbol .question))
    (regular : ∀ value ∈ values, value ≠ Int64.minValue) :
    ∃ filled, PreparedStatement.ofText (filledText values text) = .ok filled ∧
      ∀ router : Router, router.subTables .empty filled =
        router.subTables (Parameters.ofNumbers values).bindings prepared := by
  obtain ⟨cut, read⟩ := PreparedStatement.ofText_eq_ok.mp reads
  obtain ⟨split_filled, kinds⟩ := HeadComment.split_filledText cut read values
  rw [kinds] at length
  obtain ⟨parsed, read', same⟩ := Filling.parse_filledText read length.symm regular
  refine ⟨⟨prepared.head, filledText values prepared.sql, parsed⟩,
    PreparedStatement.ofText_eq_ok.mpr ⟨split_filled, read'⟩, fun router => ?_⟩
  -- Filled with nothing, a statement forgets where its columns stand; no run looks there.
  have unbound : (Parameters.ofNumbers []).bindings = .empty := rfl
  have visits : router.visitStatement .empty parsed =
      router.visitStatement (Parameters.ofNumbers values).bindings prepared.statement := by
    rw [← unbound, ← visitStatement_filled, same, visitStatement_filled]
  have kind : isInsert parsed = isInsert prepared.statement := by
    rw [← isInsert_filled [] parsed, same, isInsert_filled]
  simp only [subTables, overrides_of_headless headless, visits, kind]

/-- `SELECT * FROM t WHERE x = ? AND id = ?`. -/
def preparedPair : PreparedStatement :=
  ⟨.empty, "SELECT * FROM t WHERE x = ? AND id = ?",
    Router.selectWhere
      (.binary
        (.binary (.column none "x" ⟨22, 23⟩) .eq (.placeholder (.positional 0)))
        .and
        (.binary (.column none "id" ⟨32, 34⟩) .eq (.placeholder (.positional 1))))⟩

/-- The second parameter is the one that pins the column. -/
theorem Router.subTables_filledText_pair :
    PreparedStatement.ofText "SELECT * FROM t WHERE x = ? AND id = ?" = .ok preparedPair ∧
      byId.subTables (Parameters.ofNumbers [7, -3]).bindings preparedPair =
        .ok (Strategy.singleton "1") ∧
      ∃ filled,
        PreparedStatement.ofText "SELECT * FROM t WHERE x = (7) AND id = (-3)" = .ok filled ∧
        byId.subTables .empty filled = .ok (Strategy.singleton "1") := by
  have reads : PreparedStatement.ofText "SELECT * FROM t WHERE x = ? AND id = ?" =
      .ok preparedPair := by
    with_unfolding_all rfl
  have text : filledText [7, -3] "SELECT * FROM t WHERE x = ? AND id = ?" =
      "SELECT * FROM t WHERE x = (7) AND id = (-3)" := by
    decide +kernel
  have visited : byId.subTables (Parameters.ofNumbers [7, -3]).bindings preparedPair =
      .ok (Strategy.singleton "1") := by
    with_unfolding_all rfl
  have regular : ∀ value ∈ [7, -3], value ≠ Int64.minValue := by
    simp only [List.mem_cons, List.not_mem_nil, or_false, forall_eq_or_imp, forall_eq]
    decide
  obtain ⟨filled, reads', same⟩ := subTables_filledText "SELECT * FROM t WHERE x = ? AND id = ?"
    preparedPair [7, -3] reads rfl (by decide +kernel) regular
  rw [text] at reads'
  exact ⟨reads, visited, filled, reads', (same byId).trans visited⟩

end ShardedSql
