import Mathlib.Data.List.Flatten
import ShardedSql.Proofs.TableUses
import ShardedSql.Sql.Grammar

/-!
The tables in the limits and offsets of a statement. Main statement: `tableNames` lists exactly the
tables the statement would name without its limits and offsets, at every depth, and so it lists
every table of the statement exactly if those in limits and offsets are also named outside of them.
-/

namespace ShardedSql.Sql

open Text

/-- Whether names of this part are tables that a statement reads or changes. -/
def NameRole.isTable : NameRole → Bool
  | .table | .schemaTable => true
  | .schema | .qualifier | .qualifiedColumn | .type | .other => false

/-- The tables among names, in lower case. -/
def tablesAmong (names : List (NameRole × String)) : List String :=
  (names.filter (·.1.isTable)).map (lowerCase ·.2)

@[simp]
theorem tablesAmong_nil : tablesAmong [] = [] :=
  rfl

@[simp]
theorem tablesAmong_cons (role : NameRole) (name : String) (names : List (NameRole × String)) :
    tablesAmong ((role, name) :: names) =
      (if role.isTable then [lowerCase name] else []) ++ tablesAmong names := by
  cases role <;> simp [tablesAmong, NameRole.isTable]

@[simp]
theorem tablesAmong_append (names others : List (NameRole × String)) :
    tablesAmong (names ++ others) = tablesAmong names ++ tablesAmong others := by
  simp [tablesAmong]

@[simp]
theorem tablesAmong_flatMap {α : Type} (as : List α) (names : α → List (NameRole × String)) :
    tablesAmong (as.flatMap names) = as.flatMap fun a => tablesAmong (names a) := by
  induction as with
  | nil => rfl
  | cons a rest ih => simp [ih]

@[simp]
theorem tablesAmong_played {role : NameRole} (names : List String) (other : ¬ role.isTable) :
    tablesAmong (played role names) = [] := by
  simp [tablesAmong, played, other]

@[simp]
theorem tablesAmong_writtenTable (table : Option String × String) :
    tablesAmong (writtenTable table) = [listed table] := by
  obtain ⟨_ | _, _⟩ := table <;> simp [writtenTable, NameRole.isTable, listed]

@[simp]
theorem tablesAmong_writtenColumn (column : Option String × String) :
    tablesAmong (writtenColumn column) = [] := by
  obtain ⟨_ | _, _⟩ := column <;> simp [writtenColumn, NameRole.isTable]

theorem tablesAmong_subset {names others : List (NameRole × String)} (kept : names.Sublist others) :
    tablesAmong names ⊆ tablesAmong others :=
  ((kept.filter _).map _).subset

/-! ## Statements without limits and offsets -/

mutual

/-- The expression with no limit and no offset in any of its queries. -/
def Expr.unwindowed : Expr → Expr
  | .literal value => .literal value
  | .column table name span => .column table name span
  | .binary left op right => .binary left.unwindowed op right.unwindowed
  | .unary op operand => .unary op operand.unwindowed
  | .call function args distinct => .call function (unwindowedList args) distinct
  | .subquery query => .subquery query.unwindowed
  | .existence query negated => .existence query.unwindowed negated
  | .isNull operand negated => .isNull operand.unwindowed negated
  | .inList operand items negated => .inList operand.unwindowed (unwindowedList items) negated
  | .between operand low high negated =>
      .between operand.unwindowed low.unwindowed high.unwindowed negated
  | .choice subject branches otherwise =>
      .choice (unwindowedOption subject) (unwindowedBranches branches)
        (unwindowedOption otherwise)
  | .cast operand typeName => .cast operand.unwindowed typeName
  | .paren inner => .paren inner.unwindowed
  | .placeholder place => .placeholder place
  | .wildcard table => .wildcard table

def unwindowedList : List Expr → List Expr
  | [] => []
  | e :: rest => e.unwindowed :: unwindowedList rest

def unwindowedOption : Option Expr → Option Expr
  | none => none
  | some e => some e.unwindowed

def unwindowedBranches : List Branch → List Branch
  | [] => []
  | ⟨condition, result⟩ :: rest =>
      ⟨condition.unwindowed, result.unwindowed⟩ :: unwindowedBranches rest

def unwindowedItems : List SelectItem → List SelectItem
  | [] => []
  | ⟨e, label⟩ :: rest => ⟨e.unwindowed, label⟩ :: unwindowedItems rest

def unwindowedOrder : List OrderItem → List OrderItem
  | [] => []
  | ⟨e, direction⟩ :: rest => ⟨e.unwindowed, direction⟩ :: unwindowedOrder rest

def TableRef.unwindowed : TableRef → TableRef
  | .table schema name label => .table schema name label
  | .derived query label => .derived query.unwindowed label
  | .join left kind right condition shared =>
      .join left.unwindowed kind right.unwindowed (unwindowedOption condition) shared

def unwindowedSource : Option TableRef → Option TableRef
  | none => none
  | some t => some t.unwindowed

def Select.unwindowed : Select → Select
  | ⟨distinct, items, source, condition, groups, having, order, _, _⟩ =>
      { distinct
        items := unwindowedItems items
        source := unwindowedSource source
        condition := unwindowedOption condition
        groups := unwindowedList groups
        having := unwindowedOption having
        order := unwindowedOrder order
        limit := none
        offset := none }

end

def Assignment.unwindowed (a : Assignment) : Assignment :=
  { a with value := a.value.unwindowed }

def InsertSource.unwindowed : InsertSource → InsertSource
  | .values rows => .values (rows.map unwindowedList)
  | .query q => .query q.unwindowed
  | .defaults => .defaults

/-- The statement with no limit and no offset, neither its own nor in its queries. -/
def Statement.unwindowed : Statement → Statement
  | .select query => .select query.unwindowed
  | .insert s =>
      .insert { s with
        source := s.source.unwindowed
        onDuplicate := s.onDuplicate.map Assignment.unwindowed }
  | .update s =>
      .update { s with
        assignments := s.assignments.map Assignment.unwindowed
        condition := unwindowedOption s.condition }
  | .delete s => .delete { s with condition := unwindowedOption s.condition }

/-! ## The names that are left -/

mutual

theorem Expr.names_unwindowed (e : Expr) : e.unwindowed.names.Sublist e.names := by
  match e with
  | .literal _ => simp [Expr.unwindowed]
  | .column _ _ _ => simp [Expr.unwindowed]
  | .binary left _ right =>
      simpa [Expr.unwindowed, Expr.names] using
        left.names_unwindowed.append right.names_unwindowed
  | .unary _ operand => simpa [Expr.unwindowed, Expr.names] using operand.names_unwindowed
  | .call _ args _ => simpa [Expr.unwindowed, Expr.names] using listNames_unwindowed args
  | .subquery query => simpa [Expr.unwindowed, Expr.names] using query.names_unwindowed
  | .existence query _ => simpa [Expr.unwindowed, Expr.names] using query.names_unwindowed
  | .isNull operand _ => simpa [Expr.unwindowed, Expr.names] using operand.names_unwindowed
  | .inList operand items _ =>
      simpa [Expr.unwindowed, Expr.names] using
        operand.names_unwindowed.append (listNames_unwindowed items)
  | .between operand low high _ =>
      simpa [Expr.unwindowed, Expr.names] using
        operand.names_unwindowed.append (low.names_unwindowed.append high.names_unwindowed)
  | .choice subject branches otherwise =>
      simpa [Expr.unwindowed, Expr.names] using
        (optionNames_unwindowed subject).append
          ((branchNames_unwindowed branches).append (optionNames_unwindowed otherwise))
  | .cast operand _ => simpa [Expr.unwindowed, Expr.names] using operand.names_unwindowed
  | .paren inner => simpa [Expr.unwindowed, Expr.names] using inner.names_unwindowed
  | .placeholder _ => simp [Expr.unwindowed]
  | .wildcard _ => simp [Expr.unwindowed]

theorem listNames_unwindowed (es : List Expr) :
    (listNames (unwindowedList es)).Sublist (listNames es) := by
  match es with
  | [] => exact .slnil
  | e :: rest =>
      simpa [unwindowedList, listNames] using
        e.names_unwindowed.append (listNames_unwindowed rest)

theorem optionNames_unwindowed (e : Option Expr) :
    (optionNames (unwindowedOption e)).Sublist (optionNames e) := by
  match e with
  | none => exact .slnil
  | some e => simpa [unwindowedOption, optionNames] using e.names_unwindowed

theorem branchNames_unwindowed (branches : List Branch) :
    (branchNames (unwindowedBranches branches)).Sublist (branchNames branches) := by
  match branches with
  | [] => exact .slnil
  | ⟨condition, result⟩ :: rest =>
      simpa [unwindowedBranches, branchNames] using
        condition.names_unwindowed.append
          (result.names_unwindowed.append (branchNames_unwindowed rest))

theorem itemNames_unwindowed (items : List SelectItem) :
    (itemNames (unwindowedItems items)).Sublist (itemNames items) := by
  match items with
  | [] => exact .slnil
  | ⟨e, label⟩ :: rest =>
      simpa [unwindowedItems, itemNames] using
        e.names_unwindowed.append
          ((List.Sublist.refl (played .other label.toList)).append (itemNames_unwindowed rest))

theorem orderNames_unwindowed (order : List OrderItem) :
    (orderNames (unwindowedOrder order)).Sublist (orderNames order) := by
  match order with
  | [] => exact .slnil
  | ⟨e, _⟩ :: rest =>
      simpa [unwindowedOrder, orderNames] using
        e.names_unwindowed.append (orderNames_unwindowed rest)

theorem TableRef.names_unwindowed (t : TableRef) : t.unwindowed.names.Sublist t.names := by
  match t with
  | .table _ _ _ => simp [TableRef.unwindowed]
  | .derived query _ =>
      simpa [TableRef.unwindowed, TableRef.names] using query.names_unwindowed
  | .join left _ right condition _ =>
      simpa [TableRef.unwindowed, TableRef.names] using
        left.names_unwindowed.append
          (right.names_unwindowed.append
            ((optionNames_unwindowed condition).append (List.Sublist.refl _)))

theorem sourceNames_unwindowed (source : Option TableRef) :
    (sourceNames (unwindowedSource source)).Sublist (sourceNames source) := by
  match source with
  | none => exact .slnil
  | some t => simpa [unwindowedSource, sourceNames] using t.names_unwindowed

theorem Select.names_unwindowed (query : Select) :
    query.unwindowed.names.Sublist query.names := by
  match query with
  | ⟨_, items, source, condition, groups, having, order, limit, offset⟩ =>
      have kept := ((itemNames_unwindowed items).append (sourceNames_unwindowed source)).append
        (((optionNames_unwindowed condition).append (listNames_unwindowed groups)).append
          ((optionNames_unwindowed having).append (orderNames_unwindowed order)))
      simpa [Select.unwindowed, Select.names, optionNames] using
        kept.append (List.nil_sublist (optionNames limit ++ optionNames offset))

end

theorem assignmentNames_unwindowed (assignments : List Assignment) :
    ((assignments.map Assignment.unwindowed).flatMap Assignment.names).Sublist
      (assignments.flatMap Assignment.names) := by
  rw [List.flatMap_map]
  refine List.Sublist.flatMap_right assignments fun a _ => ?_
  exact (List.Sublist.refl _).append a.value.names_unwindowed

theorem InsertSource.names_unwindowed (source : InsertSource) :
    source.unwindowed.names.Sublist source.names := by
  cases source with
  | values rows =>
      simpa [InsertSource.unwindowed, InsertSource.names, List.flatMap_map] using
        List.Sublist.flatMap_right rows fun row _ => listNames_unwindowed row
  | query q => exact q.names_unwindowed
  | defaults => exact .slnil

theorem Statement.names_unwindowed (statement : Statement) :
    statement.unwindowed.names.Sublist statement.names := by
  cases statement with
  | select query => exact query.names_unwindowed
  | insert s =>
      exact ((List.Sublist.refl _).append s.source.names_unwindowed).append
        (assignmentNames_unwindowed s.onDuplicate)
  | update s =>
      exact ((List.Sublist.refl _).append (assignmentNames_unwindowed s.assignments)).append
        (optionNames_unwindowed s.condition)
  | delete s => exact (List.Sublist.refl _).append (optionNames_unwindowed s.condition)

/-! ## The tables among them -/

section Tables

variable {table : String}

mutual

theorem Expr.mem_uses_iff (e : Expr) :
    table ∈ e.tableUses.map listed ↔ table ∈ tablesAmong e.unwindowed.names := by
  match e with
  | .literal _ => simp [Expr.tableUses, Expr.unwindowed, Expr.names]
  | .column none _ _ => simp [Expr.tableUses, Expr.unwindowed, Expr.names, NameRole.isTable]
  | .column (some _) _ _ => simp [Expr.tableUses, Expr.unwindowed, Expr.names, NameRole.isTable]
  | .binary left _ right =>
      simp only [Expr.tableUses, Expr.unwindowed, Expr.names, List.map_append, List.mem_append,
        tablesAmong_append, left.mem_uses_iff, right.mem_uses_iff]
  | .unary _ operand => exact operand.mem_uses_iff
  | .call _ args _ => exact mem_listUses_iff args
  | .subquery query => exact query.mem_uses_iff
  | .existence query _ => exact query.mem_uses_iff
  | .isNull operand _ => exact operand.mem_uses_iff
  | .inList operand items _ =>
      simp only [Expr.tableUses, Expr.unwindowed, Expr.names, List.map_append, List.mem_append,
        tablesAmong_append, operand.mem_uses_iff, mem_listUses_iff items]
  | .between operand low high _ =>
      simp only [Expr.tableUses, Expr.unwindowed, Expr.names, List.map_append, List.mem_append,
        tablesAmong_append, operand.mem_uses_iff, low.mem_uses_iff, high.mem_uses_iff]
  | .choice subject branches otherwise =>
      simp only [Expr.tableUses, Expr.unwindowed, Expr.names, List.map_append, List.mem_append,
        tablesAmong_append, mem_optionUses_iff subject, mem_branchUses_iff branches,
        mem_optionUses_iff otherwise]
  | .cast operand _ => exact operand.mem_uses_iff
  | .paren inner => exact inner.mem_uses_iff
  | .placeholder (.positional _) => simp [Expr.tableUses, Expr.unwindowed, Expr.names]
  | .placeholder (.named _) =>
      simp [Expr.tableUses, Expr.unwindowed, Expr.names, NameRole.isTable]
  | .wildcard _ => simp [Expr.tableUses, Expr.unwindowed, Expr.names, NameRole.isTable]

theorem mem_listUses_iff (es : List Expr) :
    table ∈ (listUses es).map listed ↔ table ∈ tablesAmong (listNames (unwindowedList es)) := by
  match es with
  | [] => simp [listUses, unwindowedList, listNames]
  | e :: rest =>
      simp only [listUses, unwindowedList, listNames, List.map_append, List.mem_append,
        tablesAmong_append, e.mem_uses_iff, mem_listUses_iff rest]

theorem mem_optionUses_iff (e : Option Expr) :
    table ∈ (optionUses e).map listed ↔
      table ∈ tablesAmong (optionNames (unwindowedOption e)) := by
  match e with
  | none => simp [optionUses, unwindowedOption, optionNames]
  | some e => exact e.mem_uses_iff

theorem mem_branchUses_iff (branches : List Branch) :
    table ∈ (branchUses branches).map listed ↔
      table ∈ tablesAmong (branchNames (unwindowedBranches branches)) := by
  match branches with
  | [] => simp [branchUses, unwindowedBranches, branchNames]
  | ⟨condition, result⟩ :: rest =>
      simp only [branchUses, unwindowedBranches, branchNames, List.map_append, List.mem_append,
        tablesAmong_append, condition.mem_uses_iff, result.mem_uses_iff, mem_branchUses_iff rest]

theorem mem_itemUses_iff (items : List SelectItem) :
    table ∈ (itemUses items).map listed ↔
      table ∈ tablesAmong (itemNames (unwindowedItems items)) := by
  match items with
  | [] => simp [itemUses, unwindowedItems, itemNames]
  | ⟨e, label⟩ :: rest =>
      have labels : tablesAmong (played .other label.toList) = [] :=
        tablesAmong_played _ (by decide)
      simp only [itemUses, unwindowedItems, itemNames, List.map_append, List.mem_append,
        tablesAmong_append, labels, List.append_nil, e.mem_uses_iff, mem_itemUses_iff rest]

theorem mem_orderUses_iff (order : List OrderItem) :
    table ∈ (orderUses order).map listed ↔
      table ∈ tablesAmong (orderNames (unwindowedOrder order)) := by
  match order with
  | [] => simp [orderUses, unwindowedOrder, orderNames]
  | ⟨e, _⟩ :: rest =>
      simp only [orderUses, unwindowedOrder, orderNames, List.map_append, List.mem_append,
        tablesAmong_append, e.mem_uses_iff, mem_orderUses_iff rest]

theorem TableRef.mem_uses_iff (t : TableRef) :
    table ∈ t.tableUses.map listed ↔ table ∈ tablesAmong t.unwindowed.names := by
  match t with
  | .table none _ _ =>
      simp [TableRef.tableUses, TableRef.unwindowed, TableRef.names, NameRole.isTable, listed]
  | .table (some _) _ _ =>
      simp [TableRef.tableUses, TableRef.unwindowed, TableRef.names, NameRole.isTable, listed]
  | .derived query label =>
      have labels : tablesAmong (played .other label.toList) = [] :=
        tablesAmong_played _ (by decide)
      simp only [TableRef.tableUses, TableRef.unwindowed, TableRef.names, tablesAmong_append,
        labels, List.append_nil, query.mem_uses_iff]
  | .join left _ right condition shared =>
      have columns : tablesAmong (played .other shared) = [] := tablesAmong_played _ (by decide)
      simp only [TableRef.tableUses, TableRef.unwindowed, TableRef.names, List.map_append,
        List.mem_append, tablesAmong_append, columns, List.append_nil, left.mem_uses_iff,
        right.mem_uses_iff, mem_optionUses_iff condition]

theorem mem_sourceUses_iff (source : Option TableRef) :
    table ∈ (sourceUses source).map listed ↔
      table ∈ tablesAmong (sourceNames (unwindowedSource source)) := by
  match source with
  | none => simp [sourceUses, unwindowedSource, sourceNames]
  | some t => exact t.mem_uses_iff

-- The clauses are searched in another order than they are written in.
theorem Select.mem_uses_iff (query : Select) :
    table ∈ query.tableUses.map listed ↔ table ∈ tablesAmong query.unwindowed.names := by
  match query with
  | ⟨_, items, source, condition, groups, having, order, _, _⟩ =>
      simp only [Select.tableUses, Select.unwindowed, Select.names, optionNames, List.map_append,
        List.mem_append, tablesAmong_append, List.append_nil,
        mem_itemUses_iff items, mem_sourceUses_iff source, mem_optionUses_iff condition,
        mem_listUses_iff groups, mem_optionUses_iff having, mem_orderUses_iff order]
      simp only [or_assoc, or_left_comm]

end

theorem mem_assignmentUses_iff (assignments : List Assignment) :
    table ∈ (assignmentUses assignments).map listed ↔
      table ∈ tablesAmong
        ((assignments.map Assignment.unwindowed).flatMap Assignment.names) := by
  simp only [assignmentUses, List.map_flatMap, List.flatMap_map, tablesAmong_flatMap,
    List.mem_flatMap, Assignment.names, Assignment.unwindowed, tablesAmong_append,
    tablesAmong_writtenColumn, List.nil_append, Expr.mem_uses_iff]

theorem InsertSource.mem_uses_iff (source : InsertSource) :
    table ∈ source.tableUses.map listed ↔ table ∈ tablesAmong source.unwindowed.names := by
  cases source with
  | values rows =>
      simp only [InsertSource.tableUses, InsertSource.unwindowed, InsertSource.names,
        List.map_flatMap, List.flatMap_map, tablesAmong_flatMap, List.mem_flatMap,
        mem_listUses_iff]
  | query q => exact q.mem_uses_iff
  | defaults => simp [InsertSource.tableUses, InsertSource.unwindowed, InsertSource.names]

theorem Statement.mem_uses_iff (statement : Statement) :
    table ∈ statement.tableUses.map listed ↔ table ∈ tablesAmong statement.unwindowed.names := by
  have columns (names : List String) : tablesAmong (played .other names) = [] :=
    tablesAmong_played names (by decide)
  cases statement with
  | select query => exact query.mem_uses_iff
  | insert s =>
      simp only [Statement.tableUses, Statement.unwindowed, Statement.names, List.map_cons,
        List.map_append, List.mem_cons, List.mem_append, tablesAmong_append, columns,
        tablesAmong_writtenTable, List.append_nil, List.not_mem_nil, or_false, or_assoc,
        s.source.mem_uses_iff, mem_assignmentUses_iff]
  | update s =>
      simp only [Statement.tableUses, Statement.unwindowed, Statement.names, List.map_cons,
        List.map_append, List.mem_cons, List.mem_append, tablesAmong_append, columns,
        tablesAmong_writtenTable, List.append_nil, List.not_mem_nil, or_false, or_assoc,
        mem_assignmentUses_iff, mem_optionUses_iff]
  | delete s =>
      simp only [Statement.tableUses, Statement.unwindowed, Statement.names, List.map_cons,
        List.mem_cons, List.mem_append, tablesAmong_append, columns, tablesAmong_writtenTable,
        List.append_nil, List.not_mem_nil, or_false, mem_optionUses_iff]

end Tables

theorem Statement.tableNames_eq_unwindowed (statement : Statement) :
    statement.tableNames = .ofList (tablesAmong statement.unwindowed.names) := by
  refine NameSet.ext fun table => ?_
  rw [statement.tableNames_eq, NameSet.mem_ofList, NameSet.mem_ofList, statement.mem_uses_iff]

/-- The tables of a statement are those it names outside of limits and offsets. They are all tables
it names exactly if a table in a limit or an offset is named elsewhere as well. -/
theorem Statement.tableNames_whole_iff (statement : Statement) :
    statement.tableNames = .ofList (tablesAmong statement.unwindowed.names) ∧
      (statement.tableNames = .ofList (tablesAmong statement.names) ↔
        ∀ table ∈ tablesAmong statement.names,
          table ∈ tablesAmong statement.unwindowed.names) := by
  have listed_eq := statement.tableNames_eq_unwindowed
  refine ⟨listed_eq, ?_⟩
  rw [listed_eq]
  constructor
  · intro whole table member
    rwa [← NameSet.mem_ofList, whole, NameSet.mem_ofList]
  · intro outside
    refine NameSet.ext fun table => ?_
    simp only [NameSet.mem_ofList]
    exact ⟨fun member => tablesAmong_subset statement.names_unwindowed member, outside table⟩

/-- The rows of `t`, as many as `u` has. -/
def countedLimit : Statement :=
  .select { Select.ofItems [⟨.wildcard none, none⟩] (some (.bare "t")) with
    limit := some (.subquery
      (Select.ofItems [⟨.call "COUNT" [.wildcard none] false, none⟩] (some (.bare "u")))) }

theorem tableNames_misses_limit :
    Statement.parse "SELECT * FROM t LIMIT (SELECT COUNT(*) FROM u)" = .ok countedLimit ∧
      tablesAmong countedLimit.names = ["t", "u"] ∧
      countedLimit.tableNames = .ofList ["t"] ∧
      countedLimit.tableNames ≠ .ofList (tablesAmong countedLimit.names) := by
  refine ⟨by with_unfolding_all rfl, by decide +kernel, by decide +kernel, by decide +kernel⟩

end ShardedSql.Sql
