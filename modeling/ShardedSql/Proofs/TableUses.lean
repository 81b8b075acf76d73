import ShardedSql.Proofs.NameRoles

/-!
The places at which a statement names a table for `tableNames`, each with the schema before it. Main
statements: the names at these places are the tables of the statement, and the places of a mapped
statement are its places mapped.
-/

namespace ShardedSql.Sql

open Text

mutual

/-- Where the queries of an expression name tables. -/
def Expr.tableUses : Expr → List (Option String × String)
  | .subquery query => query.tableUses
  | .existence query _ => query.tableUses
  | .binary left _ right => left.tableUses ++ right.tableUses
  | .unary _ operand => operand.tableUses
  | .isNull operand _ => operand.tableUses
  | .cast operand _ => operand.tableUses
  | .paren inner => inner.tableUses
  | .call _ args _ => listUses args
  | .inList operand items _ => operand.tableUses ++ listUses items
  | .between operand low high _ => operand.tableUses ++ low.tableUses ++ high.tableUses
  | .choice subject branches otherwise =>
      optionUses subject ++ branchUses branches ++ optionUses otherwise
  | .literal _ => []
  | .column _ _ _ => []
  | .placeholder _ => []
  | .wildcard _ => []

def listUses : List Expr → List (Option String × String)
  | [] => []
  | e :: rest => e.tableUses ++ listUses rest

def optionUses : Option Expr → List (Option String × String)
  | none => []
  | some e => e.tableUses

def branchUses : List Branch → List (Option String × String)
  | [] => []
  | ⟨condition, result⟩ :: rest => condition.tableUses ++ result.tableUses ++ branchUses rest

def itemUses : List SelectItem → List (Option String × String)
  | [] => []
  | ⟨e, _⟩ :: rest => e.tableUses ++ itemUses rest

def orderUses : List OrderItem → List (Option String × String)
  | [] => []
  | ⟨e, _⟩ :: rest => e.tableUses ++ orderUses rest

def TableRef.tableUses : TableRef → List (Option String × String)
  | .table schema name _ => [(schema, name)]
  | .derived query _ => query.tableUses
  | .join left _ right condition _ => left.tableUses ++ right.tableUses ++ optionUses condition

def sourceUses : Option TableRef → List (Option String × String)
  | none => []
  | some t => t.tableUses

def Select.tableUses : Select → List (Option String × String)
  | ⟨_, items, source, condition, groups, having, order, _, _⟩ =>
      sourceUses source ++ itemUses items ++ optionUses condition ++ listUses groups
        ++ optionUses having ++ orderUses order

end

def assignmentUses (assignments : List Assignment) : List (Option String × String) :=
  assignments.flatMap fun assignment => assignment.value.tableUses

def InsertSource.tableUses : InsertSource → List (Option String × String)
  | .values rows => rows.flatMap listUses
  | .query q => q.tableUses
  | .defaults => []

/-- The table a statement changes stands before those it reads. -/
def Statement.tableUses : Statement → List (Option String × String)
  | .select query => query.tableUses
  | .insert s => (s.schema, s.table) :: (s.source.tableUses ++ assignmentUses s.onDuplicate)
  | .update s => (s.schema, s.table) :: (assignmentUses s.assignments ++ optionUses s.condition)
  | .delete s => (s.schema, s.table) :: optionUses s.condition

/-! ## The names at these places -/

/-- A table as `tableNames` lists it. -/
def listed (use : Option String × String) : String :=
  lowerCase use.2

mutual

theorem Expr.tables_eq (e : Expr) : e.tables = e.tableUses.map listed := by
  match e with
  | .subquery query => simp [Expr.tables, Expr.tableUses, query.tables_eq]
  | .existence query _ => simp [Expr.tables, Expr.tableUses, query.tables_eq]
  | .binary left _ right => simp [Expr.tables, Expr.tableUses, left.tables_eq, right.tables_eq]
  | .unary _ operand => simp [Expr.tables, Expr.tableUses, operand.tables_eq]
  | .isNull operand _ => simp [Expr.tables, Expr.tableUses, operand.tables_eq]
  | .cast operand _ => simp [Expr.tables, Expr.tableUses, operand.tables_eq]
  | .paren inner => simp [Expr.tables, Expr.tableUses, inner.tables_eq]
  | .call _ args _ => simp [Expr.tables, Expr.tableUses, listTables_eq args]
  | .inList operand items _ =>
      simp [Expr.tables, Expr.tableUses, operand.tables_eq, listTables_eq items]
  | .between operand low high _ =>
      simp [Expr.tables, Expr.tableUses, operand.tables_eq, low.tables_eq, high.tables_eq]
  | .choice subject branches otherwise =>
      have first := optionTables_eq subject
      have last := optionTables_eq otherwise
      cases subject <;> cases otherwise <;>
        simp_all [Expr.tables, Expr.tableUses, branchTables_eq branches]
  | .literal _ => simp [Expr.tables, Expr.tableUses]
  | .column _ _ _ => simp [Expr.tables, Expr.tableUses]
  | .placeholder _ => simp [Expr.tables, Expr.tableUses]
  | .wildcard _ => simp [Expr.tables, Expr.tableUses]

theorem listTables_eq (es : List Expr) : listTables es = (listUses es).map listed := by
  match es with
  | [] => rfl
  | e :: rest => simp [listTables, listUses, e.tables_eq, listTables_eq rest]

theorem branchTables_eq (branches : List Branch) :
    branchTables branches = (branchUses branches).map listed := by
  match branches with
  | [] => rfl
  | ⟨condition, result⟩ :: rest =>
      simp [branchTables, branchUses, condition.tables_eq, result.tables_eq, branchTables_eq rest]

theorem itemTables_eq (items : List SelectItem) :
    itemTables items = (itemUses items).map listed := by
  match items with
  | [] => rfl
  | ⟨e, _⟩ :: rest => simp [itemTables, itemUses, e.tables_eq, itemTables_eq rest]

theorem orderTables_eq (order : List OrderItem) :
    orderTables order = (orderUses order).map listed := by
  match order with
  | [] => rfl
  | ⟨e, _⟩ :: rest => simp [orderTables, orderUses, e.tables_eq, orderTables_eq rest]

theorem TableRef.tables_eq (t : TableRef) : t.tables = t.tableUses.map listed := by
  match t with
  | .table _ _ _ => rfl
  | .derived query _ => simp [TableRef.tables, TableRef.tableUses, query.tables_eq]
  | .join left _ right condition _ =>
      have matching := optionTables_eq condition
      cases condition <;>
        simp_all [TableRef.tables, TableRef.tableUses, left.tables_eq, right.tables_eq]

theorem optionTables_eq (e : Option Expr) :
    (match e with | some e => e.tables | none => []) = (optionUses e).map listed := by
  match e with
  | none => rfl
  | some e => simp [optionUses, e.tables_eq]

theorem sourceTables_eq (source : Option TableRef) :
    (match source with | some t => t.tables | none => []) = (sourceUses source).map listed := by
  match source with
  | none => rfl
  | some t => simp [sourceUses, t.tables_eq]

theorem Select.tables_eq (query : Select) : query.tables = query.tableUses.map listed := by
  match query with
  | ⟨_, items, source, condition, groups, having, order, _, _⟩ =>
      have from_eq := sourceTables_eq source
      have where_eq := optionTables_eq condition
      have having_eq := optionTables_eq having
      cases source <;> cases condition <;> cases having <;>
        simp_all only [Select.tables, Select.tableUses, itemTables_eq items, listTables_eq groups,
          orderTables_eq order, List.map_append]

end

theorem flatMap_tables_eq (es : List Expr) : es.flatMap Expr.tables = (listUses es).map listed := by
  induction es with
  | nil => rfl
  | cons e rest ih => simp [listUses, ih, e.tables_eq]

theorem InsertSource.tables_eq (source : InsertSource) :
    source.tables = source.tableUses.map listed := by
  cases source with
  | values rows =>
      simp only [InsertSource.tables, InsertSource.tableUses]
      induction rows with
      | nil => rfl
      | cons row rest ih => simp [List.flatMap_append, flatMap_tables_eq, ih]
  | query q => simp only [InsertSource.tables, InsertSource.tableUses, q.tables_eq]
  | defaults => rfl

theorem assignmentTables_eq (assignments : List Assignment) :
    assignmentTables assignments = (assignmentUses assignments).map listed := by
  simp [assignmentTables, assignmentUses, List.map_flatMap, Expr.tables_eq]

theorem optionTables_eq_map (e : Option Expr) : optionTables e = (optionUses e).map listed := by
  cases e <;> simp [optionTables, optionUses, Expr.tables_eq]

/-- The tables a statement names are the names at these places. -/
theorem Statement.tableNames_eq (statement : Statement) :
    statement.tableNames = .ofList (statement.tableUses.map listed) := by
  cases statement with
  | select query => simp [Statement.tableNames, Select.tableNames, tableUses, query.tables_eq]
  | insert s =>
      simp [Statement.tableNames, tableUses, s.source.tables_eq, assignmentTables_eq, listed]
  | update s =>
      simp [Statement.tableNames, tableUses, assignmentTables_eq, optionTables_eq_map, listed]
  | delete s => simp [Statement.tableNames, tableUses, optionTables_eq_map, listed]

/-! ## The places of a mapped statement -/

section Mapping

variable (f : NameMap)

mutual

theorem Expr.tableUses_named (e : Expr) : (e.named f).tableUses = e.tableUses.map (mapTable f) := by
  match e with
  | .subquery query => simp [Expr.named, Expr.tableUses, query.tableUses_named]
  | .existence query _ => simp [Expr.named, Expr.tableUses, query.tableUses_named]
  | .binary left _ right =>
      simp [Expr.named, Expr.tableUses, left.tableUses_named, right.tableUses_named]
  | .unary _ operand => simp [Expr.named, Expr.tableUses, operand.tableUses_named]
  | .isNull operand _ => simp [Expr.named, Expr.tableUses, operand.tableUses_named]
  | .cast operand _ => simp [Expr.named, Expr.tableUses, operand.tableUses_named]
  | .paren inner => simp [Expr.named, Expr.tableUses, inner.tableUses_named]
  | .call _ args _ => simp [Expr.named, Expr.tableUses, listUses_named args]
  | .inList operand items _ =>
      simp [Expr.named, Expr.tableUses, operand.tableUses_named, listUses_named items]
  | .between operand low high _ =>
      simp [Expr.named, Expr.tableUses, operand.tableUses_named, low.tableUses_named,
        high.tableUses_named]
  | .choice subject branches otherwise =>
      simp [Expr.named, Expr.tableUses, optionUses_named subject, branchUses_named branches,
        optionUses_named otherwise]
  | .literal _ => simp [Expr.named, Expr.tableUses]
  | .column none _ _ => simp [Expr.named, Expr.tableUses]
  | .column (some _) _ _ => simp [Expr.named, Expr.tableUses]
  | .placeholder _ => simp [Expr.named, Expr.tableUses]
  | .wildcard _ => simp [Expr.named, Expr.tableUses]

theorem listUses_named (es : List Expr) :
    listUses (namedList f es) = (listUses es).map (mapTable f) := by
  match es with
  | [] => rfl
  | e :: rest => simp [namedList, listUses, e.tableUses_named, listUses_named rest]

theorem optionUses_named (e : Option Expr) :
    optionUses (namedOption f e) = (optionUses e).map (mapTable f) := by
  match e with
  | none => rfl
  | some e => simp [namedOption, optionUses, e.tableUses_named]

theorem branchUses_named (branches : List Branch) :
    branchUses (namedBranches f branches) = (branchUses branches).map (mapTable f) := by
  match branches with
  | [] => rfl
  | ⟨condition, result⟩ :: rest =>
      simp [namedBranches, branchUses, condition.tableUses_named, result.tableUses_named,
        branchUses_named rest]

theorem itemUses_named (items : List SelectItem) :
    itemUses (namedItems f items) = (itemUses items).map (mapTable f) := by
  match items with
  | [] => rfl
  | ⟨e, _⟩ :: rest => simp [namedItems, itemUses, e.tableUses_named, itemUses_named rest]

theorem orderUses_named (order : List OrderItem) :
    orderUses (namedOrder f order) = (orderUses order).map (mapTable f) := by
  match order with
  | [] => rfl
  | ⟨e, _⟩ :: rest => simp [namedOrder, orderUses, e.tableUses_named, orderUses_named rest]

theorem TableRef.tableUses_named (t : TableRef) :
    (t.named f).tableUses = t.tableUses.map (mapTable f) := by
  match t with
  | .table none _ _ => simp [TableRef.named, TableRef.tableUses, mapTable]
  | .table (some _) _ _ => simp [TableRef.named, TableRef.tableUses, mapTable]
  | .derived query _ => simp [TableRef.named, TableRef.tableUses, query.tableUses_named]
  | .join left _ right condition _ =>
      simp [TableRef.named, TableRef.tableUses, left.tableUses_named, right.tableUses_named,
        optionUses_named condition]

theorem sourceUses_named (source : Option TableRef) :
    sourceUses (namedSource f source) = (sourceUses source).map (mapTable f) := by
  match source with
  | none => rfl
  | some t => simp [namedSource, sourceUses, t.tableUses_named]

theorem Select.tableUses_named (query : Select) :
    (query.named f).tableUses = query.tableUses.map (mapTable f) := by
  match query with
  | ⟨_, items, source, condition, groups, having, order, _, _⟩ =>
      simp [Select.named, Select.tableUses, itemUses_named items, sourceUses_named source,
        optionUses_named condition, listUses_named groups, optionUses_named having,
        orderUses_named order]

end

theorem assignmentUses_named (assignments : List Assignment) :
    assignmentUses (assignments.map (Assignment.named f)) =
      (assignmentUses assignments).map (mapTable f) := by
  simp [assignmentUses, List.map_flatMap, List.flatMap_map, Assignment.named,
    Expr.tableUses_named]

/-- The places of a mapped statement are its places, mapped. -/
theorem Statement.tableUses_named (statement : Statement) :
    (statement.named f).tableUses = statement.tableUses.map (mapTable f) := by
  cases statement with
  | select query => simp [Statement.named, Statement.tableUses, query.tableUses_named]
  | insert s =>
      have source : (s.source.named f).tableUses = s.source.tableUses.map (mapTable f) := by
        cases s.source with
        | values rows =>
            simp [InsertSource.named, InsertSource.tableUses, List.map_flatMap,
              List.flatMap_map, listUses_named]
        | query q => simp [InsertSource.named, InsertSource.tableUses, q.tableUses_named]
        | defaults => rfl
      simp [Statement.named, Statement.tableUses, source, assignmentUses_named]
  | update s =>
      simp [Statement.named, Statement.tableUses, assignmentUses_named, optionUses_named]
  | delete s => simp [Statement.named, Statement.tableUses, optionUses_named]

end Mapping

end ShardedSql.Sql
