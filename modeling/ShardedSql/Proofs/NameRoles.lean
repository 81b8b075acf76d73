import ShardedSql.Sql.Tables

/-!
The names in a statement and the parts they play. A statement keeps its shape when its names are
mapped, each by its part, and the places of columns are forgotten. Main statements: mappings made
one after the other are one mapping, two mappings agree on a statement exactly if they agree on each
of its names, and the tables of a mapped statement are its tables mapped.
-/

namespace ShardedSql.Sql

/-- The part a name plays. -/
inductive NameRole where
  /-- A table, without a schema and behind one. -/
  | table
  | schemaTable
  | schema
  /-- The table a column is qualified with. -/
  | qualifier
  | qualifiedColumn
  /-- A type, all words of it together. -/
  | type
  /-- Columns without qualifier, labels, functions and named placeholders. -/
  | other
deriving DecidableEq, Repr

/-- Names by the parts they play. -/
abbrev NameMap := NameRole → String → String

namespace NameMap

def identity : NameMap :=
  fun _ name => name

/-- One mapping behind another. -/
def andThen (f g : NameMap) : NameMap :=
  fun role name => g role (f role name)

theorem comp_eq_andThen (f g : NameMap) (role : NameRole) :
    g role ∘ f role = f.andThen g role :=
  rfl

end NameMap

/-! ## Mapped statements -/

section Mapping

variable (f : NameMap)

def mapPlaceholder : Placeholder → Placeholder
  | .positional ordinal => .positional ordinal
  | .named name => .named (f .other name)

mutual

/-- The expression with its names mapped; where its columns stand is forgotten. -/
def Expr.named : Expr → Expr
  | .literal value => .literal value
  | .column none name _ => .column none (f .other name) (.point 0)
  | .column (some table) name _ =>
      .column (some (f .qualifier table)) (f .qualifiedColumn name) (.point 0)
  | .binary left op right => .binary left.named op right.named
  | .unary op operand => .unary op operand.named
  | .call function args distinct => .call (f .other function) (namedList args) distinct
  | .subquery query => .subquery query.named
  | .existence query negated => .existence query.named negated
  | .isNull operand negated => .isNull operand.named negated
  | .inList operand items negated => .inList operand.named (namedList items) negated
  | .between operand low high negated => .between operand.named low.named high.named negated
  | .choice subject branches otherwise =>
      .choice (namedOption subject) (namedBranches branches) (namedOption otherwise)
  | .cast operand typeName => .cast operand.named (f .type typeName)
  | .paren inner => .paren inner.named
  | .placeholder place => .placeholder (mapPlaceholder f place)
  | .wildcard table => .wildcard (table.map (f .qualifier))

def namedList : List Expr → List Expr
  | [] => []
  | e :: rest => e.named :: namedList rest

def namedOption : Option Expr → Option Expr
  | none => none
  | some e => some e.named

def namedBranches : List Branch → List Branch
  | [] => []
  | ⟨condition, result⟩ :: rest => ⟨condition.named, result.named⟩ :: namedBranches rest

def namedItems : List SelectItem → List SelectItem
  | [] => []
  | ⟨e, label⟩ :: rest => ⟨e.named, label.map (f .other)⟩ :: namedItems rest

def namedOrder : List OrderItem → List OrderItem
  | [] => []
  | ⟨e, direction⟩ :: rest => ⟨e.named, direction⟩ :: namedOrder rest

def TableRef.named : TableRef → TableRef
  | .table none name label => .table none (f .table name) (label.map (f .other))
  | .table (some schema) name label =>
      .table (some (f .schema schema)) (f .schemaTable name) (label.map (f .other))
  | .derived query label => .derived query.named (label.map (f .other))
  | .join left kind right condition shared =>
      .join left.named kind right.named (namedOption condition) (shared.map (f .other))

def namedSource : Option TableRef → Option TableRef
  | none => none
  | some t => some t.named

def Select.named : Select → Select
  | ⟨distinct, items, source, condition, groups, having, order, limit, offset⟩ =>
      { distinct
        items := namedItems items
        source := namedSource source
        condition := namedOption condition
        groups := namedList groups
        having := namedOption having
        order := namedOrder order
        limit := namedOption limit
        offset := namedOption offset }

end

/-- A table with its schema, mapped. -/
def mapTable : Option String × String → Option String × String
  | (none, name) => (none, f .table name)
  | (some schema, name) => (some (f .schema schema), f .schemaTable name)

/-- A column with its qualifier, mapped. -/
def mapColumn : Option String × String → Option String × String
  | (none, name) => (none, f .other name)
  | (some table, name) => (some (f .qualifier table), f .qualifiedColumn name)

def Assignment.named (a : Assignment) : Assignment where
  table := (mapColumn f (a.table, a.column)).1
  column := (mapColumn f (a.table, a.column)).2
  value := a.value.named f

def InsertSource.named : InsertSource → InsertSource
  | .values rows => .values (rows.map (namedList f))
  | .query q => .query (q.named f)
  | .defaults => .defaults

def Statement.named : Statement → Statement
  | .select query => .select (query.named f)
  | .insert s =>
      .insert
        { schema := (mapTable f (s.schema, s.table)).1
          table := (mapTable f (s.schema, s.table)).2
          columns := s.columns.map (f .other)
          source := s.source.named f
          onDuplicate := s.onDuplicate.map (Assignment.named f) }
  | .update s =>
      .update
        { schema := (mapTable f (s.schema, s.table)).1
          table := (mapTable f (s.schema, s.table)).2
          label := s.label.map (f .other)
          assignments := s.assignments.map (Assignment.named f)
          condition := namedOption f s.condition }
  | .delete s =>
      .delete
        { schema := (mapTable f (s.schema, s.table)).1
          table := (mapTable f (s.schema, s.table)).2
          label := s.label.map (f .other)
          condition := namedOption f s.condition }

end Mapping

/-! ## Mappings in a row -/

section Composition

variable (f g : NameMap)

mutual

theorem Expr.named_named (e : Expr) : (e.named f).named g = e.named (f.andThen g) := by
  match e with
  | .literal _ => simp only [Expr.named]
  | .column none _ _ => simp only [Expr.named, NameMap.andThen]
  | .column (some _) _ _ => simp only [Expr.named, NameMap.andThen]
  | .binary left _ right => simp only [Expr.named, left.named_named, right.named_named]
  | .unary _ operand => simp only [Expr.named, operand.named_named]
  | .call _ args _ => simp only [Expr.named, namedList_namedList args, NameMap.andThen]
  | .subquery query => simp only [Expr.named, query.named_named]
  | .existence query _ => simp only [Expr.named, query.named_named]
  | .isNull operand _ => simp only [Expr.named, operand.named_named]
  | .inList operand items _ =>
      simp only [Expr.named, operand.named_named, namedList_namedList items]
  | .between operand low high _ =>
      simp only [Expr.named, operand.named_named, low.named_named, high.named_named]
  | .choice subject branches otherwise =>
      simp only [Expr.named, namedOption_namedOption subject,
        namedBranches_namedBranches branches, namedOption_namedOption otherwise]
  | .cast operand _ => simp only [Expr.named, operand.named_named, NameMap.andThen]
  | .paren inner => simp only [Expr.named, inner.named_named]
  | .placeholder (.positional _) => simp only [Expr.named, mapPlaceholder]
  | .placeholder (.named _) => simp only [Expr.named, mapPlaceholder, NameMap.andThen]
  | .wildcard _ => simp only [Expr.named, Option.map_map, NameMap.comp_eq_andThen]

theorem namedList_namedList (es : List Expr) :
    namedList g (namedList f es) = namedList (f.andThen g) es := by
  match es with
  | [] => rfl
  | e :: rest => simp only [namedList, e.named_named, namedList_namedList rest]

theorem namedOption_namedOption (e : Option Expr) :
    namedOption g (namedOption f e) = namedOption (f.andThen g) e := by
  match e with
  | none => rfl
  | some e => simp only [namedOption, e.named_named]

theorem namedBranches_namedBranches (branches : List Branch) :
    namedBranches g (namedBranches f branches) = namedBranches (f.andThen g) branches := by
  match branches with
  | [] => rfl
  | ⟨condition, result⟩ :: rest =>
      simp only [namedBranches, condition.named_named, result.named_named,
        namedBranches_namedBranches rest]

theorem namedItems_namedItems (items : List SelectItem) :
    namedItems g (namedItems f items) = namedItems (f.andThen g) items := by
  match items with
  | [] => rfl
  | ⟨e, label⟩ :: rest =>
      simp only [namedItems, e.named_named, namedItems_namedItems rest, Option.map_map,
        NameMap.comp_eq_andThen]

theorem namedOrder_namedOrder (order : List OrderItem) :
    namedOrder g (namedOrder f order) = namedOrder (f.andThen g) order := by
  match order with
  | [] => rfl
  | ⟨e, _⟩ :: rest => simp only [namedOrder, e.named_named, namedOrder_namedOrder rest]

theorem TableRef.named_named (t : TableRef) : (t.named f).named g = t.named (f.andThen g) := by
  match t with
  | .table none _ _ =>
      simp only [TableRef.named, Option.map_map, NameMap.comp_eq_andThen, NameMap.andThen]
  | .table (some _) _ _ =>
      simp only [TableRef.named, Option.map_map, NameMap.comp_eq_andThen, NameMap.andThen]
  | .derived query _ =>
      simp only [TableRef.named, query.named_named, Option.map_map, NameMap.comp_eq_andThen]
  | .join left _ right condition _ =>
      simp only [TableRef.named, left.named_named, right.named_named,
        namedOption_namedOption condition, List.map_map, NameMap.comp_eq_andThen]

theorem namedSource_namedSource (source : Option TableRef) :
    namedSource g (namedSource f source) = namedSource (f.andThen g) source := by
  match source with
  | none => rfl
  | some t => simp only [namedSource, t.named_named]

theorem Select.named_named (query : Select) :
    (query.named f).named g = query.named (f.andThen g) := by
  match query with
  | ⟨_, items, source, condition, groups, having, order, limit, offset⟩ =>
      simp only [Select.named, namedItems_namedItems items, namedSource_namedSource source,
        namedOption_namedOption condition, namedList_namedList groups,
        namedOption_namedOption having, namedOrder_namedOrder order,
        namedOption_namedOption limit, namedOption_namedOption offset]

end

theorem mapTable_mapTable (name : Option String × String) :
    mapTable g (mapTable f name) = mapTable (f.andThen g) name := by
  obtain ⟨_ | _, _⟩ := name <;> rfl

theorem mapColumn_mapColumn (name : Option String × String) :
    mapColumn g (mapColumn f name) = mapColumn (f.andThen g) name := by
  obtain ⟨_ | _, _⟩ := name <;> rfl

theorem Assignment.named_named (a : Assignment) :
    (a.named f).named g = a.named (f.andThen g) := by
  simp only [Assignment.named, ← mapColumn_mapColumn, Expr.named_named]

theorem InsertSource.named_named (source : InsertSource) :
    (source.named f).named g = source.named (f.andThen g) := by
  cases source with
  | values rows =>
      simp only [InsertSource.named, List.map_map, Function.comp_def, namedList_namedList]
  | query q => simp only [InsertSource.named, Select.named_named]
  | defaults => rfl

theorem Statement.named_named (statement : Statement) :
    (statement.named f).named g = statement.named (f.andThen g) := by
  have assignments : Assignment.named g ∘ Assignment.named f = Assignment.named (f.andThen g) :=
    funext (Assignment.named_named f g)
  cases statement <;>
    simp only [Statement.named, ← mapTable_mapTable, Select.named_named,
      InsertSource.named_named, namedOption_namedOption, List.map_map, Option.map_map,
      NameMap.comp_eq_andThen, assignments]

end Composition

/-! ## The names in a statement -/

/-- Names that all play one part. -/
def played (role : NameRole) (names : List String) : List (NameRole × String) :=
  names.map fun name => (role, name)

mutual

/-- The names in an expression with the parts they play, queries in it included. -/
def Expr.names : Expr → List (NameRole × String)
  | .literal _ => []
  | .column none name _ => [(.other, name)]
  | .column (some table) name _ => [(.qualifier, table), (.qualifiedColumn, name)]
  | .binary left _ right => left.names ++ right.names
  | .unary _ operand => operand.names
  | .call function args _ => (.other, function) :: listNames args
  | .subquery query => query.names
  | .existence query _ => query.names
  | .isNull operand _ => operand.names
  | .inList operand items _ => operand.names ++ listNames items
  | .between operand low high _ => operand.names ++ low.names ++ high.names
  | .choice subject branches otherwise =>
      optionNames subject ++ branchNames branches ++ optionNames otherwise
  | .cast operand typeName => (.type, typeName) :: operand.names
  | .paren inner => inner.names
  | .placeholder (.positional _) => []
  | .placeholder (.named name) => [(.other, name)]
  | .wildcard table => played .qualifier table.toList

def listNames : List Expr → List (NameRole × String)
  | [] => []
  | e :: rest => e.names ++ listNames rest

def optionNames : Option Expr → List (NameRole × String)
  | none => []
  | some e => e.names

def branchNames : List Branch → List (NameRole × String)
  | [] => []
  | ⟨condition, result⟩ :: rest => condition.names ++ result.names ++ branchNames rest

def itemNames : List SelectItem → List (NameRole × String)
  | [] => []
  | ⟨e, label⟩ :: rest => e.names ++ played .other label.toList ++ itemNames rest

def orderNames : List OrderItem → List (NameRole × String)
  | [] => []
  | ⟨e, _⟩ :: rest => e.names ++ orderNames rest

def TableRef.names : TableRef → List (NameRole × String)
  | .table none name label => (.table, name) :: played .other label.toList
  | .table (some schema) name label =>
      (.schema, schema) :: (.schemaTable, name) :: played .other label.toList
  | .derived query label => query.names ++ played .other label.toList
  | .join left _ right condition shared =>
      left.names ++ right.names ++ optionNames condition ++ played .other shared

def sourceNames : Option TableRef → List (NameRole × String)
  | none => []
  | some t => t.names

def Select.names : Select → List (NameRole × String)
  | ⟨_, items, source, condition, groups, having, order, limit, offset⟩ =>
      itemNames items ++ sourceNames source ++ optionNames condition ++ listNames groups
        ++ optionNames having ++ orderNames order ++ optionNames limit ++ optionNames offset

end

def writtenTable : Option String × String → List (NameRole × String)
  | (none, name) => [(.table, name)]
  | (some schema, name) => [(.schema, schema), (.schemaTable, name)]

def writtenColumn : Option String × String → List (NameRole × String)
  | (none, name) => [(.other, name)]
  | (some table, name) => [(.qualifier, table), (.qualifiedColumn, name)]

def Assignment.names (a : Assignment) : List (NameRole × String) :=
  writtenColumn (a.table, a.column) ++ a.value.names

def InsertSource.names : InsertSource → List (NameRole × String)
  | .values rows => rows.flatMap listNames
  | .query q => q.names
  | .defaults => []

def Statement.names : Statement → List (NameRole × String)
  | .select query => query.names
  | .insert s =>
      writtenTable (s.schema, s.table) ++ played .other s.columns ++ s.source.names
        ++ s.onDuplicate.flatMap Assignment.names
  | .update s =>
      writtenTable (s.schema, s.table) ++ played .other s.label.toList
        ++ s.assignments.flatMap Assignment.names ++ optionNames s.condition
  | .delete s =>
      writtenTable (s.schema, s.table) ++ played .other s.label.toList ++ optionNames s.condition

/-! ## Mappings that agree -/

section Agreement

variable {f g : NameMap}

/-- Two mappings agree on names by their parts. -/
def Agree (f g : NameMap) (names : List (NameRole × String)) : Prop :=
  ∀ role name, (role, name) ∈ names → f role name = g role name

@[simp]
theorem agree_nil : Agree f g [] := by
  simp [Agree]

@[simp]
theorem agree_cons {role : NameRole} {name : String} {names : List (NameRole × String)} :
    Agree f g ((role, name) :: names) ↔ f role name = g role name ∧ Agree f g names := by
  simp only [Agree, List.mem_cons, Prod.mk.injEq]
  grind

@[simp]
theorem agree_append {names others : List (NameRole × String)} :
    Agree f g (names ++ others) ↔ Agree f g names ∧ Agree f g others := by
  simp only [Agree, List.mem_append]
  grind

theorem agree_played {role : NameRole} {names : List String} :
    Agree f g (played role names) ↔ names.map (f role) = names.map (g role) := by
  simp only [Agree, played, List.mem_map, List.map_inj_left]
  grind

theorem agree_played_option {role : NameRole} {name : Option String} :
    Agree f g (played role name.toList) ↔ name.map (f role) = name.map (g role) := by
  cases name <;> simp [played]

mutual

theorem Expr.named_eq_iff (e : Expr) : e.named f = e.named g ↔ Agree f g e.names := by
  match e with
  | .literal _ => simp [Expr.named, Expr.names]
  | .column none _ _ => simp [Expr.named, Expr.names]
  | .column (some _) _ _ => simp [Expr.named, Expr.names]
  | .binary left _ right =>
      simp [Expr.named, Expr.names, left.named_eq_iff, right.named_eq_iff]
  | .unary _ operand => simp [Expr.named, Expr.names, operand.named_eq_iff]
  | .call _ args _ => simp [Expr.named, Expr.names, namedList_eq_iff args]
  | .subquery query => simp [Expr.named, Expr.names, query.named_eq_iff]
  | .existence query _ => simp [Expr.named, Expr.names, query.named_eq_iff]
  | .isNull operand _ => simp [Expr.named, Expr.names, operand.named_eq_iff]
  | .inList operand items _ =>
      simp [Expr.named, Expr.names, operand.named_eq_iff, namedList_eq_iff items]
  | .between operand low high _ =>
      simp [Expr.named, Expr.names, operand.named_eq_iff, low.named_eq_iff, high.named_eq_iff]
  | .choice subject branches otherwise =>
      simp [Expr.named, Expr.names, namedOption_eq_iff subject, namedBranches_eq_iff branches,
        namedOption_eq_iff otherwise, and_assoc]
  | .cast operand _ => simp [Expr.named, Expr.names, operand.named_eq_iff, and_comm]
  | .paren inner => simp [Expr.named, Expr.names, inner.named_eq_iff]
  | .placeholder (.positional _) => simp [Expr.named, Expr.names, mapPlaceholder]
  | .placeholder (.named _) => simp [Expr.named, Expr.names, mapPlaceholder]
  | .wildcard _ => simp [Expr.named, Expr.names, agree_played_option]

theorem namedList_eq_iff (es : List Expr) :
    namedList f es = namedList g es ↔ Agree f g (listNames es) := by
  match es with
  | [] => simp [namedList, listNames]
  | e :: rest => simp [namedList, listNames, e.named_eq_iff, namedList_eq_iff rest]

theorem namedOption_eq_iff (e : Option Expr) :
    namedOption f e = namedOption g e ↔ Agree f g (optionNames e) := by
  match e with
  | none => simp [namedOption, optionNames]
  | some e => simp [namedOption, optionNames, e.named_eq_iff]

theorem namedBranches_eq_iff (branches : List Branch) :
    namedBranches f branches = namedBranches g branches ↔ Agree f g (branchNames branches) := by
  match branches with
  | [] => simp [namedBranches, branchNames]
  | ⟨condition, result⟩ :: rest =>
      simp [namedBranches, branchNames, condition.named_eq_iff, result.named_eq_iff,
        namedBranches_eq_iff rest, and_assoc]

theorem namedItems_eq_iff (items : List SelectItem) :
    namedItems f items = namedItems g items ↔ Agree f g (itemNames items) := by
  match items with
  | [] => simp [namedItems, itemNames]
  | ⟨e, _⟩ :: rest =>
      simp [namedItems, itemNames, e.named_eq_iff, agree_played_option, namedItems_eq_iff rest,
        and_assoc]

theorem namedOrder_eq_iff (order : List OrderItem) :
    namedOrder f order = namedOrder g order ↔ Agree f g (orderNames order) := by
  match order with
  | [] => simp [namedOrder, orderNames]
  | ⟨e, _⟩ :: rest => simp [namedOrder, orderNames, e.named_eq_iff, namedOrder_eq_iff rest]

theorem TableRef.named_eq_iff (t : TableRef) : t.named f = t.named g ↔ Agree f g t.names := by
  match t with
  | .table none _ _ => simp [TableRef.named, TableRef.names, agree_played_option]
  | .table (some _) _ _ =>
      simp [TableRef.named, TableRef.names, agree_played_option]
  | .derived query _ =>
      simp [TableRef.named, TableRef.names, query.named_eq_iff, agree_played_option]
  | .join left _ right condition _ =>
      simp only [TableRef.named, TableRef.names, TableRef.join.injEq, left.named_eq_iff,
        right.named_eq_iff, namedOption_eq_iff condition, agree_append, agree_played, true_and,
        and_assoc]

theorem namedSource_eq_iff (source : Option TableRef) :
    namedSource f source = namedSource g source ↔ Agree f g (sourceNames source) := by
  match source with
  | none => simp [namedSource, sourceNames]
  | some t => simp [namedSource, sourceNames, t.named_eq_iff]

theorem Select.named_eq_iff (query : Select) :
    query.named f = query.named g ↔ Agree f g query.names := by
  match query with
  | ⟨_, items, source, condition, groups, having, order, limit, offset⟩ =>
      simp only [Select.named, Select.names, Select.mk.injEq, namedItems_eq_iff items,
        namedSource_eq_iff source, namedOption_eq_iff condition, namedList_eq_iff groups,
        namedOption_eq_iff having, namedOrder_eq_iff order, namedOption_eq_iff limit,
        namedOption_eq_iff offset, agree_append, true_and, and_assoc]

end

theorem mapTable_eq_iff (name : Option String × String) :
    mapTable f name = mapTable g name ↔ Agree f g (writtenTable name) := by
  obtain ⟨_ | _, _⟩ := name <;> simp [mapTable, writtenTable]

theorem mapColumn_eq_iff (name : Option String × String) :
    mapColumn f name = mapColumn g name ↔ Agree f g (writtenColumn name) := by
  obtain ⟨_ | _, _⟩ := name <;> simp [mapColumn, writtenColumn]

theorem agree_flatMap {α β : Type} {map₁ map₂ : α → β} {names : α → List (NameRole × String)}
    (each : ∀ a, map₁ a = map₂ a ↔ Agree f g (names a)) (as : List α) :
    as.map map₁ = as.map map₂ ↔ Agree f g (as.flatMap names) := by
  induction as with
  | nil => simp
  | cons a rest ih => simp [each a, ih]

theorem Assignment.named_eq_iff (a : Assignment) :
    a.named f = a.named g ↔ Agree f g a.names := by
  simp only [Assignment.named, Assignment.names, Assignment.mk.injEq, ← and_assoc,
    ← Prod.ext_iff, mapColumn_eq_iff, Expr.named_eq_iff, agree_append]

theorem InsertSource.named_eq_iff (source : InsertSource) :
    source.named f = source.named g ↔ Agree f g source.names := by
  cases source with
  | values rows =>
      simp [InsertSource.named, InsertSource.names, agree_flatMap namedList_eq_iff]
  | query q => simp [InsertSource.named, InsertSource.names, q.named_eq_iff]
  | defaults => simp [InsertSource.named, InsertSource.names]

/-- Two mappings of a statement are equal exactly if they agree on each of its names. -/
theorem Statement.named_eq_iff (statement : Statement) :
    statement.named f = statement.named g ↔ Agree f g statement.names := by
  cases statement with
  | select query => simp [Statement.named, Statement.names, query.named_eq_iff]
  | insert s =>
      simp only [Statement.named, Statement.names, Statement.insert.injEq, Insert.mk.injEq,
        ← and_assoc, ← Prod.ext_iff, mapTable_eq_iff, InsertSource.named_eq_iff, agree_append,
        agree_played, agree_flatMap Assignment.named_eq_iff]
  | update s =>
      simp only [Statement.named, Statement.names, Statement.update.injEq, Update.mk.injEq,
        ← and_assoc, ← Prod.ext_iff, mapTable_eq_iff, namedOption_eq_iff, agree_append,
        agree_played_option, agree_flatMap Assignment.named_eq_iff]
  | delete s =>
      simp only [Statement.named, Statement.names, Statement.delete.injEq, Delete.mk.injEq,
        ← and_assoc, ← Prod.ext_iff, mapTable_eq_iff, namedOption_eq_iff, agree_append,
        agree_played_option]

end Agreement

end ShardedSql.Sql
