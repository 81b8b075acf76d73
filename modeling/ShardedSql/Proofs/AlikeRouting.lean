import ShardedSql.Proofs.BoundParameters
import ShardedSql.Proofs.Comparands
import ShardedSql.Proofs.Places

/-!
Syntax that routes alike. Two runs of one router look values up in different bindings, the second
with a place for each element of a list that has one place in the first. Main statements: syntax
between which routing sees no difference may stand in the same places of larger syntax, and an item
that is a list may be replaced by an item for each of its elements.
-/

namespace ShardedSql

open Sql Router Text

/-- Whether the cells of the sharding column stay where they are in the rows that are inserted: no
list stands in them or before them. -/
def Router.keepsCells (router : Router) (further : Nat → Nat) : Statement → Bool
  | .insert s =>
      match s.source, s.columns.findIdx? (sameWord · router.strategy.column) with
      | .values rows, some index =>
          !sameWord s.table router.table ||
            rows.all fun row => (row.take (index + 1)).all (·.isSingle further)
      | _, _ => true
  | _ => true

/-- Two runs of a router over statements with so many question marks. What the placeholder of a list
asks for in the first run, its places ask for in the second. -/
structure Runs extends Layout where
  router : Router
  whole : Bindings
  spread : Bindings
  listed : ∀ k < marks, comparedAll router spread (places further k) =
    compared router whole (.placeholder (.positional k))
  named : spread.named? = whole.named?

namespace Runs

/-- What routing sees of a nested query. -/
def seen (router : Router) (bindings : Bindings) (query : Select) :
    NameSet × Except ShardError Routed :=
  (query.tableNames, visitQuery router bindings query)

/-- Lists of tables that name the same tables and bind the same ones. -/
structure SameTables (t t' : TableRef) : Prop where
  tables : t'.tables = t.tables
  bound : t'.boundTables = t.boundTables

variable (r : Runs)

/-- Expressions between which routing sees no difference, wherever they stand. -/
structure SameExpr (e e' : Expr) : Prop where
  tables : e'.tables = e.tables
  queries : e'.subqueries.map (seen r.router r.spread) = e.subqueries.map (seen r.router r.whole)
  literal : ∀ value, e' = .literal value ↔ e = .literal value
  query : isQuery [e'] = isQuery [e]
  column : ∀ bound, r.router.isShardColumn bound e' = r.router.isShardColumn bound e
  visit : ∀ bound, visit r.router r.spread bound e' = visit r.router r.whole bound e
  compared : compared r.router r.spread e' = compared r.router r.whole e

/-- Lists of items between which routing sees no difference. The items themselves stay where they
are as long as no list comes before them. -/
structure SameItems (es es' : List Expr) : Prop where
  tables : listTables es' = listTables es
  queries : (listSubqueries es').map (seen r.router r.spread) =
    (listSubqueries es).map (seen r.router r.whole)
  query : isQuery es' = isQuery es
  empty : es'.isEmpty = es.isEmpty
  compared : comparedAll r.router r.spread es' = comparedAll r.router r.whole es
  cell : ∀ index, (∀ e ∈ es.take (index + 1), e.isSingle r.further = true) →
    es'[index]?.map (Router.compared r.router r.spread) =
      es[index]?.map (Router.compared r.router r.whole)

structure SameBranches (branches branches' : List Branch) : Prop where
  tables : branchTables branches' = branchTables branches
  queries : (branchSubqueries branches').map (seen r.router r.spread) =
    (branchSubqueries branches).map (seen r.router r.whole)
  empty : branches'.isEmpty = branches.isEmpty

structure SameSelect (query query' : Select) : Prop where
  tables : query'.tables = query.tables
  visited : visitQuery r.router r.spread query' = visitQuery r.router r.whole query
  routed : visitStatement r.router r.spread (.select query') =
    visitStatement r.router r.whole (.select query)

abbrev SameOption : Option Expr → Option Expr → Prop :=
  Option.Rel r.SameExpr

variable {r}

/-! ## Expressions -/

theorem SameSelect.seen {query query' : Select} (same : r.SameSelect query query') :
    seen r.router r.spread query' = seen r.router r.whole query := by
  rw [Runs.seen, Runs.seen, Select.tableNames, same.tables, same.visited, Select.tableNames]

/-- An expression that routing does not look into, but for the queries nested in it. -/
def isHidden : Expr → Bool
  | .binary _ op _ => !(op == .and || op == .or || op == .eq)
  | .inList _ _ negated => negated
  | .unary _ _ | .call _ _ _ | .existence _ _ | .isNull _ _ | .between _ _ _ _ | .choice _ _ _
  | .cast _ _ | .column _ _ _ | .wildcard _ => true
  | .literal _ | .placeholder _ | .paren _ | .subquery _ => false

theorem isQuery_hidden {e : Expr} (hidden : isHidden e = true) : isQuery [e] = false := by
  cases e <;> first | rfl | cases hidden

theorem visit_hidden {router : Router} {bindings : Bindings} {e : Expr} (hidden : isHidden e = true)
    (bound : List BoundTable) :
    visit router bindings bound e = .ok .nothing ∧
      compared router bindings e = .ok .everything := by
  cases e with
  | binary left op right => cases op <;> first | exact ⟨rfl, rfl⟩ | cases hidden
  | inList operand items negated =>
      cases hidden
      exact ⟨rfl, rfl⟩
  | _ => first | exact ⟨rfl, rfl⟩ | cases hidden

theorem SameOption.tables {e e' : Option Expr} (same : r.SameOption e e') :
    optionTables e' = optionTables e := by
  cases same with
  | none => rfl
  | some same => exact same.tables

theorem SameOption.queries {e e' : Option Expr} (same : r.SameOption e e') :
    ((e'.map Expr.subqueries).getD []).map (Runs.seen r.router r.spread) =
      ((e.map Expr.subqueries).getD []).map (Runs.seen r.router r.whole) := by
  cases same with
  | none => rfl
  | some same => exact same.queries

theorem comparedAll_singleton {router : Router} {bindings : Bindings} (e : Expr) :
    comparedAll router bindings [e] = compared router bindings e := by
  cases here : compared router bindings e <;>
    simp [comparedAll, here, bind, Except.bind, pure, Except.pure]

namespace SameExpr

variable {e e' left left' right right' operand operand' low low' high high' : Expr}
  {query query' : Select} {items items' : List Expr}

theorem of_hidden (hidden : isHidden e = true) (hidden' : isHidden e' = true)
    (tables : e'.tables = e.tables)
    (queries : e'.subqueries.map (Runs.seen r.router r.spread) =
      e.subqueries.map (Runs.seen r.router r.whole))
    (column : ∀ bound, r.router.isShardColumn bound e' = r.router.isShardColumn bound e) :
    r.SameExpr e e' where
  tables := tables
  queries := queries
  literal value := by
    constructor
    · rintro rfl
      cases hidden'
    · rintro rfl
      cases hidden
  query := by rw [isQuery_hidden hidden, isQuery_hidden hidden']
  column := column
  visit bound := by rw [(visit_hidden hidden bound).1, (visit_hidden hidden' bound).1]
  compared := by rw [(visit_hidden hidden []).2, (visit_hidden hidden' []).2]

theorem literal_self (value : Literal) : r.SameExpr (.literal value) (.literal value) :=
  ⟨rfl, rfl, fun _ => .rfl, rfl, fun _ => rfl, fun _ => rfl, rfl⟩

theorem column_self (table : Option String) (name : String) (span span' : Span) :
    r.SameExpr (.column table name span) (.column table name span') :=
  .of_hidden rfl rfl rfl rfl fun _ => rfl

theorem wildcard_self (table : Option String) :
    r.SameExpr (.wildcard table) (.wildcard table) :=
  .of_hidden rfl rfl rfl rfl fun _ => rfl

theorem named_self (name : String) :
    r.SameExpr (.placeholder (.named name)) (.placeholder (.named name)) := by
  refine ⟨rfl, rfl, fun _ => .rfl, rfl, fun _ => rfl, fun _ => rfl, ?_⟩
  simp only [Router.compared, Bindings.placeholder?, r.named]

/-- A placeholder with one place. -/
theorem single {k : Nat} (within : k < r.marks) (alone : r.further k = 0) :
    r.SameExpr (.placeholder (.positional k)) (.placeholder (.positional (place r.further k))) := by
  have listed := r.listed k within
  rw [places_of_single alone] at listed
  refine ⟨rfl, rfl, fun _ => ⟨nofun, nofun⟩, rfl, fun _ => rfl, fun _ => rfl, ?_⟩
  rw [← listed, comparedAll_singleton]

theorem binary (op : BinaryOp) (lefts : r.SameExpr left left') (rights : r.SameExpr right right') :
    r.SameExpr (.binary left op right) (.binary left' op right') := by
  have tables : (Expr.binary left' op right').tables = (Expr.binary left op right).tables := by
    rw [Expr.tables, Expr.tables, lefts.tables, rights.tables]
  have queries : (Expr.binary left' op right').subqueries.map (Runs.seen r.router r.spread) =
      (Expr.binary left op right).subqueries.map (Runs.seen r.router r.whole) := by
    rw [Expr.subqueries, Expr.subqueries, List.map_append, List.map_append, lefts.queries,
      rights.queries]
  by_cases hidden : isHidden (.binary left op right) = true
  · exact .of_hidden hidden hidden tables queries fun _ => rfl
  · refine ⟨tables, queries, fun _ => ⟨nofun, nofun⟩, rfl, fun _ => rfl, fun bound => ?_, rfl⟩
    cases op <;> try exact absurd rfl hidden
    case eq =>
      rw [Router.visit, Router.visit, lefts.column, rights.column, lefts.compared, rights.compared]
    all_goals rw [Router.visit, Router.visit, lefts.visit, rights.visit]

theorem call (function : String) (distinct : Bool) (args : r.SameItems items items') :
    r.SameExpr (.call function items distinct) (.call function items' distinct) :=
  .of_hidden rfl rfl args.tables args.queries fun _ => rfl

theorem subquery (queries : r.SameSelect query query') :
    r.SameExpr (.subquery query) (.subquery query') where
  tables := queries.tables
  queries := by simp only [Expr.subqueries, List.map_cons, List.map_nil, queries.seen]
  literal _ := ⟨nofun, nofun⟩
  query := rfl
  column _ := rfl
  visit _ := rfl
  compared := queries.visited

theorem existence (negated : Bool) (queries : r.SameSelect query query') :
    r.SameExpr (.existence query negated) (.existence query' negated) :=
  .of_hidden rfl rfl queries.tables (subquery queries).queries fun _ => rfl

theorem isNull (negated : Bool) (operands : r.SameExpr operand operand') :
    r.SameExpr (.isNull operand negated) (.isNull operand' negated) :=
  .of_hidden rfl rfl operands.tables operands.queries fun _ => rfl

theorem cast (typeName : String) (operands : r.SameExpr operand operand') :
    r.SameExpr (.cast operand typeName) (.cast operand' typeName) :=
  .of_hidden rfl rfl operands.tables operands.queries fun _ => rfl

theorem unary (op : UnaryOp) (operands : r.SameExpr operand operand') :
    r.SameExpr (.unary op operand) (.unary op operand') :=
  .of_hidden rfl rfl operands.tables operands.queries fun _ => rfl

theorem paren (operands : r.SameExpr operand operand') :
    r.SameExpr (.paren operand) (.paren operand') where
  tables := operands.tables
  queries := operands.queries
  literal _ := ⟨nofun, nofun⟩
  query := rfl
  column := operands.column
  visit := operands.visit
  compared := operands.compared

theorem inList (negated : Bool) (operands : r.SameExpr operand operand')
    (members : r.SameItems items items') :
    r.SameExpr (.inList operand items negated) (.inList operand' items' negated) := by
  have tables : (Expr.inList operand' items' negated).tables =
      (Expr.inList operand items negated).tables := by
    rw [Expr.tables, Expr.tables, operands.tables, members.tables]
  have queries : (Expr.inList operand' items' negated).subqueries.map
        (Runs.seen r.router r.spread) =
      (Expr.inList operand items negated).subqueries.map (Runs.seen r.router r.whole) := by
    rw [Expr.subqueries, Expr.subqueries, List.map_append, List.map_append, operands.queries,
      members.queries]
  cases negated with
  | true => exact .of_hidden rfl rfl tables queries fun _ => rfl
  | false =>
      refine ⟨tables, queries, fun _ => ⟨nofun, nofun⟩, rfl, fun _ => rfl, fun bound => ?_, rfl⟩
      rw [visit_inList, visit_inList, operands.column, members.query, members.compared]

theorem between (negated : Bool) (operands : r.SameExpr operand operand')
    (lows : r.SameExpr low low') (highs : r.SameExpr high high') :
    r.SameExpr (.between operand low high negated) (.between operand' low' high' negated) := by
  refine .of_hidden rfl rfl ?_ ?_ fun _ => rfl
  · rw [Expr.tables, Expr.tables, operands.tables, lows.tables, highs.tables]
  · simp only [Expr.subqueries, List.map_append, operands.queries, lows.queries, highs.queries]

theorem choice {subject subject' otherwise otherwise' : Option Expr}
    {branches branches' : List Branch} (subjects : r.SameOption subject subject')
    (whens : r.SameBranches branches branches') (otherwises : r.SameOption otherwise otherwise') :
    r.SameExpr (.choice subject branches otherwise) (.choice subject' branches' otherwise') := by
  refine .of_hidden rfl rfl ?_ ?_ fun _ => rfl
  · have first := SameOption.tables subjects
    have last := SameOption.tables otherwises
    cases subjects <;> cases otherwises <;> simp_all [Expr.tables, optionTables, whens.tables]
  · have first := SameOption.queries subjects
    have last := SameOption.queries otherwises
    cases subjects <;> cases otherwises <;> simp_all [Expr.subqueries, whens.queries]

theorem apply_cases (op : UnaryOp) (other : ∀ value, e ≠ .literal value) :
    (Sign.op op).apply e = .unary op e ∨
      ∃ query negated, e = .existence query negated ∧
        (Sign.op op).apply e = .existence query !negated := by
  cases e with
  | literal value => exact absurd rfl (other value)
  | existence query negated =>
      cases op with
      | not => exact .inr ⟨query, negated, rfl, rfl⟩
      | _ => exact .inl rfl
  | _ => cases op <;> exact .inl rfl

/-- A sign before expressions that route alike: at most it turns a number around. -/
theorem signed (sign : Sign) (operands : r.SameExpr operand operand') :
    r.SameExpr (sign.apply operand) (sign.apply operand') := by
  cases sign with
  | none => exact operands
  | op op =>
      by_cases number : ∃ value, operand = .literal value
      · obtain ⟨value, rfl⟩ := number
        obtain rfl := (operands.literal value).mpr rfl
        cases op <;> cases value <;>
          first | exact literal_self _ | exact unary _ (literal_self _)
      · have other (value : Literal) : operand ≠ .literal value := fun same => number ⟨value, same⟩
        have other' (value : Literal) : operand' ≠ .literal value :=
          fun same => other value ((operands.literal value).mp same)
        rcases apply_cases op other with same | ⟨query, negated, rfl, same⟩ <;>
          rcases apply_cases op other' with same' | ⟨query', negated', rfl, same'⟩ <;>
            · rw [same, same']
              exact .of_hidden rfl rfl operands.tables operands.queries fun _ => rfl

end SameExpr

/-! ## Lists of items -/

namespace SameItems

variable {e e' : Expr} {es es' : List Expr}

theorem nil : r.SameItems [] [] :=
  ⟨rfl, rfl, rfl, rfl, rfl, fun _ _ => rfl⟩

theorem isQuery_cons_cons (e second : Expr) (rest : List Expr) :
    isQuery (e :: second :: rest) = false := by
  cases e <;> rfl

theorem cons (firsts : r.SameExpr e e') (others : r.SameItems es es') :
    r.SameItems (e :: es) (e' :: es') where
  tables := by rw [listTables, listTables, firsts.tables, others.tables]
  queries := by
    rw [listSubqueries, listSubqueries, List.map_append, List.map_append, firsts.queries,
      others.queries]
  query := by
    have empty := others.empty
    cases es with
    | nil =>
        rw [List.isEmpty_iff.mp empty]
        exact firsts.query
    | cons second rest =>
        obtain ⟨second', rest', rfl⟩ :=
          List.exists_cons_of_ne_nil (List.isEmpty_eq_false_iff.mp empty)
        rw [isQuery_cons_cons, isQuery_cons_cons]
  empty := rfl
  compared := by rw [comparedAll, comparedAll, firsts.compared, others.compared]
  cell index single := by
    cases index with
    | zero => exact congrArg some firsts.compared
    | succ index => exact others.cell index fun e member => single e (List.mem_cons_of_mem _ member)

theorem isQuery_placeholder (place : Placeholder) (rest : List Expr) :
    isQuery (.placeholder place :: rest) = false := by
  cases rest <;> rfl

/-- Placeholders name no tables and hold no queries. -/
theorem placeholders_append (ordinals : List Nat) (es : List Expr) :
    listTables (ordinals.map (fun ordinal => .placeholder (.positional ordinal)) ++ es) =
        listTables es ∧
      listSubqueries (ordinals.map (fun ordinal => .placeholder (.positional ordinal)) ++ es) =
        listSubqueries es := by
  induction ordinals with
  | nil => exact ⟨rfl, rfl⟩
  | cons ordinal rest ih =>
      rw [List.map_cons, List.cons_append, listTables, listSubqueries, ih.1, ih.2]
      exact ⟨rfl, rfl⟩

theorem comparedAll_eq_absorbAll {router : Router} {bindings : Bindings} (es : List Expr) :
    comparedAll router bindings es = absorbAll (Router.compared router bindings) es := by
  induction es with
  | nil => rfl
  | cons e rest ih => rw [comparedAll, absorbAll, ih]

/-- In a list of items, a list may stand as its elements. -/
theorem spread {k : Nat} (within : k < r.marks) (others : r.SameItems es es') :
    r.SameItems (.placeholder (.positional k) :: es) (places r.further k ++ es') where
  tables := (placeholders_append _ es').1.trans others.tables
  queries := by
    rw [places, (placeholders_append _ es').2]
    exact others.queries
  query := by
    rw [places_eq_cons, List.cons_append, isQuery_placeholder, isQuery_placeholder]
  empty := by
    rw [places_eq_cons]
    rfl
  compared := by
    have listed := r.listed k within
    rw [comparedAll_eq_absorbAll] at listed
    rw [comparedAll_eq_absorbAll, absorbAll_append, listed, ← comparedAll_eq_absorbAll,
      others.compared, comparedAll]
  cell index single := by
    have alone : r.further k = 0 := beq_iff_eq.mp (single _ (List.mem_cons_self ..))
    rw [places_of_single alone]
    cases index with
    | zero => exact congrArg some (SameExpr.single within alone).compared
    | succ index => exact others.cell index fun e member => single e (List.mem_cons_of_mem _ member)

end SameItems

/-! ## Branches, tables and queries -/

theorem SameBranches.nil : r.SameBranches [] [] :=
  ⟨rfl, rfl, rfl⟩

theorem SameBranches.cons {condition condition' result result' : Expr}
    {branches branches' : List Branch} (conditions : r.SameExpr condition condition')
    (results : r.SameExpr result result') (others : r.SameBranches branches branches') :
    r.SameBranches (⟨condition, result⟩ :: branches) (⟨condition', result'⟩ :: branches') where
  tables := by
    rw [branchTables, branchTables, conditions.tables, results.tables, others.tables]
  queries := by
    simp only [branchSubqueries, List.map_append, conditions.queries, results.queries,
      others.queries]
  empty := rfl

namespace SameTables

theorem table (schema : Option String) (name : String) (label : Option String) :
    SameTables (.table schema name label) (.table schema name label) :=
  ⟨rfl, rfl⟩

theorem derived {query query' : Select} (label : Option String)
    (queries : r.SameSelect query query') :
    SameTables (.derived query label) (.derived query' label) :=
  ⟨queries.tables, rfl⟩

theorem join {left left' right right' : TableRef} {condition condition' : Option Expr}
    (kind : JoinKind) (shared : List String) (lefts : SameTables left left')
    (rights : SameTables right right') (conditions : r.SameOption condition condition') :
    SameTables (.join left kind right condition shared)
      (.join left' kind right' condition' shared) where
  tables := by
    have joined := SameOption.tables conditions
    cases conditions <;> simp_all [TableRef.tables, optionTables, lefts.tables, rights.tables]
  bound := by
    rw [TableRef.boundTables, TableRef.boundTables, lefts.bound, rights.bound]

end SameTables

theorem boundTables_of_sources {source source' : Option TableRef}
    (sources : Option.Rel SameTables source source') :
    (source'.map TableRef.boundTables).getD [] = (source.map TableRef.boundTables).getD [] := by
  cases sources with
  | none => rfl
  | some same => exact same.bound

theorem itemTables_eq_listTables (items : List SelectItem) :
    itemTables items = listTables (items.map (·.expr)) := by
  induction items with
  | nil => rfl
  | cons item rest ih =>
      obtain ⟨e, label⟩ := item
      rw [itemTables, ih, List.map_cons, listTables]

theorem orderTables_eq_listTables (order : List OrderItem) :
    orderTables order = listTables (order.map (·.expr)) := by
  induction order with
  | nil => rfl
  | cons item rest ih =>
      obtain ⟨e, direction⟩ := item
      rw [orderTables, ih, List.map_cons, listTables]

/-- Queries whose clauses route alike, with any limits and offsets. -/
theorem SameSelect.of_clauses {query query' : Select}
    (selected : r.SameItems (query.items.map (·.expr)) (query'.items.map (·.expr)))
    (sources : Option.Rel SameTables query.source query'.source)
    (conditions : r.SameOption query.condition query'.condition)
    (grouped : r.SameItems query.groups query'.groups)
    (havings : r.SameOption query.having query'.having)
    (ordered : r.SameItems (query.order.map (·.expr)) (query'.order.map (·.expr))) :
    r.SameSelect query query' := by
  have bound : query'.boundTables = query.boundTables := boundTables_of_sources sources
  have tables : query'.tables = query.tables := by
    obtain ⟨_, _, source, condition, _, having, _, _, _⟩ := query
    obtain ⟨_, _, source', condition', _, having', _, _, _⟩ := query'
    have items := selected.tables
    have groups := grouped.tables
    have order := ordered.tables
    rw [← itemTables_eq_listTables, ← itemTables_eq_listTables] at items
    rw [← orderTables_eq_listTables, ← orderTables_eq_listTables] at order
    dsimp only at items sources conditions groups havings order
    have where_tables := SameOption.tables conditions
    have having_tables := SameOption.tables havings
    cases sources with
    | none =>
        cases conditions <;> cases havings <;>
          simp_all [Select.tables, optionTables]
    | some same =>
        have from_tables := same.tables
        cases conditions <;> cases havings <;>
          simp_all [Select.tables, optionTables]
  have names : query'.tableNames = query.tableNames := congrArg NameSet.ofList tables
  obtain ⟨_, _, _, condition, _, _, _, _, _⟩ := query
  obtain ⟨_, _, _, condition', _, _, _, _, _⟩ := query'
  dsimp only at conditions
  cases conditions with
  | none =>
      refine ⟨tables, ?_, rfl⟩
      rw [visitQuery, visitQuery, names, bound]
  | some same =>
      refine ⟨tables, ?_, (same.visit _).trans (congrArg (visit r.router r.whole · _) bound)⟩
      rw [visitQuery, visitQuery, names, bound, same.visit]

/-! ## Statements -/

variable (r) in
/-- What an insert takes its rows from: rows of items, or a query. -/
inductive SameSource : InsertSource → InsertSource → Prop where
  | values {rows rows' : List (List Expr)} (same : List.Forall₂ r.SameItems rows rows') :
      SameSource (.values rows) (.values rows')
  | query {q q' : Select} (same : r.SameSelect q q') : SameSource (.query q) (.query q')
  | defaults : SameSource .defaults .defaults

variable (r) in
abbrev SameAssignments : List Assignment → List Assignment → Prop :=
  List.Forall₂ fun a a' => r.SameExpr a.value a'.value

variable (r) in
/-- Statements for which the runs ask for the same shards, if the cells of the sharding column stay
where they are. -/
structure SameStatement (s s' : Statement) : Prop where
  kind : isInsert s' = isInsert s
  visited : r.router.keepsCells r.further s = true →
    visitStatement r.router r.spread s' = visitStatement r.router r.whole s

theorem SameStatement.select {query query' : Select} (same : r.SameSelect query query') :
    r.SameStatement (.select query) (.select query') :=
  ⟨rfl, fun _ => same.routed⟩

theorem SameStatement.of_condition {s s' : Statement} (kind : isInsert s = false)
    (kind' : isInsert s' = false) (bound : s'.boundTables = s.boundTables)
    (conditions : r.SameOption s.condition s'.condition) : r.SameStatement s s' := by
  refine ⟨kind'.trans kind.symm, fun _ => ?_⟩
  rw [visitStatement_of_not_insert kind, visitStatement_of_not_insert kind', bound]
  generalize s.condition = condition at conditions ⊢
  generalize s'.condition = condition' at conditions ⊢
  cases conditions with
  | none => rfl
  | some same => exact same.visit _

section Inserts

variable {s s' : Insert}

theorem listSubqueries_eq_flatMap (es : List Expr) :
    listSubqueries es = es.flatMap Expr.subqueries := by
  induction es with
  | nil => rfl
  | cons e rest ih => rw [listSubqueries, ih, List.flatMap_cons]

theorem subqueries_of_rows {rows rows' : List (List Expr)}
    (same : List.Forall₂ r.SameItems rows rows') :
    (rows'.flatten.flatMap Expr.subqueries).map (seen r.router r.spread) =
      (rows.flatten.flatMap Expr.subqueries).map (seen r.router r.whole) := by
  induction same with
  | nil => rfl
  | cons first _ ih =>
      have row := first.queries
      rw [listSubqueries_eq_flatMap, listSubqueries_eq_flatMap] at row
      simp only [List.flatten_cons, List.flatMap_append, List.map_append, row, ih]

theorem subqueries_of_assignments {assignments assignments' : List Assignment}
    (same : r.SameAssignments assignments assignments') :
    (assignments'.flatMap (·.value.subqueries)).map (seen r.router r.spread) =
      (assignments.flatMap (·.value.subqueries)).map (seen r.router r.whole) := by
  induction same with
  | nil => rfl
  | cons first _ ih => simp only [List.flatMap_cons, List.map_append, first.queries, ih]

theorem insertQueries_of_sources (sources : r.SameSource s.source s'.source)
    (assigned : r.SameAssignments s.onDuplicate s'.onDuplicate) :
    (insertQueries s').map (seen r.router r.spread) =
      (insertQueries s).map (seen r.router r.whole) := by
  unfold insertQueries
  rw [List.map_append, List.map_append, subqueries_of_assignments assigned]
  congr 1
  generalize s.source = source at sources ⊢
  generalize s'.source = source' at sources ⊢
  cases sources with
  | values same => exact subqueries_of_rows same
  | query same => simp only [List.map_cons, List.map_nil, same.seen]
  | defaults => rfl

/-- An insert into another table asks what its queries ask for. -/
theorem visitInsertQuery_of_seen {queries queries' : List Select}
    (same : queries'.map (seen r.router r.spread) = queries.map (seen r.router r.whole)) :
    absorbAll (visitInsertQuery r.router r.spread)
        (queries'.filter fun query => r.router.table ∈ query.tableNames) =
      absorbAll (visitInsertQuery r.router r.whole)
        (queries.filter fun query => r.router.table ∈ query.tableNames) := by
  have settled (bindings : Bindings) (queries : List Select) :
      absorbAll (visitInsertQuery r.router bindings)
          (queries.filter fun query => r.router.table ∈ query.tableNames) =
        absorbAll
          (fun read => do
            let routed ← read.2
            return if routed.isSilent then .everything else routed)
          ((queries.map (seen r.router bindings)).filter fun read => r.router.table ∈ read.1) := by
    rw [List.filter_map, absorbAll_map]
    rfl
  rw [settled, settled, same]

/-- The cells of the sharding column are compared alike, where no list comes before them. -/
theorem compared_cells {rows rows' : List (List Expr)} {index : Nat}
    (same : List.Forall₂ r.SameItems rows rows')
    (kept : ∀ row ∈ rows, ∀ e ∈ row.take (index + 1), e.isSingle r.further = true) :
    absorbAll (compared r.router r.spread) (rows'.filterMap (·[index]?)) =
      absorbAll (compared r.router r.whole) (rows.filterMap (·[index]?)) := by
  induction same with
  | nil => rfl
  | @cons row row' rows rows' first _ ih =>
      obtain ⟨kept_here, kept_later⟩ := List.forall_mem_cons.mp kept
      have cell := first.cell index kept_here
      have later := ih kept_later
      cases here : row[index]? with
      | none =>
          rw [here, Option.map_none, Option.map_eq_none_iff] at cell
          simp only [List.filterMap_cons, cell, here, later]
      | some e =>
          rw [here, Option.map_some, Option.map_eq_some_iff] at cell
          obtain ⟨e', here', compares⟩ := cell
          simp only [List.filterMap_cons, here', here, absorbAll, compares, later]

theorem SameStatement.insert (table : s'.table = s.table) (columns : s'.columns = s.columns)
    (sources : r.SameSource s.source s'.source)
    (assigned : r.SameAssignments s.onDuplicate s'.onDuplicate) :
    r.SameStatement (.insert s) (.insert s') := by
  refine ⟨rfl, fun kept => ?_⟩
  have queries := visitInsertQuery_of_seen (insertQueries_of_sources sources assigned)
  rw [visitStatement, visitStatement, visitInsert, visitInsert, table, columns, queries]
  rw [keepsCells] at kept
  generalize s.source = source at sources kept ⊢
  generalize s'.source = source' at sources ⊢
  cases own : sameWord s.table r.router.table with
  | false => rfl
  | true =>
      cases sources with
      | query same => rfl
      | defaults => rfl
      | values same =>
          cases found : s.columns.findIdx? (sameWord · r.router.strategy.column) with
          | none => rfl
          | some index =>
              simp only [found, own, Bool.not_true, Bool.false_or, List.all_eq_true] at kept
              simp only [↓reduceIte]
              exact compared_cells same kept

end Inserts

end Runs

end ShardedSql
