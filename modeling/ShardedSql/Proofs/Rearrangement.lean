import ShardedSql.Proofs.AlikeRouting

/-!
Predicates that are arranged in another way: operands of `AND` and `OR` change places, are grouped
anew and doubled, parentheses come and go, comparisons are turned around, and a list of `IN` is
written out as alternatives. What the walk compares the sharding column to comes in another order
then, and some of it twice. Main statement: the shards to visit stay the same, or there are none
either way, as long as a query that is all of a list of `IN` gets no parentheses and loses none.
-/

namespace ShardedSql

open Sql Text
open Runs.SameItems (isQuery_cons_cons)

namespace Sql

/-! ## Rearranged predicates -/

/-- Where an expression stands: as a condition, or where its value counts. -/
inductive Standing where
  | condition
  | value

def BinaryOp.joins : BinaryOp → Bool
  | .and | .or => true
  | _ => false

/-- Whether a comparison may pin a column, or conditions are joined. -/
def BinaryOp.isRouted (op : BinaryOp) : Bool :=
  op.joins || op == .eq

/-- `c = first OR c = second OR …`. -/
def alternatives (c first : Expr) (rest : List Expr) : Expr :=
  rest.foldl (fun others e => .binary others .or (.binary c .eq e)) (.binary c .eq first)

/-- Places inside an expression that the router does not look into. -/
inductive Frame : (Expr → Expr) → Prop where
  | left {op : BinaryOp} (hidden : op.isRouted = false) (right : Expr) :
      Frame fun e => .binary e op right
  | right {op : BinaryOp} (hidden : op.isRouted = false) (left : Expr) :
      Frame fun e => .binary left op e
  | unary (op : UnaryOp) : Frame fun e => .unary op e
  | argument (function : String) (before after : List Expr) (distinct : Bool) :
      Frame fun e => .call function (before ++ e :: after) distinct
  | isNull (negated : Bool) : Frame fun e => .isNull e negated
  | excluded (items : List Expr) : Frame fun e => .inList e items true
  | excludedItem (operand : Expr) (before after : List Expr) :
      Frame fun e => .inList operand (before ++ e :: after) true
  | between (low high : Expr) (negated : Bool) : Frame fun e => .between e low high negated
  | low (operand high : Expr) (negated : Bool) : Frame fun e => .between operand e high negated
  | high (operand low : Expr) (negated : Bool) : Frame fun e => .between operand low e negated
  | subject (branches : List Branch) (otherwise : Option Expr) :
      Frame fun e => .choice (some e) branches otherwise
  | condition (subject : Option Expr) (before : List Branch) (result : Expr) (after : List Branch)
      (otherwise : Option Expr) :
      Frame fun e => .choice subject (before ++ ⟨e, result⟩ :: after) otherwise
  | result (subject : Option Expr) (before : List Branch) (condition : Expr) (after : List Branch)
      (otherwise : Option Expr) :
      Frame fun e => .choice subject (before ++ ⟨condition, e⟩ :: after) otherwise
  | otherwise (subject : Option Expr) (branches : List Branch) :
      Frame fun e => .choice subject branches (some e)
  | cast (typeName : String) : Frame fun e => .cast e typeName

/-- Places in the clauses of a query but its tables and its condition. -/
inductive Clause : (Expr → Select) → Prop where
  | item (query : Select) (before : List SelectItem) (label : Option String)
      (after : List SelectItem) :
      Clause fun e => { query with items := before ++ ⟨e, label⟩ :: after }
  | group (query : Select) (before after : List Expr) :
      Clause fun e => { query with groups := before ++ e :: after }
  | having (query : Select) : Clause fun e => { query with having := some e }
  | order (query : Select) (before : List OrderItem) (direction : Direction)
      (after : List OrderItem) :
      Clause fun e => { query with order := before ++ ⟨e, direction⟩ :: after }
  | limit (query : Select) : Clause fun e => { query with limit := some e }
  | offset (query : Select) : Clause fun e => { query with offset := some e }

end Sql

namespace Router

mutual

/-- An expression over the bound tables is arranged in another way, at any place inside of it. -/
inductive Rearranged (router : Router) : List BoundTable → Standing → Expr → Expr → Prop where
  | refl {bound : List BoundTable} {standing : Standing} (e : Expr) :
      Rearranged router bound standing e e
  | symm {bound : List BoundTable} {standing : Standing} {e e' : Expr}
      (same : Rearranged router bound standing e e') : Rearranged router bound standing e' e
  | trans {bound : List BoundTable} {standing : Standing} {e e' e'' : Expr}
      (first : Rearranged router bound standing e e')
      (second : Rearranged router bound standing e' e'') : Rearranged router bound standing e e''
  /-- The column stands at another place of the text. -/
  | place {bound : List BoundTable} {standing : Standing} (table : Option String) (name : String)
      (span span' : Span) :
      Rearranged router bound standing (.column table name span) (.column table name span')
  | commute {bound : List BoundTable} {standing : Standing} {op : BinaryOp}
      (joins : op.joins = true) (left right : Expr) :
      Rearranged router bound standing (.binary left op right) (.binary right op left)
  | regroup {bound : List BoundTable} {standing : Standing} {op : BinaryOp}
      (joins : op.joins = true) (a b c : Expr) :
      Rearranged router bound standing (.binary (.binary a op b) op c)
        (.binary a op (.binary b op c))
  | wrap {bound : List BoundTable} {standing : Standing} (e : Expr) :
      Rearranged router bound standing e (.paren e)
  | double {bound : List BoundTable} {op : BinaryOp} (joins : op.joins = true) (e : Expr) :
      Rearranged router bound .condition e (.binary e op e)
  | swap {bound : List BoundTable} {standing : Standing} (left right : Expr) :
      Rearranged router bound standing (.binary left .eq right) (.binary right .eq left)
  | spread {bound : List BoundTable} {standing : Standing} {c first : Expr} {rest : List Expr}
      (shard : router.isShardColumn bound c = true)
      (plain : ∀ e ∈ first :: rest, e.subqueries = []) :
      Rearranged router bound standing (.inList c (first :: rest) false)
        (.paren (alternatives c first rest))
  | operand {bound : List BoundTable} {standing : Standing} {left left' : Expr} {op : BinaryOp}
      (joins : op.joins = true) (right : Expr)
      (same : Rearranged router bound .condition left left') :
      Rearranged router bound standing (.binary left op right) (.binary left' op right)
  | side {bound : List BoundTable} {standing : Standing} {left left' : Expr} (right : Expr)
      (same : Rearranged router bound .value left left') :
      Rearranged router bound standing (.binary left .eq right) (.binary left' .eq right)
  | paren {bound : List BoundTable} {standing : Standing} {e e' : Expr}
      (same : Rearranged router bound standing e e') :
      Rearranged router bound standing (.paren e) (.paren e')
  | tested {bound : List BoundTable} {standing : Standing} {e e' : Expr} (items : List Expr)
      (same : Rearranged router bound .value e e') :
      Rearranged router bound standing (.inList e items false) (.inList e' items false)
  /-- What is the whole list stays a query, or stays none. -/
  | item {bound : List BoundTable} {standing : Standing} {e e' : Expr} (operand : Expr)
      (before after : List Expr) (same : Rearranged router bound .value e e')
      (whole : router.isShardColumn bound operand = true → before = [] → after = [] →
        isQuery [e'] = isQuery [e]) :
      Rearranged router bound standing (.inList operand (before ++ e :: after) false)
        (.inList operand (before ++ e' :: after) false)
  | subquery {bound : List BoundTable} {standing : Standing} {query query' : Select}
      (same : RearrangedQuery router query query') :
      Rearranged router bound standing (.subquery query) (.subquery query')
  | existence {bound : List BoundTable} {standing : Standing} {query query' : Select}
      (negated : Bool) (same : RearrangedQuery router query query') :
      Rearranged router bound standing (.existence query negated) (.existence query' negated)
  | frame {bound other : List BoundTable} {standing : Standing} {C : Expr → Expr} {e e' : Expr}
      (frame : Frame C) (same : Rearranged router other .condition e e') :
      Rearranged router bound standing (C e) (C e')

inductive RearrangedQuery (router : Router) : Select → Select → Prop where
  | condition {e e' : Expr} (query : Select)
      (same : Rearranged router query.boundTables .condition e e') :
      RearrangedQuery router { query with condition := some e } { query with condition := some e' }
  | clause {bound : List BoundTable} {C : Expr → Select} {e e' : Expr} (clause : Clause C)
      (same : Rearranged router bound .condition e e') : RearrangedQuery router (C e) (C e')
  | source {t t' : TableRef} (query : Select) (same : RearrangedSource router t t') :
      RearrangedQuery router { query with source := some t } { query with source := some t' }

inductive RearrangedSource (router : Router) : TableRef → TableRef → Prop where
  | derived {query query' : Select} (label : Option String)
      (same : RearrangedQuery router query query') :
      RearrangedSource router (.derived query label) (.derived query' label)
  | left {left left' : TableRef} (kind : JoinKind) (right : TableRef) (condition : Option Expr)
      (shared : List String) (same : RearrangedSource router left left') :
      RearrangedSource router (.join left kind right condition shared)
        (.join left' kind right condition shared)
  | right {right right' : TableRef} (left : TableRef) (kind : JoinKind) (condition : Option Expr)
      (shared : List String) (same : RearrangedSource router right right') :
      RearrangedSource router (.join left kind right condition shared)
        (.join left kind right' condition shared)
  | on {bound : List BoundTable} {e e' : Expr} (left : TableRef) (kind : JoinKind)
      (right : TableRef) (shared : List String) (same : Rearranged router bound .condition e e') :
      RearrangedSource router (.join left kind right (some e) shared)
        (.join left kind right (some e') shared)

end

/-! ## What the column is compared to -/

/-- Comparands that the walk answers for alike, in whatever order and however often. -/
def SameAnswers (router : Router) (items items' : List Comparand) : Prop :=
  ∀ answer, answer ∈ items.map router.answer ↔ answer ∈ items'.map router.answer

section Answers

variable {router : Router} {items items' others others' : List Comparand}

theorem SameAnswers.refl (items : List Comparand) : router.SameAnswers items items :=
  fun _ => .rfl

theorem SameAnswers.symm (same : router.SameAnswers items items') :
    router.SameAnswers items' items :=
  fun answer => (same answer).symm

theorem SameAnswers.trans (first : router.SameAnswers items items')
    (second : router.SameAnswers items' others) : router.SameAnswers items others :=
  fun answer => (first answer).trans (second answer)

theorem SameAnswers.append (first : router.SameAnswers items items')
    (second : router.SameAnswers others others') :
    router.SameAnswers (items ++ others) (items' ++ others') := by
  intro answer
  simp only [List.map_append, List.mem_append, first answer, second answer]

theorem SameAnswers.append_comm (items others : List Comparand) :
    router.SameAnswers (items ++ others) (others ++ items) := by
  intro answer
  simp only [List.map_append, List.mem_append, or_comm]

theorem SameAnswers.append_self (items : List Comparand) :
    router.SameAnswers items (items ++ items) := by
  intro answer
  simp only [List.map_append, List.mem_append, or_self]

theorem SameAnswers.unknown (e e' : Expr) : router.SameAnswers [.unknown e] [.unknown e'] :=
  fun _ => .rfl

/-- The walk over a list succeeds if every answer does. -/
theorem exists_absorbAll_iff {α : Type} {route : α → Except ShardError Routed} {all : List α} :
    (∃ routed, absorbAll route all = .ok routed) ↔ ∀ item ∈ all, ∃ here, route item = .ok here := by
  induction all with
  | nil => exact ⟨fun _ => nofun, fun _ => ⟨_, rfl⟩⟩
  | cons item rest ih =>
      rw [List.forall_mem_cons, ← ih]
      constructor
      · rintro ⟨routed, walked⟩
        obtain ⟨here, found, walked⟩ := bind_eq_ok.mp walked
        obtain ⟨others, later, _⟩ := bind_eq_ok.mp walked
        exact ⟨⟨here, found⟩, others, later⟩
      · rintro ⟨⟨here, found⟩, others, later⟩
        exact ⟨_, bind_eq_ok.mpr ⟨here, found, bind_eq_ok.mpr ⟨others, later, rfl⟩⟩⟩

theorem SameAnswers.exists_iff (same : router.SameAnswers items items') (p : Routed → Prop) :
    (∃ item ∈ items, ∃ here, router.answer item = .ok here ∧ p here) ↔
      ∃ item ∈ items', ∃ here, router.answer item = .ok here ∧ p here := by
  have among (items : List Comparand) :
      (∃ item ∈ items, ∃ here, router.answer item = .ok here ∧ p here) ↔
        ∃ here, .ok here ∈ items.map router.answer ∧ p here := by
    simp only [List.mem_map]
    constructor
    · rintro ⟨item, member, here, found, holds⟩
      exact ⟨here, ⟨item, member, found⟩, holds⟩
    · rintro ⟨here, ⟨item, member, found⟩, holds⟩
      exact ⟨item, member, here, found, holds⟩
  rw [among, among]
  simp only [same _]

/-- The walk answers for comparands in whatever order they come, and however often. -/
theorem SameAnswers.absorbAll_eq_ok (same : router.SameAnswers items items') {routed : Routed}
    (walked : absorbAll router.answer items = .ok routed) :
    absorbAll router.answer items' = .ok routed := by
  have each : ∀ item ∈ items', ∃ here, router.answer item = .ok here := by
    intro item member
    obtain ⟨other, inside, answered⟩ :=
      List.mem_map.mp ((same _).mpr (List.mem_map_of_mem member))
    obtain ⟨here, found⟩ := exists_absorbAll_iff.mp ⟨routed, walked⟩ other inside
    exact ⟨here, answered ▸ found⟩
  obtain ⟨routed', walked'⟩ := exists_absorbAll_iff.mpr each
  obtain ⟨suffixes, failOpen⟩ := mem_absorbAll walked
  obtain ⟨suffixes', failOpen'⟩ := mem_absorbAll walked'
  have same_suffixes : routed'.suffixes = routed.suffixes :=
    NameSet.ext fun suffix =>
      ((suffixes' suffix).trans (same.exists_iff _).symm).trans (suffixes suffix).symm
  have same_failOpen : routed'.failOpen = routed.failOpen :=
    Bool.eq_iff_iff.mpr ((failOpen'.trans (same.exists_iff _).symm).trans failOpen.symm)
  obtain ⟨pinned, opened⟩ := routed
  obtain ⟨pinned', opened'⟩ := routed'
  rw [walked', show pinned' = pinned from same_suffixes, show opened' = opened from same_failOpen]

end Answers

/-! ## Alike expressions -/

/-- Expressions that the router sees no difference between where they stand. -/
structure Alike (router : Router) (bindings : Bindings) (bound : List BoundTable)
    (standing : Standing) (e e' : Expr) : Prop where
  tables : ∀ name, name ∈ e.tables ↔ name ∈ e'.tables
  condition : router.SameAnswers (comparands router bindings bound e)
    (comparands router bindings bound e')
  value : standing = .value →
    router.SameAnswers (sideComparands router bindings e) (sideComparands router bindings e') ∧
      router.isShardColumn bound e = router.isShardColumn bound e'

structure AlikeQuery (router : Router) (bindings : Bindings) (query query' : Select) : Prop where
  tables : ∀ name, name ∈ query.tables ↔ name ∈ query'.tables
  answers : router.SameAnswers (queryComparands router bindings query)
    (queryComparands router bindings query')

structure AlikeSource (t t' : TableRef) : Prop where
  tables : ∀ name, name ∈ t.tables ↔ name ∈ t'.tables
  bound : t.boundTables = t'.boundTables

section Alike

variable {router : Router} {bindings : Bindings} {bound other : List BoundTable}
  {standing : Standing} {e e' e'' : Expr} {op : BinaryOp}

theorem Alike.refl (e : Expr) : Alike router bindings bound standing e e :=
  ⟨fun _ => .rfl, .refl _, fun _ => ⟨.refl _, rfl⟩⟩

theorem Alike.symm (same : Alike router bindings bound standing e e') :
    Alike router bindings bound standing e' e :=
  ⟨fun name => (same.tables name).symm, same.condition.symm,
    fun value => ⟨(same.value value).1.symm, (same.value value).2.symm⟩⟩

theorem Alike.trans (first : Alike router bindings bound standing e e')
    (second : Alike router bindings bound standing e' e'') :
    Alike router bindings bound standing e e'' :=
  ⟨fun name => (first.tables name).trans (second.tables name),
    first.condition.trans second.condition,
    fun value => ⟨(first.value value).1.trans (second.value value).1,
      (first.value value).2.trans (second.value value).2⟩⟩

/-- The value of a compound expression is unknown, and it is no column. -/
def IsCompound (router : Router) (bindings : Bindings) (bound : List BoundTable) (e : Expr) :
    Prop :=
  sideComparands router bindings e = [.unknown e] ∧ router.isShardColumn bound e = false

theorem Alike.of_compound (tables : ∀ name, name ∈ e.tables ↔ name ∈ e'.tables)
    (condition : router.SameAnswers (comparands router bindings bound e)
      (comparands router bindings bound e'))
    (compound : IsCompound router bindings bound e)
    (compound' : IsCompound router bindings bound e') :
    Alike router bindings bound standing e e' := by
  refine ⟨tables, condition, fun _ => ⟨?_, compound.2.trans compound'.2.symm⟩⟩
  rw [compound.1, compound'.1]
  exact .unknown e e'

theorem isCompound_binary (left : Expr) (op : BinaryOp) (right : Expr) :
    IsCompound router bindings bound (.binary left op right) :=
  ⟨by rw [sideComparands] <;> nofun, rfl⟩

theorem isCompound_inList (operand : Expr) (items : List Expr) (negated : Bool) :
    IsCompound router bindings bound (.inList operand items negated) :=
  ⟨by rw [sideComparands] <;> nofun, rfl⟩

theorem isCompound_existence (query : Select) (negated : Bool) :
    IsCompound router bindings bound (.existence query negated) :=
  ⟨by rw [sideComparands] <;> nofun, rfl⟩

theorem isCompound_frame {C : Expr → Expr} (frame : Frame C) (e : Expr) :
    IsCompound router bindings bound (C e) := by
  cases frame <;> exact ⟨by rw [sideComparands] <;> nofun, rfl⟩

theorem comparands_joined (joins : op.joins = true) (left right : Expr) :
    comparands router bindings bound (.binary left op right) =
      comparands router bindings bound left ++ comparands router bindings bound right := by
  cases op with
  | and | or => rw [comparands]
  | _ => cases joins

theorem comparands_hidden (hidden : op.isRouted = false) (left right : Expr) :
    comparands router bindings bound (.binary left op right) = [] := by
  cases op with
  | and | or | eq => cases hidden
  | _ => rw [comparands] <;> nofun

/-- The router does not look into frames. -/
theorem comparands_frame {C : Expr → Expr} (frame : Frame C) (e : Expr) :
    comparands router bindings bound (C e) = [] := by
  cases frame with
  | left hidden right => exact comparands_hidden hidden e right
  | right hidden left => exact comparands_hidden hidden left e
  | _ =>
      beta_reduce
      rw [comparands] <;> nofun

theorem mem_listTables_append {es fs : List Expr} {name : String} :
    name ∈ listTables (es ++ fs) ↔ name ∈ listTables es ∨ name ∈ listTables fs := by
  induction es with
  | nil => simp [listTables]
  | cons e es ih => simp [listTables, ih, or_assoc]

theorem mem_branchTables_append {es fs : List Branch} {name : String} :
    name ∈ branchTables (es ++ fs) ↔ name ∈ branchTables es ∨ name ∈ branchTables fs := by
  induction es with
  | nil => simp [branchTables]
  | cons branch es ih =>
      obtain ⟨condition, result⟩ := branch
      simp [branchTables, ih, or_assoc]

theorem tables_choice (subject : Option Expr) (branches : List Branch) (otherwise : Option Expr) :
    (Expr.choice subject branches otherwise).tables =
      optionTables subject ++ branchTables branches ++ optionTables otherwise := by
  cases subject <;> cases otherwise <;> simp [Expr.tables, optionTables]

theorem mem_tables_frame {C : Expr → Expr} (frame : Frame C)
    (tables : ∀ name, name ∈ e.tables ↔ name ∈ e'.tables) (name : String) :
    name ∈ (C e).tables ↔ name ∈ (C e').tables := by
  cases frame with
  | subject | condition | result | otherwise =>
      simp [tables_choice, optionTables, mem_branchTables_append, branchTables, tables name]
  | _ => simp [Expr.tables, mem_listTables_append, listTables, tables name]

theorem tables_select (query : Select) :
    query.tables =
      (query.source.map TableRef.tables).getD [] ++ listTables (query.items.map (·.expr))
      ++ optionTables query.condition ++ listTables query.groups ++ optionTables query.having
      ++ listTables (query.order.map (·.expr)) := by
  obtain ⟨_, _, source, condition, _, having, _, _, _⟩ := query
  rw [← Runs.itemTables_eq_listTables, ← Runs.orderTables_eq_listTables]
  cases source <;> cases condition <;> cases having <;> rw [Select.tables] <;> rfl

theorem mem_tables_clause {C : Expr → Select} (clause : Clause C)
    (tables : ∀ name, name ∈ e.tables ↔ name ∈ e'.tables) (name : String) :
    name ∈ (C e).tables ↔ name ∈ (C e').tables := by
  cases clause <;>
    simp [tables_select, optionTables, mem_listTables_append, listTables, tables name]

section Alternatives

variable {c first : Expr} {rest : List Expr}

theorem mem_tables_foldl {others : Expr} (inside : ∀ name ∈ c.tables, name ∈ others.tables)
    (name : String) :
    name ∈ (rest.foldl (fun others e => .binary others .or (.binary c .eq e)) others).tables ↔
      name ∈ others.tables ∨ name ∈ listTables rest := by
  induction rest generalizing others with
  | nil => simp [listTables]
  | cons e rest ih =>
      rw [List.foldl_cons, ih (fun name member => by simp [Expr.tables, inside name member])]
      have known := inside name
      simp only [Expr.tables, listTables, List.mem_append]
      tauto

theorem mem_tables_alternatives (name : String) :
    name ∈ (alternatives c first rest).tables ↔
      name ∈ c.tables ∨ name ∈ listTables (first :: rest) := by
  rw [alternatives, mem_tables_foldl fun name member => by simp [Expr.tables, member]]
  simp [Expr.tables, listTables, or_assoc]

theorem comparands_alternatives (shard : router.isShardColumn bound c = true) :
    comparands router bindings bound (alternatives c first rest) =
      listComparands router bindings (first :: rest) := by
  have folded (others : Expr) :
      comparands router bindings bound
          (rest.foldl (fun others e => .binary others .or (.binary c .eq e)) others) =
        comparands router bindings bound others ++ listComparands router bindings rest := by
    induction rest generalizing others with
    | nil => simp [listComparands]
    | cons e rest ih =>
        rw [List.foldl_cons, ih, comparands, comparands, if_pos shard, listComparands,
          List.append_assoc]
  rw [alternatives, folded, comparands, if_pos shard, listComparands]

end Alternatives

theorem exists_alternatives_eq (c first : Expr) (rest : List Expr) :
    ∃ left op right, alternatives c first rest = .binary left op right := by
  rcases List.eq_nil_or_concat rest with rfl | ⟨others, last, rfl⟩
  · exact ⟨_, _, _, rfl⟩
  · exact ⟨_, _, _, by rw [alternatives, List.concat_eq_append, List.foldl_concat]⟩

theorem listComparands_append (es fs : List Expr) :
    listComparands router bindings (es ++ fs) =
      listComparands router bindings es ++ listComparands router bindings fs := by
  induction es with
  | nil => rfl
  | cons e es ih => rw [List.cons_append, listComparands, ih, listComparands, List.append_assoc]

theorem isQuery_around {before after : List Expr}
    (whole : before = [] → after = [] → isQuery [e'] = isQuery [e]) :
    isQuery (before ++ e :: after) = isQuery (before ++ e' :: after) := by
  match before, after with
  | [], [] => exact (whole rfl rfl).symm
  | [], second :: after => simp only [List.nil_append, isQuery_cons_cons]
  | [first], after => simp only [List.cons_append, List.nil_append, isQuery_cons_cons]
  | first :: second :: before, after => simp only [List.cons_append, isQuery_cons_cons]

/-- A list is compared item by item, if it is not a query alone. -/
theorem comparands_inList (bound : List BoundTable) (operand : Expr) {items : List Expr} :
    comparands router bindings bound (.inList operand items false) =
      if router.isShardColumn bound operand then
        if isQuery items then items.map .unknown else listComparands router bindings items
      else [] := by
  cases query : isQuery items with
  | true =>
      unfold isQuery at query
      split at query
      · simp [comparands]
      · cases query
  | false =>
      have other : ∀ q, items ≠ [.subquery q] := by
        rintro q rfl
        cases query
      rw [comparands]
      · rfl
      · exact other

theorem sideComparands_of_shardColumn (bindings : Bindings)
    (shard : router.isShardColumn bound e = true) :
    ∃ column, sideComparands router bindings e = [.unknown column] := by
  induction e using Expr.unparenthesized.induct with
  | case1 inner ih =>
      obtain ⟨column, same⟩ := ih shard
      exact ⟨column, by rw [sideComparands, same]⟩
  | case2 e bare =>
      cases e with
      | paren inner => exact absurd rfl (bare inner)
      | column table name span => exact ⟨_, by rw [sideComparands] <;> simp⟩
      | _ => cases shard

theorem Alike.place (table : Option String) (name : String) (span span' : Span) :
    Alike router bindings bound standing (.column table name span) (.column table name span') := by
  refine ⟨fun name => by rw [Expr.tables, Expr.tables], ?_, fun _ => ⟨?_, rfl⟩⟩
  · rw [comparands, comparands] <;> first | exact .refl _ | nofun
  · rw [sideComparands, sideComparands] <;> first | exact .unknown _ _ | nofun

theorem Alike.commute (joins : op.joins = true) (left right : Expr) :
    Alike router bindings bound standing (.binary left op right) (.binary right op left) := by
  refine .of_compound (fun name => ?_) ?_ (isCompound_binary ..) (isCompound_binary ..)
  · simp only [Expr.tables, List.mem_append, or_comm]
  · rw [comparands_joined joins, comparands_joined joins]
    exact .append_comm _ _

theorem Alike.regroup (joins : op.joins = true) (a b c : Expr) :
    Alike router bindings bound standing (.binary (.binary a op b) op c)
      (.binary a op (.binary b op c)) := by
  refine .of_compound (fun name => ?_) ?_ (isCompound_binary ..) (isCompound_binary ..)
  · simp only [Expr.tables, List.mem_append, or_assoc]
  · simp only [comparands_joined joins, List.append_assoc]
    exact .refl _

theorem Alike.wrap (e : Expr) : Alike router bindings bound standing e (.paren e) := by
  refine ⟨fun name => by rw [Expr.tables], ?_, fun _ => ⟨?_, rfl⟩⟩
  · rw [comparands]
    exact .refl _
  · rw [sideComparands]
    exact .refl _

theorem Alike.double (joins : op.joins = true) (e : Expr) :
    Alike router bindings bound .condition e (.binary e op e) := by
  refine ⟨fun name => by simp only [Expr.tables, List.mem_append, or_self], ?_, nofun⟩
  rw [comparands_joined joins]
  exact .append_self _

theorem Alike.swap (left right : Expr) :
    Alike router bindings bound standing (.binary left .eq right) (.binary right .eq left) := by
  refine .of_compound (fun name => ?_) ?_ (isCompound_binary ..) (isCompound_binary ..)
  · simp only [Expr.tables, List.mem_append, or_comm]
  · rw [comparands, comparands]
    by_cases left_shard : router.isShardColumn bound left = true
    · by_cases right_shard : router.isShardColumn bound right = true
      · -- A column that is compared to itself may have any value.
        obtain ⟨column, unknown⟩ := sideComparands_of_shardColumn bindings left_shard
        obtain ⟨column', unknown'⟩ := sideComparands_of_shardColumn bindings right_shard
        rw [if_pos left_shard, if_pos right_shard, unknown, unknown']
        exact .unknown column' column
      · rw [if_pos left_shard, if_neg right_shard, if_pos left_shard]
        exact .refl _
    · rw [if_neg left_shard, if_neg left_shard]
      exact .refl _

theorem Alike.spread {c first : Expr} {rest : List Expr}
    (shard : router.isShardColumn bound c = true)
    (plain : ∀ e ∈ first :: rest, e.subqueries = []) :
    Alike router bindings bound standing (.inList c (first :: rest) false)
      (.paren (alternatives c first rest)) := by
  have no_query : isQuery (first :: rest) = false := by
    have bare := plain first List.mem_cons_self
    cases rest with
    | nil => cases first <;> first | rfl | cases bare
    | cons second rest => exact isQuery_cons_cons first second rest
  refine Alike.trans (.of_compound (fun name => ?_) ?_ (isCompound_inList ..) ?_) (.wrap _)
  · rw [mem_tables_alternatives, Expr.tables, List.mem_append]
  · rw [comparands_inList, if_pos shard, no_query, comparands_alternatives shard]
    exact .refl _
  · obtain ⟨left, op, right, same⟩ := exists_alternatives_eq c first rest
    exact same ▸ isCompound_binary left op right

theorem Alike.operand {left left' : Expr} (joins : op.joins = true) (right : Expr)
    (same : Alike router bindings bound .condition left left') :
    Alike router bindings bound standing (.binary left op right) (.binary left' op right) := by
  refine .of_compound (fun name => ?_) ?_ (isCompound_binary ..) (isCompound_binary ..)
  · simp only [Expr.tables, List.mem_append, same.tables name]
  · rw [comparands_joined joins, comparands_joined joins]
    exact same.condition.append (.refl _)

theorem Alike.side {left left' : Expr} (right : Expr)
    (same : Alike router bindings bound .value left left') :
    Alike router bindings bound standing (.binary left .eq right) (.binary left' .eq right) := by
  obtain ⟨sides, column⟩ := same.value rfl
  refine .of_compound (fun name => ?_) ?_ (isCompound_binary ..) (isCompound_binary ..)
  · simp only [Expr.tables, List.mem_append, same.tables name]
  · rw [comparands, comparands, column]
    split
    · exact .refl _
    · split
      · exact sides
      · exact .refl _

theorem Alike.paren (same : Alike router bindings bound standing e e') :
    Alike router bindings bound standing (.paren e) (.paren e') :=
  ((Alike.wrap e).symm.trans same).trans (.wrap e')

theorem Alike.tested (items : List Expr) (same : Alike router bindings bound .value e e') :
    Alike router bindings bound standing (.inList e items false) (.inList e' items false) := by
  refine .of_compound (fun name => ?_) ?_ (isCompound_inList ..) (isCompound_inList ..)
  · simp only [Expr.tables, List.mem_append, same.tables name]
  · rw [comparands_inList, comparands_inList, (same.value rfl).2]
    exact .refl _

theorem Alike.item (operand : Expr) (before after : List Expr)
    (same : Alike router bindings bound .value e e')
    (whole : router.isShardColumn bound operand = true → before = [] → after = [] →
      isQuery [e'] = isQuery [e]) :
    Alike router bindings bound standing (.inList operand (before ++ e :: after) false)
      (.inList operand (before ++ e' :: after) false) := by
  refine .of_compound (fun name => ?_) ?_ (isCompound_inList ..) (isCompound_inList ..)
  · simp [Expr.tables, mem_listTables_append, listTables, same.tables name]
  · rw [comparands_inList, comparands_inList]
    split
    · next shard =>
        rw [isQuery_around fun first last => whole shard first last]
        split
        · -- Queries may answer anything, whichever they are.
          intro answer
          simp [Router.answer]
        · rw [listComparands_append, listComparands_append, listComparands, listComparands]
          exact (SameAnswers.refl _).append ((same.value rfl).1.append (.refl _))
    · exact .refl _

theorem Alike.subquery {query query' : Select} (same : AlikeQuery router bindings query query') :
    Alike router bindings bound standing (.subquery query) (.subquery query') := by
  refine ⟨fun name => ?_, ?_, fun _ => ⟨?_, rfl⟩⟩
  · rw [Expr.tables, Expr.tables, same.tables]
  · rw [comparands, comparands] <;> first | exact .refl _ | nofun
  · rw [sideComparands, sideComparands]
    exact same.answers

theorem Alike.existence {query query' : Select} (negated : Bool)
    (same : AlikeQuery router bindings query query') :
    Alike router bindings bound standing (.existence query negated)
      (.existence query' negated) := by
  refine .of_compound (fun name => ?_) ?_ (isCompound_existence ..) (isCompound_existence ..)
  · rw [Expr.tables, Expr.tables, same.tables]
  · rw [comparands, comparands] <;> first | exact .refl _ | nofun

theorem Alike.frame {C : Expr → Expr} (frame : Frame C)
    (same : Alike router bindings other .condition e e') :
    Alike router bindings bound standing (C e) (C e') := by
  refine .of_compound (mem_tables_frame frame same.tables) ?_ (isCompound_frame frame e)
    (isCompound_frame frame e')
  rw [comparands_frame frame, comparands_frame frame]
  exact .refl _

/-! ## Alike queries and tables -/

theorem queryComparands_eq (query : Select) :
    queryComparands router bindings query =
      if router.table ∈ query.tableNames then
        match query.condition with
        | some predicate => comparands router bindings query.boundTables predicate
        | none => if query.boundTables.any router.owns then [.allRows query] else []
      else [] := by
  obtain ⟨_, _, _, condition, _, _, _, _, _⟩ := query
  cases condition <;> rw [queryComparands]

theorem AlikeQuery.of_clauses {query query' : Select}
    (tables : ∀ name, name ∈ query.tables ↔ name ∈ query'.tables)
    (bound : query'.boundTables = query.boundTables)
    (conditions : Option.Rel (Alike router bindings query.boundTables .condition) query.condition
      query'.condition) : AlikeQuery router bindings query query' := by
  have names : query'.tableNames = query.tableNames := by
    refine NameSet.ext fun name => ?_
    rw [Select.tableNames, Select.tableNames, NameSet.mem_ofList, NameSet.mem_ofList, tables]
  refine ⟨tables, ?_⟩
  rw [queryComparands_eq, queryComparands_eq, names, bound]
  split
  · generalize query.condition = condition at conditions
    generalize query'.condition = condition' at conditions
    cases conditions with
    | none =>
        dsimp only
        split
        · -- A query over all rows may answer anything.
          exact fun _ => .rfl
        · exact .refl _
    | some same => exact same.condition
  · exact .refl _

theorem optionRel_refl (condition : Option Expr) :
    Option.Rel (Alike router bindings bound standing) condition condition := by
  cases condition with
  | none => exact .none
  | some e => exact .some (.refl e)

theorem AlikeQuery.condition (query : Select)
    (same : Alike router bindings query.boundTables .condition e e') :
    AlikeQuery router bindings { query with condition := some e }
      { query with condition := some e' } :=
  .of_clauses (fun name => by simp [tables_select, optionTables, same.tables name]) rfl (.some same)

theorem AlikeQuery.clause {C : Expr → Select} (clause : Clause C)
    (tables : ∀ name, name ∈ e.tables ↔ name ∈ e'.tables) :
    AlikeQuery router bindings (C e) (C e') := by
  refine .of_clauses (mem_tables_clause clause tables) ?_ ?_
  · cases clause <;> rfl
  · cases clause <;> exact optionRel_refl _

theorem AlikeQuery.source {t t' : TableRef} (query : Select) (same : AlikeSource t t') :
    AlikeQuery router bindings { query with source := some t } { query with source := some t' } :=
  .of_clauses (fun name => by simp [tables_select, same.tables name]) same.bound.symm
    (optionRel_refl _)

theorem AlikeSource.derived {query query' : Select} (label : Option String)
    (same : AlikeQuery router bindings query query') :
    AlikeSource (.derived query label) (.derived query' label) :=
  ⟨fun name => by rw [TableRef.tables, TableRef.tables, same.tables], rfl⟩

theorem tables_join (left : TableRef) (kind : JoinKind) (right : TableRef)
    (condition : Option Expr) (shared : List String) :
    (TableRef.join left kind right condition shared).tables =
      left.tables ++ right.tables ++ optionTables condition := by
  cases condition <;> simp [TableRef.tables, optionTables]

theorem AlikeSource.left {left left' : TableRef} (kind : JoinKind) (right : TableRef)
    (condition : Option Expr) (shared : List String) (same : AlikeSource left left') :
    AlikeSource (.join left kind right condition shared)
      (.join left' kind right condition shared) :=
  ⟨fun name => by simp [tables_join, same.tables name],
    by rw [TableRef.boundTables, TableRef.boundTables, same.bound]⟩

theorem AlikeSource.right {right right' : TableRef} (left : TableRef) (kind : JoinKind)
    (condition : Option Expr) (shared : List String) (same : AlikeSource right right') :
    AlikeSource (.join left kind right condition shared)
      (.join left kind right' condition shared) :=
  ⟨fun name => by simp [tables_join, same.tables name],
    by rw [TableRef.boundTables, TableRef.boundTables, same.bound]⟩

theorem AlikeSource.on (left : TableRef) (kind : JoinKind) (right : TableRef)
    (shared : List String) (tables : ∀ name, name ∈ e.tables ↔ name ∈ e'.tables) :
    AlikeSource (.join left kind right (some e) shared)
      (.join left kind right (some e') shared) :=
  ⟨fun name => by simp [tables_join, optionTables, tables name], rfl⟩

end Alike

/-! ## Rearranged predicates are alike -/

/-- The induction is on the rearrangement, with what is alike in queries and tables beside it. -/
theorem Rearranged.alike {router : Router} (bindings : Bindings) {bound : List BoundTable}
    {standing : Standing} {e e' : Expr} (same : Rearranged router bound standing e e') :
    Alike router bindings bound standing e e' := by
  refine @Rearranged.rec router
    (fun bound standing e e' _ => Alike router bindings bound standing e e')
    (fun query query' _ => AlikeQuery router bindings query query')
    (fun t t' _ => AlikeSource t t')
    ?refl ?symm ?trans ?place ?commute ?regroup ?wrap ?double ?swap ?spread ?operand ?side ?paren
    ?tested ?item ?subquery ?existence ?frame ?condition ?clause ?source ?derived ?left ?right ?on
    _ _ _ _ same
  case refl => exact fun e => .refl e
  case symm => exact fun _ same => same.symm
  case trans => exact fun _ _ first second => first.trans second
  case place => exact fun table name span span' => .place table name span span'
  case commute => exact fun joins left right => .commute joins left right
  case regroup => exact fun joins a b c => .regroup joins a b c
  case wrap => exact fun e => .wrap e
  case double => exact fun joins e => .double joins e
  case swap => exact fun left right => .swap left right
  case spread => exact fun shard plain => .spread shard plain
  case operand => exact fun joins right _ same => .operand joins right same
  case side => exact fun right _ same => .side right same
  case paren => exact fun _ same => .paren same
  case tested => exact fun items _ same => .tested items same
  case item => exact fun operand before after _ whole same => .item operand before after same whole
  case subquery => exact fun _ same => .subquery same
  case existence => exact fun negated _ same => .existence negated same
  case frame => exact fun frame _ same => .frame frame same
  case condition => exact fun query _ same => .condition query same
  case clause => exact fun clause _ same => .clause clause same.tables
  case source => exact fun query _ same => .source query same
  case derived => exact fun label _ same => .derived label same
  case left =>
    exact fun kind right condition shared _ same => .left kind right condition shared same
  case right =>
    exact fun left kind condition shared _ same => .right left kind condition shared same
  case on => exact fun left kind right shared _ same => .on left kind right shared same.tables

/-! ## Rearranged statements -/

theorem isInsert_of_condition {statement : Statement} {predicate : Expr}
    (condition : statement.condition = some predicate) : isInsert statement = false := by
  cases statement with
  | insert s => cases condition
  | _ => rfl

theorem conditionComparands_of_condition {router : Router} {bindings : Bindings}
    {statement : Statement} {predicate : Expr} (condition : statement.condition = some predicate) :
    conditionComparands router bindings statement =
      comparands router bindings statement.boundTables predicate := by
  rw [conditionComparands, condition]

/-- Statements over the same tables, with the same head comment and with conditions that differ in
how they are arranged, visit the same shards, or neither is routed. -/
theorem subTables_rearranged {router : Router} {bindings : Bindings}
    (prepared prepared' : PreparedStatement) {predicate predicate' : Expr}
    (head : prepared'.head = prepared.head)
    (tables : prepared'.statement.boundTables = prepared.statement.boundTables)
    (condition : prepared.statement.condition = some predicate)
    (condition' : prepared'.statement.condition = some predicate')
    (same : Rearranged router prepared.statement.boundTables .condition predicate predicate')
    (suffixes : NameSet) :
    router.subTables bindings prepared = .ok suffixes ↔
      router.subTables bindings prepared' = .ok suffixes := by
  have kind := isInsert_of_condition condition
  have kind' := isInsert_of_condition condition'
  have answers := (same.alike bindings).condition
  rw [← conditionComparands_of_condition condition, ← tables,
    ← conditionComparands_of_condition condition'] at answers
  have visited (routed : Routed) :
      visitStatement router bindings prepared.statement = .ok routed ↔
        visitStatement router bindings prepared'.statement = .ok routed := by
    rw [visitStatement_eq kind, visitStatement_eq kind']
    exact ⟨answers.absorbAll_eq_ok, answers.symm.absorbAll_eq_ok⟩
  simp only [subTables, head, kind, kind', bind_eq_ok, visited]

/-! ## A table in four shards -/

/-- Both sides of a joined condition are arranged in another way. -/
theorem Rearranged.join {router : Router} {bound : List BoundTable} {standing : Standing}
    {left left' right right' : Expr} {op : BinaryOp} (joins : op.joins = true)
    (lefts : Rearranged router bound .condition left left')
    (rights : Rearranged router bound .condition right right') :
    Rearranged router bound standing (.binary left op right) (.binary left' op right') :=
  (operand joins right lefts).trans <| (commute joins left' right).trans <|
    (operand joins left' rights).trans (commute joins right' left')

/-- A column that is equal to a number. -/
def columnIs (name : String) (start stop : Nat) (n : Int64) : Expr :=
  .binary (.column none name ⟨start, stop⟩) .eq (.literal (.integer n))

/-- `id IN (1, 2) AND x = 3`. -/
def listed : Expr :=
  .binary
    (.inList (.column none "id" ⟨22, 24⟩) [.literal (.integer 1), .literal (.integer 2)] false)
    .and (columnIs "x" 39 40 3)

/-- `3 = x AND (id = 1 OR id = 2)`. -/
def spelledOut : Expr :=
  .binary (.binary (.literal (.integer 3)) .eq (.column none "x" ⟨26, 27⟩)) .and
    (.paren (.binary (columnIs "id" 33 35 1) .or (columnIs "id" 43 45 2)))

theorem rearranged_listed :
    Rearranged byId [⟨"t", none⟩] .condition listed spelledOut := by
  have shard : byId.isShardColumn [⟨"t", none⟩] (.column none "id" ⟨22, 24⟩) = true := by
    decide +kernel
  have moved (name : String) (start stop start' stop' : Nat) (n : Int64) :
      Rearranged byId [⟨"t", none⟩] .condition (columnIs name start stop n)
        (columnIs name start' stop' n) :=
    .side _ (.place none name _ _)
  have alternatives : Rearranged byId [⟨"t", none⟩] .condition
      (.inList (.column none "id" ⟨22, 24⟩) [.literal (.integer 1), .literal (.integer 2)] false)
      (.paren (.binary (columnIs "id" 33 35 1) .or (columnIs "id" 43 45 2))) := by
    refine .trans (.spread shard ?_) (.paren (.join rfl (moved ..) (moved ..)))
    simp [Expr.subqueries]
  have turned : Rearranged byId [⟨"t", none⟩] .condition (columnIs "x" 39 40 3)
      (.binary (.literal (.integer 3)) .eq (.column none "x" ⟨26, 27⟩)) :=
    .trans (moved "x" 39 40 26 27 3) (.swap _ _)
  exact .trans (.join rfl alternatives turned) (.commute rfl _ _)

def listedText : PreparedStatement :=
  ⟨.empty, "SELECT * FROM t WHERE id IN (1, 2) AND x = 3", selectWhere listed⟩

def spelledText : PreparedStatement :=
  ⟨.empty, "SELECT * FROM t WHERE 3 = x AND (id = 1 OR id = 2)", selectWhere spelledOut⟩

theorem subTables_rearranged_listed :
    PreparedStatement.ofText listedText.sql = .ok listedText ∧
      PreparedStatement.ofText spelledText.sql = .ok spelledText ∧
      Rearranged byId [⟨"t", none⟩] .condition listed spelledOut ∧
      byId.subTables .empty listedText = .ok (.ofList ["1", "2"]) ∧
      byId.subTables .empty spelledText = .ok (.ofList ["1", "2"]) := by
  have visited : byId.subTables .empty listedText = .ok (.ofList ["1", "2"]) := by
    with_unfolding_all rfl
  exact ⟨by with_unfolding_all rfl, by with_unfolding_all rfl, rearranged_listed, visited,
    (subTables_rearranged listedText spelledText rfl rfl rfl rfl rearranged_listed _).mp visited⟩

/-- `SELECT x FROM t WHERE id = 1`, with the place of its item. -/
def firstRow (start : Nat) : Select :=
  { Select.ofItems [⟨.column none "x" ⟨start, start + 1⟩, none⟩] (some (.bare "t")) with
    condition := some (columnIs "id" (start + 15) (start + 17) 1) }

/-- The whole list of `IN` is a query. -/
def wholeQuery : PreparedStatement :=
  ⟨.empty, "SELECT * FROM t WHERE id IN ((SELECT x FROM t WHERE id = 1))",
    selectWhere (.inList (.column none "id" ⟨22, 24⟩) [.subquery (firstRow 37)] false)⟩

/-- The query in one more pair of parentheses. -/
def wrappedQuery : PreparedStatement :=
  ⟨.empty, "SELECT * FROM t WHERE id IN (((SELECT x FROM t WHERE id = 1)))",
    selectWhere (.inList (.column none "id" ⟨22, 24⟩) [.paren (.subquery (firstRow 38))] false)⟩

/-- A query that is the whole list may answer anything, but in one more pair of parentheses only
what its condition says. -/
theorem subTables_splits_wrapped_query :
    PreparedStatement.ofText wholeQuery.sql = .ok wholeQuery ∧
      PreparedStatement.ofText wrappedQuery.sql = .ok wrappedQuery ∧
      byId.subTables .empty wholeQuery = .ok (.ofList ["0", "1", "2", "3"]) ∧
      byId.subTables .empty wrappedQuery = .ok (.ofList ["1"]) :=
  ⟨by with_unfolding_all rfl, by with_unfolding_all rfl, by with_unfolding_all rfl,
    by with_unfolding_all rfl⟩

end Router

end ShardedSql
