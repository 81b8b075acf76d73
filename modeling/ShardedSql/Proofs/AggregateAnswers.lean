import ShardedSql.Proofs.Condition
import ShardedSql.Proofs.Outcome
import ShardedSql.Proofs.Reductions

/-!
Answers to queries for a single aggregate over one table. A database makes one row of each group of
the records that meet the condition. Main statements: without nested queries a record says the same
whatever else the table holds, and the values of a table that is split are those of its shards.
-/

namespace ShardedSql

open Numeric Sql Text

/-! ## Expressions without nested queries -/

namespace Reading

/-- The same record where nested queries have other answers. -/
def answering (reading : Reading) (scalar : Select → Value) (hasRow : Select → Bool) : Reading :=
  { reading with dialect := { reading.dialect with scalar, hasRow } }

variable {reading : Reading} {scalar : Select → Value} {hasRow : Select → Bool}

@[simp]
theorem truthOf_answering (v : Value) :
    (reading.answering scalar hasRow).truthOf v = reading.truthOf v := by
  cases v <;> rfl

@[simp]
theorem choose_answering (subject : Option Value) (branches : List (Value × Value)) :
    (reading.answering scalar hasRow).choose subject branches =
      reading.choose subject branches := by
  induction branches with
  | nil => rfl
  | cons branch rest ih => simp [choose, ih]

mutual

theorem value_answering (e : Expr) (plain : e.subqueries = []) :
    (reading.answering scalar hasRow).value e = reading.value e := by
  -- Only a subquery asks for the answers that differ, and a plain expression holds none.
  match e with
  | .literal _ | .column _ _ _ | .placeholder _ | .wildcard _ => rfl
  | .paren inner =>
      simp only [Expr.subqueries] at plain
      simp only [value, value_answering inner plain]
  | .binary left op right =>
      simp only [Expr.subqueries, List.append_eq_nil_iff] at plain
      simp only [value, value_answering left plain.1, value_answering right plain.2,
        truthOf_answering]
      rfl
  | .unary op operand =>
      simp only [Expr.subqueries] at plain
      simp only [value, value_answering operand plain, truthOf_answering]
      rfl
  | .isNull operand negated =>
      simp only [Expr.subqueries] at plain
      simp only [value, value_answering operand plain]
  | .inList operand items negated =>
      simp only [Expr.subqueries, List.append_eq_nil_iff] at plain
      simp only [value, value_answering operand plain.1, values_answering items plain.2]
  | .between operand low high negated =>
      simp only [Expr.subqueries, List.append_eq_nil_iff] at plain
      simp only [value, value_answering operand plain.1.1, value_answering low plain.1.2,
        value_answering high plain.2, truthOf_answering]
      rfl
  | .choice none branches none =>
      simp only [Expr.subqueries, List.nil_append, List.append_nil] at plain
      simp [value, branchValues_answering branches plain]
  | .choice none branches (some last) =>
      simp only [Expr.subqueries, List.nil_append, List.append_eq_nil_iff] at plain
      simp [value, branchValues_answering branches plain.1, value_answering last plain.2]
  | .choice (some first) branches none =>
      simp only [Expr.subqueries, List.append_nil, List.append_eq_nil_iff] at plain
      simp [value, value_answering first plain.1, branchValues_answering branches plain.2]
  | .choice (some first) branches (some last) =>
      simp only [Expr.subqueries, List.append_eq_nil_iff] at plain
      simp [value, value_answering first plain.1.1, branchValues_answering branches plain.1.2,
        value_answering last plain.2]
  | .call function args distinct =>
      simp only [Expr.subqueries] at plain
      simp only [value, values_answering args plain]
      rfl
  | .cast operand typeName =>
      simp only [Expr.subqueries] at plain
      simp only [value, value_answering operand plain]
      rfl
  | .subquery _ => cases plain
  | .existence _ _ => cases plain

theorem values_answering (es : List Expr) (plain : listSubqueries es = []) :
    (reading.answering scalar hasRow).values es = reading.values es := by
  match es with
  | [] => rfl
  | e :: rest =>
      simp only [listSubqueries, List.append_eq_nil_iff] at plain
      simp only [values, value_answering e plain.1, values_answering rest plain.2]

theorem branchValues_answering (branches : List Branch) (plain : branchSubqueries branches = []) :
    (reading.answering scalar hasRow).branchValues branches = reading.branchValues branches := by
  match branches with
  | [] => rfl
  | ⟨condition, result⟩ :: rest =>
      simp only [branchSubqueries, List.append_eq_nil_iff] at plain
      simp only [branchValues, value_answering condition plain.1.1,
        value_answering result plain.1.2, branchValues_answering rest plain.2]

end

theorem meets_answering {condition : Option Expr}
    (plain : ∀ predicate, condition = some predicate → predicate.subqueries = []) :
    (reading.answering scalar hasRow).Meets condition ↔ reading.Meets condition := by
  cases condition with
  | none => rfl
  | some predicate =>
      rw [Meets, Meets, truth, truth, truthOf_answering, value_answering predicate (plain _ rfl)]

instance (condition : Option Expr) : Decidable (reading.Meets condition) :=
  match condition with
  | some predicate => inferInstanceAs (Decidable (reading.truth predicate = some true))
  | none => inferInstanceAs (Decidable True)

end Reading

theorem Sql.Expr.subqueries_unparenthesized (e : Expr) :
    e.unparenthesized.subqueries = e.subqueries := by
  induction e using Expr.unparenthesized.induct with
  | case1 inner ih => simp only [Expr.unparenthesized, Expr.subqueries, ih]
  | case2 e other => rw [Expr.unparenthesized.eq_2 e other]

/-! ## The answers of a database -/

/-- A call that reduces many records to one value. -/
structure AggregateCall where
  kind : Aggregate
  args : List Expr
  distinct : Bool

namespace AggregateCall

/-- What a record gives to the call. A wildcard stands for the record itself; of several values none
may be missing. -/
def operand (call : AggregateCall) (reading : Reading) : Value :=
  match call.args with
  | [.wildcard _] => .bool true
  | [e] => reading.value e
  | es => if (reading.values es).any Value.isNull then .null else .list (reading.values es)

theorem operand_answering {call : AggregateCall} {reading : Reading} {scalar : Select → Value}
    {hasRow : Select → Bool} (plain : listSubqueries call.args = []) :
    call.operand (reading.answering scalar hasRow) = call.operand reading := by
  unfold operand
  split
  · rfl
  next e _ only =>
    rw [only] at plain
    simp only [listSubqueries, List.append_nil] at plain
    exact Reading.value_answering e plain
  next => rw [Reading.values_answering _ plain]

end AggregateCall

namespace Sql.Select

/-- The call of a query that selects nothing else. -/
def aggregateCall? (query : Select) : Option AggregateCall :=
  match query.items with
  | [item] =>
      match item.expr.unparenthesized with
      | .call function args distinct =>
          (Aggregate.ofName function).map fun kind => ⟨kind, args, distinct⟩
      | _ => none
  | _ => none

/-- The name of the table, when a query ranges over one only. -/
def soleTable? (query : Select) : Option String :=
  match query.source with
  | some (.table _ name _) => some name
  | _ => none

theorem aggregate_eq (query : Select) : query.aggregate = query.aggregateCall?.map (·.kind) := by
  unfold aggregate aggregateCall?
  match query.items with
  | [] => rfl
  | _ :: _ :: _ => rfl
  | [item] =>
      dsimp only
      generalize item.expr.unparenthesized = e
      cases e with
      | call function args distinct => simp [Function.comp_def]
      | _ => rfl

end Sql.Select

theorem MergeStrategy.ofSelect_eq_aggregate_iff {query : Select} {kind : Aggregate} :
    ofSelect query = .aggregate kind ↔ ∃ call, query.aggregateCall? = some call ∧
      call.kind = kind := by
  rw [ofSelect, query.aggregate_eq]
  cases query.aggregateCall? with
  | none =>
      by_cases once : query.distinct = true <;> by_cases ordered : query.order.isEmpty = true <;>
        simp [once, ordered]
  | some call => simp

/-- A database with a table. What nested queries answer depends on the records it holds. -/
structure Database where
  dialect : Dialect
  scalar : List Record → Select → Value
  hasRow : List Record → Select → Bool
  /-- Whether a condition on groups lets a group of records pass. -/
  accepts : Expr → List Record → Bool

/-- A query for a single aggregate over one table, with its window and without nested queries. -/
structure AggregateQuery where
  query : Select
  bindings : Bindings
  call : AggregateCall
  table : String
  window : Window
  call_found : query.aggregateCall? = some call
  table_found : query.soleTable? = some table
  window_found : Window.resolve bindings query = .ok window
  plain_items : ∀ item ∈ query.items, item.expr.subqueries = []
  plain_condition : ∀ predicate, query.condition = some predicate → predicate.subqueries = []
  plain_groups : listSubqueries query.groups = []
  plain_having : ∀ predicate, query.having = some predicate → predicate.subqueries = []

/-- Records with equal keys are in one group, and no group is empty; without keys, all records are
one group. -/
def IsGrouping (keys : Record → List Value) (ungrouped : Bool) (records : List Record)
    (parts : List (List Record)) : Prop :=
  if ungrouped then parts = [records]
  else parts.flatten.Perm records ∧ (∀ part ∈ parts, part ≠ []) ∧
    (∀ part ∈ parts, ∀ r ∈ part, ∀ s ∈ part, Value.orderAll (keys r) (keys s) = .eq) ∧
    parts.Pairwise fun left right =>
      ∀ r ∈ left, ∀ s ∈ right, Value.orderAll (keys r) (keys s) ≠ .eq

namespace AggregateQuery

variable (asked : AggregateQuery) (db : Database)

/-- A record as the query reads it, apart from nested queries. -/
def recordReading (record : Record) : Reading :=
  ⟨db.dialect, asked.bindings, asked.query.boundTables, asked.table, record⟩

/-- A record of a table with the given contents, as the query reads it. -/
def reading (contents : List Record) (record : Record) : Reading :=
  (asked.recordReading db record).answering (db.scalar contents) (db.hasRow contents)

/-- The records that meet the condition. -/
def chosen (contents : List Record) : List Record :=
  contents.filter fun record => (asked.reading db contents record).Meets asked.query.condition

/-- What records give to the call, without those that give nothing. -/
def operands (contents records : List Record) : List Value :=
  (records.map fun record => asked.call.operand (asked.reading db contents record)).filter
    (!·.isNull)

/-- Whether `HAVING` lets a group pass. -/
def passes (records : List Record) : Bool :=
  asked.query.having.all (db.accepts · records)

/-- A list of values that the query may answer over a table with the given contents: one of each
group that passes, in some order, as far as they are in the window. -/
def IsAnswer (contents : List Record) (answer : List Value) : Prop :=
  ∃ parts values kept arranged,
    IsGrouping (fun record => (asked.reading db contents record).values asked.query.groups)
      asked.query.groups.isEmpty (asked.chosen db contents) parts ∧
    List.Forall₂ (fun part v =>
      IsReduction asked.call.kind asked.call.distinct (asked.operands db contents part) v)
      (parts.filter (asked.passes db)) values ∧
    (if asked.query.distinct then Represents values kept else kept = values) ∧
    arranged.Perm kept ∧ answer = asked.window.apply arranged

end AggregateQuery

/-- How rows with a single value look. -/
structure RowForm (R : Type) [ResultRow R] where
  row : Value → R
  scalar_row : ∀ v, ResultRow.scalar? (row v) = some v
  withScalar_row : ∀ v w, ResultRow.withScalar (row v) w = row w

/-- Rows with one column of this name. -/
def RowForm.labelled (label : String) : RowForm Row where
  row v := ⟨[(label, v)]⟩
  scalar_row _ := rfl
  withScalar_row _ _ := rfl

namespace AggregateQuery

variable {R : Type} [ResultRow R] (asked : AggregateQuery) (db : Database)

/-- However the records are split into two shards or more, the answers of the shards are merged to
the answer over all records, unless a number overflows. The values have to suit the aggregate. -/
def MergesWhole (form : RowForm R) (mapper : ColumnMapper) : Prop :=
  ∀ (shards : List (List Record)) (answers : List (List Value)), 2 ≤ shards.length →
    Suits asked.call.kind asked.call.distinct
      (asked.operands db shards.flatten (asked.chosen db shards.flatten)) →
    List.Forall₂ (asked.IsAnswer db) shards answers →
    (∀ tally, merge (answers.map (·.map form.row)) (.select asked.query) mapper asked.bindings ≠
      .error (.overflow tally)) →
    ∃ merged answer,
      merge (answers.map (·.map form.row)) (.select asked.query) mapper asked.bindings =
        .ok (some merged) ∧
      merged.toList.Perm (answer.map form.row) ∧ asked.IsAnswer db shards.flatten answer

/-- The answer over any records is one reduction of them all, and `DISTINCT` only stands before
values that may as well come twice. -/
structure Recombines : Prop where
  ungrouped : asked.query.groups = []
  windowed : asked.window.apply [()] = [()]
  passing : ∀ records,
    (∀ record ∈ records, (asked.reading db records record).Meets asked.query.condition) →
    Suits asked.call.kind asked.call.distinct (asked.operands db records records) →
    asked.passes db records = true
  idle : asked.call.distinct = true → ∀ record,
    (asked.reading db [record] record).Meets asked.query.condition →
    ∀ v ∈ asked.operands db [record] [record], Idle asked.call.kind v

end AggregateQuery

/-! ## What records say whatever the contents -/

namespace AggregateQuery

section Contents

variable {asked : AggregateQuery} {db : Database} {contents records : List Record}

theorem plain_args : listSubqueries asked.call.args = [] := by
  have found := asked.call_found
  have plain := asked.plain_items
  unfold Select.aggregateCall? at found
  split at found
  next item only =>
    have here := plain item (by simp [only])
    rw [← Expr.subqueries_unparenthesized] at here
    split at found
    next call =>
      rw [call, Expr.subqueries] at here
      obtain ⟨kind, _, same⟩ := Option.map_eq_some_iff.mp found
      rw [← same]
      exact here
    next => cases found
  next => cases found

theorem meets_reading {record : Record} :
    (asked.reading db contents record).Meets asked.query.condition ↔
      (asked.recordReading db record).Meets asked.query.condition :=
  Reading.meets_answering asked.plain_condition

theorem chosen_eq : asked.chosen db contents =
    contents.filter fun record => (asked.recordReading db record).Meets asked.query.condition := by
  simp only [chosen, meets_reading]

theorem operands_eq : asked.operands db contents records =
    (records.map fun record => asked.call.operand (asked.recordReading db record)).filter
      (!·.isNull) := by
  simp only [operands, reading, AggregateCall.operand_answering plain_args]

theorem operands_flatten (shards : List (List Record)) :
    asked.operands db shards.flatten (asked.chosen db shards.flatten) =
      (shards.map fun records => asked.operands db records (asked.chosen db records)).flatten := by
  simp only [operands_eq, chosen_eq, List.filter_flatten, List.map_flatten, List.map_map,
    Function.comp_def]

theorem isNull_of_mem_operands {v : Value} (member : v ∈ asked.operands db contents records) :
    v.isNull = false := by
  simpa using (List.mem_filter.mp member).2

end Contents

end AggregateQuery

end ShardedSql
