import ShardedSql.Proofs.AggregateAnswers
import ShardedSql.Sql.Grammar

/-!
Merging the answers to a query for a single aggregate. The merge always makes one row. Main
statement: it is the answer over the whole table, however that is split, exactly if the query has no
groups, its `HAVING` and its window let the one row pass, and `DISTINCT` only stands before values
that may as well come twice; for a count there are none.
-/

namespace ShardedSql

open Numeric Sql Text

/-! ## Windows over one row -/

namespace Window

variable {α β : Type} {window : Window}

theorem apply_map (window : Window) (f : α → β) (rows : List α) :
    window.apply (rows.map f) = (window.apply rows).map f := by
  unfold apply
  cases window.count <;> simp only [← List.map_drop, ← List.map_take]

theorem length_apply_le (window : Window) (rows : List α) :
    (window.apply rows).length ≤ rows.length := by
  unfold apply
  cases window.count <;> simp

@[simp]
theorem apply_nil (window : Window) : window.apply ([] : List α) = [] :=
  List.length_eq_zero_iff.mp (Nat.le_zero.mp (length_apply_le window []))

/-- A window that keeps one row keeps whatever row there is. -/
theorem apply_singleton (keeps : window.apply [()] = [()]) (x : α) : window.apply [x] = [x] := by
  have mapped := apply_map window (fun _ => x) [()]
  simpa [keeps] using mapped

/-- A window that does not keep one row keeps none of at most one. -/
theorem apply_of_short (drops : window.apply [()] ≠ [()]) {rows : List α}
    (short : rows.length ≤ 1) : window.apply rows = [] := by
  match rows, short with
  | [], _ => exact apply_nil window
  | [x], _ =>
      have mapped := apply_map window (fun _ => x) [()]
      have few := length_apply_le window [()]
      match window.apply [()], drops, few, mapped with
      | [], _, _, mapped => exact mapped
      | [()], drops, _, _ => exact absurd rfl drops
      | _ :: _ :: _, _, few, _ => simp at few

end Window

/-! ## Merging rows with a single value -/

section Merging

variable {R : Type} [ResultRow R] (form : RowForm R) {results : List (List Value)}

theorem scalars_rows :
    scalars (results.map (·.map form.row)) = results.flatten.filter (!·.isNull) := by
  simp only [scalars, ← List.map_flatten, List.filterMap_map, Function.comp_def, form.scalar_row,
    List.filterMap_some]

theorem singleRow_rows (results : List (List Value)) (total : Value) :
    ∃ row, singleRow (results.map (·.map form.row)) total = .listed [row] ∧
      (results.flatten ≠ [] → row = form.row total) := by
  unfold singleRow
  rw [← List.map_flatten]
  cases results.flatten with
  | nil => exact ⟨_, rfl, fun some_row => absurd rfl some_row⟩
  | cons v rest => exact ⟨_, rfl, fun _ => form.withScalar_row v total⟩

theorem merge_rows {asked : AggregateQuery} {mapper : ColumnMapper} (several : 2 ≤ results.length) :
    merge (results.map (·.map form.row)) (.select asked.query) mapper asked.bindings =
      (reduce asked.call.kind (results.flatten.filter (!·.isNull))).map fun total =>
        some (singleRow (results.map (·.map form.row)) total) := by
  have strategy : MergeStrategy.ofStatement (.select asked.query) = .aggregate asked.call.kind :=
    MergeStrategy.ofSelect_eq_aggregate_iff.mpr ⟨_, asked.call_found, rfl⟩
  rw [← scalars_rows form]
  exact merge_aggregate (by simpa using several) strategy mapper asked.bindings

/-- The answers are merged to one row with the reduction of their values. -/
theorem exists_merged_row {asked : AggregateQuery} (mapper : ColumnMapper) {total : Value}
    (several : 2 ≤ results.length)
    (reduced : reduce asked.call.kind (results.flatten.filter (!·.isNull)) = .ok total) :
    ∃ row, merge (results.map (·.map form.row)) (.select asked.query) mapper asked.bindings =
        .ok (some (.listed [row])) ∧ (results.flatten ≠ [] → row = form.row total) := by
  obtain ⟨row, listed, labelled⟩ := singleRow_rows form results total
  refine ⟨row, ?_, labelled⟩
  rw [merge_rows form several, reduced, Except.map, listed]

end Merging

namespace AggregateQuery

variable {asked : AggregateQuery} {db : Database}

/-! ## One answer for all records -/

theorem kept_iff_of_short {distinct : Bool} {values kept : List Value} (short : values.length ≤ 1) :
    (if distinct then Represents values kept else kept = values) ↔ kept = values := by
  cases distinct with
  | false => rfl
  | true =>
      match values, short with
      | [], _ =>
          refine ⟨Represents.eq_nil, ?_⟩
          rintro rfl
          exact represents_representatives ⟨by simp, by simp⟩
      | [v], _ =>
          refine ⟨fun represents => represents.eq_singleton (by simp) (by simp), ?_⟩
          rintro rfl
          exact .singleton v

/-- At most one row is the answer as far as it is in the window. -/
theorem isAnswer_of_values {contents : List Record} {parts : List (List Record)}
    {values : List Value}
    (grouping : IsGrouping
      (fun record => (asked.reading db contents record).values asked.query.groups)
      asked.query.groups.isEmpty (asked.chosen db contents) parts)
    (reduced : List.Forall₂ (fun part v =>
      IsReduction asked.call.kind asked.call.distinct (asked.operands db contents part) v)
      (parts.filter (asked.passes db)) values)
    (short : values.length ≤ 1) : asked.IsAnswer db contents (asked.window.apply values) :=
  ⟨parts, values, values, values, grouping, reduced, (kept_iff_of_short short).mpr rfl, .refl _,
    rfl⟩

section OneGroup

variable (ungrouped : asked.query.groups = [])

include ungrouped

theorem isGrouping_iff {keys : Record → List Value} {records : List Record}
    {parts : List (List Record)} :
    IsGrouping keys asked.query.groups.isEmpty records parts ↔ parts = [records] := by
  simp [IsGrouping, ungrouped]

/-- Where the one group passes and its row is in the window, that row is the answer. -/
theorem isAnswer_iff {contents : List Record} {answer : List Value}
    (windowed : asked.window.apply [()] = [()])
    (passing : asked.passes db (asked.chosen db contents) = true) :
    asked.IsAnswer db contents answer ↔ ∃ v, answer = [v] ∧
      IsReduction asked.call.kind asked.call.distinct
        (asked.operands db contents (asked.chosen db contents)) v := by
  simp only [IsAnswer, isGrouping_iff ungrouped]
  constructor
  · rintro ⟨_, values, kept, arranged, rfl, reduced, once, perm, rfl⟩
    rw [List.filter_cons_of_pos passing, List.filter_nil] at reduced
    obtain ⟨v, _, here, none, rfl⟩ := List.forall₂_cons_left_iff.mp reduced
    obtain rfl := List.forall₂_nil_left_iff.mp none
    obtain rfl := (kept_iff_of_short (by simp)).mp once
    rw [List.perm_singleton.mp perm, Window.apply_singleton windowed]
    exact ⟨v, rfl, here⟩
  · rintro ⟨v, rfl, here⟩
    have short : [v].length ≤ 1 := by simp
    have answers := isAnswer_of_values ((isGrouping_iff ungrouped).mpr rfl)
      (by rw [List.filter_cons_of_pos passing, List.filter_nil]; exact .cons here .nil) short
    rw [Window.apply_singleton windowed] at answers
    simpa only [IsAnswer, isGrouping_iff ungrouped] using answers

/-- Where the one group does not pass, there is no row. -/
theorem isAnswer_iff_of_stopped {contents : List Record} {answer : List Value}
    (stopped : asked.passes db (asked.chosen db contents) = false) :
    asked.IsAnswer db contents answer ↔ answer = [] := by
  have no_part : [asked.chosen db contents].filter (asked.passes db) = [] := by simp [stopped]
  constructor
  · rintro ⟨_, values, kept, arranged, grouping, reduced, once, perm, rfl⟩
    obtain rfl := (isGrouping_iff ungrouped).mp grouping
    rw [no_part] at reduced
    obtain rfl := List.forall₂_nil_left_iff.mp reduced
    obtain rfl := (kept_iff_of_short (by simp)).mp once
    rw [List.perm_nil.mp perm, Window.apply_nil]
  · rintro rfl
    have short : ([] : List Value).length ≤ 1 := Nat.zero_le 1
    have answers := isAnswer_of_values ((isGrouping_iff ungrouped).mpr rfl)
      (by rw [no_part]; exact .nil) short
    rwa [Window.apply_nil] at answers

end OneGroup

/-! ## Answers that are merged to the answer of the whole -/

variable {R : Type} [ResultRow R]

theorem mem_operands {contents records : List Record} {v : Value} :
    v ∈ asked.operands db contents records ↔
      ∃ record ∈ records, asked.call.operand (asked.recordReading db record) = v ∧
        v.isNull = false := by
  rw [operands_eq, List.mem_filter, List.mem_map]
  constructor
  · rintro ⟨⟨record, member, rfl⟩, something⟩
    exact ⟨record, member, rfl, by simpa using something⟩
  · rintro ⟨record, member, rfl, something⟩
    exact ⟨⟨record, member, rfl⟩, by simpa using something⟩

theorem Recombines.passes_chosen (recombines : asked.Recombines db) {records : List Record}
    (suits : Suits asked.call.kind asked.call.distinct
      (asked.operands db records (asked.chosen db records))) :
    asked.passes db (asked.chosen db records) = true := by
  apply recombines.passing
  · intro record member
    rw [chosen_eq, List.mem_filter, decide_eq_true_eq] at member
    exact meets_reading.mpr member.2
  · have same : asked.operands db (asked.chosen db records) (asked.chosen db records) =
        asked.operands db records (asked.chosen db records) := by
      rw [operands_eq, operands_eq]
    rwa [same]

theorem Recombines.idle_operands (recombines : asked.Recombines db)
    (distinct : asked.call.distinct = true) {records : List Record} {v : Value}
    (member : v ∈ asked.operands db records (asked.chosen db records)) :
    Idle asked.call.kind v := by
  obtain ⟨record, chosen, same, something⟩ := mem_operands.mp member
  rw [chosen_eq, List.mem_filter, decide_eq_true_eq] at chosen
  apply recombines.idle distinct record (meets_reading.mpr chosen.2)
  exact mem_operands.mpr ⟨record, List.mem_singleton_self _, same, something⟩

/-- Every shard answers one value. -/
theorem exists_reductions (ungrouped : asked.query.groups = [])
    (windowed : asked.window.apply [()] = [()]) {shards : List (List Record)}
    {answers : List (List Value)} (each : List.Forall₂ (asked.IsAnswer db) shards answers)
    (passing : ∀ records ∈ shards, asked.passes db (asked.chosen db records) = true) :
    ∃ values, answers = values.map ([·]) ∧
      List.Forall₂ (IsReduction asked.call.kind asked.call.distinct)
        (shards.map fun records => asked.operands db records (asked.chosen db records)) values := by
  induction each with
  | nil => exact ⟨[], rfl, .nil⟩
  | @cons records answer shards answers here _ ih =>
      obtain ⟨values, rfl, reduced⟩ := ih fun r member => passing r (List.mem_cons_of_mem _ member)
      obtain ⟨v, rfl, reduction⟩ :=
        (isAnswer_iff ungrouped windowed (passing records List.mem_cons_self)).mp here
      exact ⟨v :: values, rfl, .cons reduction reduced⟩

theorem mergesWhole_of_recombines (no_average : asked.call.kind ≠ .avg)
    (recombines : asked.Recombines db) (form : RowForm R) (mapper : ColumnMapper) :
    asked.MergesWhole db form mapper := by
  intro shards answers several suits each no_overflow
  have passing : ∀ records ∈ shards, asked.passes db (asked.chosen db records) = true := by
    intro records member
    apply recombines.passes_chosen
    apply suits.of_subset
    intro v inside
    rw [operands_flatten]
    exact List.mem_flatten.mpr ⟨_, List.mem_map_of_mem member, inside⟩
  obtain ⟨values, rfl, reduced⟩ :=
    exists_reductions recombines.ungrouped recombines.windowed each passing
  have enough : 2 ≤ (values.map ([·])).length := each.length_eq ▸ several
  have single : (values.map ([·])).flatten = values := by
    simp [← List.flatMap_def]
  have whole : asked.operands db shards.flatten (asked.chosen db shards.flatten) =
      (shards.map fun records => asked.operands db records (asked.chosen db records)).flatten :=
    operands_flatten shards
  have something : ∀ v ∈ asked.operands db shards.flatten (asked.chosen db shards.flatten),
      v.isNull = false := fun v member => isNull_of_mem_operands member
  have idle : asked.call.distinct = true →
      ∀ v ∈ asked.operands db shards.flatten (asked.chosen db shards.flatten),
        Idle asked.call.kind v :=
    fun distinct v member => recombines.idle_operands distinct member
  have passing_whole := recombines.passes_chosen suits
  rw [whole] at suits something idle
  -- Either the values of the shards overflow, which is excluded, or they reduce to that of all the
  -- rows.
  rcases reduce_parts no_average suits something idle reduced with
    ⟨tally, overflow⟩ | ⟨total, found, reduction⟩
  · refine absurd ?_ (no_overflow tally)
    rw [merge_rows form enough, single, overflow]
    rfl
  · rw [← single] at found
    obtain ⟨row, merged, labelled⟩ := exists_merged_row form mapper enough found
    have row_is : row = form.row total := by
      apply labelled
      rw [single]
      rintro rfl
      simp at enough
    refine ⟨.listed [row], [total], merged, ?_, ?_⟩
    · rw [row_is]
      exact .refl _
    · exact (isAnswer_iff recombines.ungrouped recombines.windowed passing_whole).mpr
        ⟨total, rfl, whole ▸ reduction⟩

/-! ## Answers that are not -/

/-- What an aggregate answers over no values. -/
def blank : Aggregate → Value
  | .count => .integer (.ofInt64 0)
  | _ => .null

theorem isReduction_blank {kind : Aggregate} {distinct : Bool} (no_average : kind ≠ .avg) :
    IsReduction kind distinct [] (blank kind) := by
  refine ⟨[], ?_, ?_⟩
  · split
    · exact represents_representatives ⟨by simp, by simp⟩
    · rfl
  · cases kind <;> first | rfl | exact absurd rfl no_average

theorem suits_nil (kind : Aggregate) (distinct : Bool) : Suits kind distinct [] := by
  cases kind with
  | count | avg => trivial
  | sum => exact .inl (by simp [AllExact])
  | max | min => exact ⟨by simp, by simp⟩

theorem exists_reduced_blanks {kind : Aggregate} (no_average : kind ≠ .avg) {a b : List Value}
    (left : a = [] ∨ a = [blank kind]) (right : b = [] ∨ b = [blank kind]) :
    ∃ total, reduce kind ((a ++ b).filter (!·.isNull)) = .ok total := by
  rcases left with rfl | rfl <;> rcases right with rfl | rfl <;> cases kind <;>
    first | exact absurd rfl no_average | exact ⟨_, rfl⟩

/-- Without keys there is at most one row to answer. -/
theorem short_of_isAnswer (ungrouped : asked.query.groups = []) {contents : List Record}
    {answer : List Value} (answers : asked.IsAnswer db contents answer) :
    ∃ values, answer = asked.window.apply values ∧ values.length ≤ 1 := by
  cases passing : asked.passes db (asked.chosen db contents) with
  | false =>
      obtain rfl := (isAnswer_iff_of_stopped ungrouped passing).mp answers
      exact ⟨[], (Window.apply_nil _).symm, Nat.zero_le 1⟩
  | true =>
      obtain ⟨parts, values, kept, arranged, grouping, reduced, once, perm, rfl⟩ := answers
      obtain rfl := (isGrouping_iff ungrouped).mp grouping
      rw [List.filter_cons_of_pos passing, List.filter_nil] at reduced
      obtain ⟨v, _, _, none, rfl⟩ := List.forall₂_cons_left_iff.mp reduced
      obtain rfl := List.forall₂_nil_left_iff.mp none
      obtain rfl := (kept_iff_of_short (by simp)).mp once
      exact ⟨arranged, rfl, by simp [List.perm_singleton.mp perm]⟩

/-- There is no group of no records. -/
theorem eq_nil_of_grouped (grouped : asked.query.groups ≠ []) {answer : List Value}
    (answers : asked.IsAnswer db [] answer) : answer = [] := by
  obtain ⟨parts, values, kept, arranged, grouping, reduced, once, perm, rfl⟩ := answers
  have keyed : asked.query.groups.isEmpty = false := by simpa using grouped
  rw [IsGrouping, keyed] at grouping
  obtain ⟨flat, nonempty, _⟩ := grouping
  have empty : parts.flatten = [] := List.perm_nil.mp flat
  obtain rfl : parts = [] := by
    rw [List.eq_nil_iff_forall_not_mem]
    intro part member
    exact nonempty part member (List.flatten_eq_nil_iff.mp empty part member)
  obtain rfl := List.forall₂_nil_left_iff.mp reduced
  obtain rfl := (kept_iff_of_short (by simp)).mp once
  rw [List.perm_nil.mp perm, Window.apply_nil]

/-- Over no records there is an answer: no row, or one that says that there is nothing. -/
theorem exists_blank_answer (db : Database) (no_average : asked.call.kind ≠ .avg) :
    ∃ answer, asked.IsAnswer db [] answer ∧ (answer = [] ∨ answer = [blank asked.call.kind]) := by
  by_cases ungrouped : asked.query.groups = []
  · cases passing : asked.passes db (asked.chosen db []) with
    | true =>
        have short : [blank asked.call.kind].length ≤ 1 := by simp
        refine ⟨_, isAnswer_of_values ((isGrouping_iff ungrouped).mpr rfl) ?_ short, ?_⟩
        · rw [List.filter_cons_of_pos passing, List.filter_nil]
          exact .cons (isReduction_blank no_average) .nil
        · by_cases windowed : asked.window.apply [()] = [()]
          · exact .inr (Window.apply_singleton windowed _)
          · exact .inl (Window.apply_of_short windowed (by simp))
    | false => exact ⟨[], (isAnswer_iff_of_stopped ungrouped passing).mpr rfl, .inl rfl⟩
  · have keyed : asked.query.groups.isEmpty = false := by simpa using ungrouped
    have grouping : IsGrouping
        (fun record => (asked.reading db [] record).values asked.query.groups)
        asked.query.groups.isEmpty (asked.chosen db []) [] := by
      rw [IsGrouping, keyed]
      exact ⟨.refl _, by simp, by simp, .nil⟩
    exact ⟨_, isAnswer_of_values grouping .nil (Nat.zero_le 1), .inl (Window.apply_nil _)⟩

/-- Two answers that are merged at all are merged to the single row of an answer to the whole. -/
theorem MergesWhole.exists_answer {form : RowForm R} {mapper : ColumnMapper}
    (merges : asked.MergesWhole db form mapper) {left right : List Record} {a b : List Value}
    {total : Value}
    (suits : Suits asked.call.kind asked.call.distinct
      (asked.operands db (left ++ right) (asked.chosen db (left ++ right))))
    (left_answer : asked.IsAnswer db left a) (right_answer : asked.IsAnswer db right b)
    (reduced : reduce asked.call.kind ((a ++ b).filter (!·.isNull)) = .ok total) :
    ∃ v, asked.IsAnswer db (left ++ right) [v] ∧ (a ++ b ≠ [] → v = total) := by
  have both : [left, right].flatten = left ++ right := by simp
  have answers : [a, b].flatten = a ++ b := by simp
  rw [← answers] at reduced ⊢
  obtain ⟨row, merged, labelled⟩ := exists_merged_row form mapper (by simp) reduced
  obtain ⟨rows, answer, found, perm, whole⟩ := merges [left, right] [a, b] (by simp)
    (both.symm ▸ suits) (.cons left_answer (.cons right_answer .nil))
    (fun tally overflow => by rw [merged] at overflow; cases overflow)
  rw [merged, Except.ok.injEq, Option.some.injEq] at found
  subst found
  have mapped : answer.map form.row = [row] := List.perm_singleton.mp perm.symm
  obtain ⟨v, rfl, row_is⟩ := List.map_eq_singleton_iff.mp mapped
  refine ⟨v, both ▸ whole, fun some_row => ?_⟩
  have same := congrArg ResultRow.scalar? (row_is.trans (labelled some_row))
  simpa only [form.scalar_row, Option.some.injEq] using same

section Converse

variable {form : RowForm R} {mapper : ColumnMapper} (no_average : asked.call.kind ≠ .avg)
  (merges : asked.MergesWhole db form mapper)

include no_average merges

/-- Two shards without records are merged to one row. -/
theorem exists_answer_of_nothing : ∃ v, asked.IsAnswer db [] [v] := by
  obtain ⟨answer, answers, blanks⟩ := exists_blank_answer db no_average
  obtain ⟨total, reduced⟩ := exists_reduced_blanks no_average blanks blanks
  have suits : Suits asked.call.kind asked.call.distinct
      (asked.operands db ([] ++ []) (asked.chosen db ([] ++ []))) := by
    simpa [operands, chosen] using suits_nil _ _
  obtain ⟨v, whole, _⟩ := merges.exists_answer suits answers answers reduced
  exact ⟨v, whole⟩

theorem MergesWhole.ungrouped : asked.query.groups = [] := by
  obtain ⟨v, answers⟩ := exists_answer_of_nothing no_average merges
  by_contra grouped
  exact absurd (eq_nil_of_grouped grouped answers) (by simp)

theorem MergesWhole.windowed : asked.window.apply [()] = [()] := by
  obtain ⟨v, answers⟩ := exists_answer_of_nothing no_average merges
  obtain ⟨values, same, short⟩ := short_of_isAnswer (merges.ungrouped no_average) answers
  by_contra drops
  rw [Window.apply_of_short drops short] at same
  cases same

/-- A shard whose records do not pass, beside one without records. -/
theorem MergesWhole.passing {records : List Record}
    (chosen_all : asked.chosen db records = records)
    (suits : Suits asked.call.kind asked.call.distinct (asked.operands db records records)) :
    asked.passes db records = true := by
  by_contra not_passing
  have stopped : asked.passes db (asked.chosen db records) = false := by
    rwa [chosen_all, ← Bool.not_eq_true]
  have no_row (answer : List Value) : asked.IsAnswer db records answer ↔ answer = [] :=
    isAnswer_iff_of_stopped (merges.ungrouped no_average) stopped
  obtain ⟨answer, answers, blanks⟩ := exists_blank_answer db no_average
  obtain ⟨total, reduced⟩ := exists_reduced_blanks no_average (.inl rfl) blanks
  obtain ⟨v, whole, _⟩ := merges.exists_answer
    (by rwa [List.append_nil, chosen_all]) ((no_row []).mpr rfl) answers reduced
  rw [List.append_nil, no_row] at whole
  cases whole

/-- One record in each of two shards. -/
theorem MergesWhole.idle (distinct : asked.call.distinct = true) {record : Record}
    (meets : (asked.recordReading db record).Meets asked.query.condition) {v : Value}
    (member : v ∈ asked.operands db [record] [record]) : Idle asked.call.kind v := by
  have windowed := merges.windowed no_average
  have ungrouped := merges.ungrouped no_average
  obtain ⟨r, here, operand, something⟩ := mem_operands.mp member
  obtain rfl := List.mem_singleton.mp here
  by_contra not_idle
  obtain ⟨answer, total, reduction, present, suits, reduced, twice⟩ := reduce_twice not_idle
  have one : asked.chosen db [r] = [r] := by simp [chosen_eq, meets]
  have two : asked.chosen db [r, r] = [r, r] := by simp [chosen_eq, meets]
  have one_operand : asked.operands db [r] [r] = [v] := by simp [operands_eq, operand, something]
  have two_operands : asked.operands db [r, r] [r, r] = [v, v] := by
    simp [operands_eq, operand, something]
  have passes_one : asked.passes db (asked.chosen db [r]) = true := by
    rw [one]
    apply merges.passing no_average one
    rw [one_operand, distinct]
    exact suits.of_subset (by simp)
  have passes_two : asked.passes db (asked.chosen db [r, r]) = true := by
    rw [two]
    apply merges.passing no_average two
    rwa [two_operands, distinct]
  have answers : asked.IsAnswer db [r] [answer] := by
    rw [isAnswer_iff ungrouped windowed passes_one, one, one_operand, distinct]
    exact ⟨answer, rfl, reduction⟩
  have suits_two : Suits asked.call.kind asked.call.distinct
      (asked.operands db ([r] ++ [r]) (asked.chosen db ([r] ++ [r]))) := by
    simpa only [List.cons_append, List.nil_append, two, two_operands, distinct] using suits
  have reduced_two :
      reduce asked.call.kind (([answer] ++ [answer]).filter (!·.isNull)) = .ok total := by
    simpa [present] using reduced
  obtain ⟨w, whole, same⟩ := merges.exists_answer suits_two answers answers reduced_two
  obtain rfl := same (by simp)
  obtain ⟨u, is, reduced_whole⟩ := (isAnswer_iff ungrouped windowed passes_two).mp whole
  rw [two, two_operands, distinct] at reduced_whole
  cases is
  exact twice reduced_whole

end Converse

/-- A query for a count, a sum or an extreme is merged to its answer over the whole table, however
the table is split, exactly if the query recombines: no groups, a condition on groups and a window
that let the one row pass, and `DISTINCT` only before values that may as well come twice. -/
theorem mergesWhole_iff {kind : Aggregate}
    (strategy : MergeStrategy.ofStatement (.select asked.query) = .aggregate kind)
    (no_average : kind ≠ .avg) (form : RowForm R) (mapper : ColumnMapper) :
    asked.MergesWhole db form mapper ↔ asked.Recombines db := by
  obtain ⟨call, found, rfl⟩ := MergeStrategy.ofSelect_eq_aggregate_iff.mp strategy
  obtain rfl : asked.call = call := Option.some.inj (asked.call_found.symm.trans found)
  constructor
  · intro merges
    constructor
    · exact merges.ungrouped no_average
    · exact merges.windowed no_average
    · intro records meets suits
      refine merges.passing no_average ?_ suits
      rw [chosen_eq, List.filter_eq_self]
      exact fun record member => by simpa using meets_reading.mp (meets record member)
    · intro distinct record meets v member
      exact merges.idle no_average distinct (meets_reading.mp meets) member
  · exact fun recombines => mergesWhole_of_recombines no_average recombines form mapper

/-! ## Distinct values of one column -/

/-- What an aggregate makes of the distinct values of `x`, which stands at the place. -/
def distinctX (kind : Aggregate) (place : Span) : AggregateQuery where
  query := Select.ofItems [⟨.call kind.spelling [.column none "x" place] true, none⟩]
    (some (.bare "t"))
  bindings := .empty
  call := ⟨kind, [.column none "x" place], true⟩
  table := "t"
  window := ⟨0, none⟩
  call_found := by cases kind <;> with_unfolding_all rfl
  table_found := rfl
  window_found := rfl
  plain_items := by simp [Select.ofItems, Expr.subqueries, listSubqueries]
  plain_condition := by simp [Select.ofItems]
  plain_groups := rfl
  plain_having := by simp [Select.ofItems]

theorem mergesWhole_of_max :
    Statement.parse "SELECT MAX(DISTINCT x) FROM t" =
        .ok (.select (distinctX .max ⟨20, 21⟩).query) ∧
      ∀ db, (distinctX .max ⟨20, 21⟩).MergesWhole db (RowForm.labelled "m") .identity := by
  refine ⟨by with_unfolding_all rfl, fun db => ?_⟩
  have strategy : MergeStrategy.ofStatement (.select (distinctX .max ⟨20, 21⟩).query) =
      .aggregate .max := by
    with_unfolding_all rfl
  refine (mergesWhole_iff strategy (by decide) _ _).mpr ?_
  constructor
  · rfl
  · rfl
  · exact fun _ _ _ => rfl
  · exact fun _ _ _ _ _ => trivial

/-- Nothing comes of anything in this database, apart from the columns of its table. -/
instance : Inhabited Database where
  default := ⟨default, fun _ _ => .null, fun _ _ => false, fun _ _ => false⟩

def oneX : Record :=
  fun _ => some (.integer (.ofInt64 1))

/-- Two shards with the same value count it twice. -/
theorem merge_counts_twice :
    Statement.parse "SELECT COUNT(DISTINCT x) FROM t" =
        .ok (.select (distinctX .count ⟨22, 23⟩).query) ∧
      (distinctX .count ⟨22, 23⟩).IsAnswer default [oneX] [.integer (.ofInt64 1)] ∧
      merge [[(RowForm.labelled "n").row (.integer (.ofInt64 1))],
          [(RowForm.labelled "n").row (.integer (.ofInt64 1))]]
          (.select (distinctX .count ⟨22, 23⟩).query) .identity .empty =
        .ok (some (.listed [(RowForm.labelled "n").row (.integer (.ofInt64 2))])) ∧
      ¬ (distinctX .count ⟨22, 23⟩).IsAnswer default [oneX, oneX] [.integer (.ofInt64 2)] := by
  have one_operand : (distinctX .count ⟨22, 23⟩).operands default [oneX]
      ((distinctX .count ⟨22, 23⟩).chosen default [oneX]) = [.integer (.ofInt64 1)] := by
    with_unfolding_all rfl
  have two_operands : (distinctX .count ⟨22, 23⟩).operands default [oneX, oneX]
      ((distinctX .count ⟨22, 23⟩).chosen default [oneX, oneX]) =
        [.integer (.ofInt64 1), .integer (.ofInt64 1)] := by
    with_unfolding_all rfl
  refine ⟨by with_unfolding_all rfl, ?_, by with_unfolding_all rfl, ?_⟩
  · rw [isAnswer_iff rfl rfl rfl, one_operand]
    exact ⟨_, rfl, [.integer (.ofInt64 1)], .singleton _, rfl⟩
  · rw [isAnswer_iff rfl rfl rfl, two_operands]
    rintro ⟨_, same, kept, represents, counted⟩
    obtain rfl := List.head_eq_of_cons_eq same
    rw [represents.eq_singleton (v := .integer (.ofInt64 1)) (by simp) (by simp)] at counted
    exact absurd (Option.some.inj counted : (2 : Int) = 1) (by decide)

end AggregateQuery

end ShardedSql
