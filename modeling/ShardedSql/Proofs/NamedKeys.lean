import ShardedSql.Proofs.LetterFold
import ShardedSql.Proofs.OrderedMerge

/-!
The item that an expression of `ORDER BY` names, and the value that rows are compared by. A row is
asked for the label of the item, so that of several items with one label only the first is ever
found. Main statement: apart from those, rows are compared by their values for the named items.
-/

namespace ShardedSql

open Sql Text SortKey

/-! ## Items by their positions -/

/-- The item, counted from 0, that an expression of `ORDER BY` means: the one at its position, or
the first with its qualifier and its name. Where no item has both, the name alone counts. -/
inductive Names (query : Select) : Expr → Nat → Prop
  | position {e : Expr} {n : Int64} {i : Nat} (written : e.unparenthesized = .literal (.integer n))
      (counted : n.toInt = i + 1) (projected : i < query.items.length) : Names query e i
  | column {e : Expr} {table name : String} {place : Span} {i : Nat}
      (written : e.unparenthesized = .column (some table) name place)
      (first : query.items.findIdx? (fun item => isColumnNamed name item && isColumnOf table item) =
        some i) : Names query e i
  | fallback {e : Expr} {table name : String} {place : Span} {i : Nat}
      (written : e.unparenthesized = .column (some table) name place)
      (unqualified : ∀ item ∈ query.items, isColumnNamed name item = true →
        isColumnOf table item = false)
      (first : query.items.findIdx? (isColumnNamed name) = some i) : Names query e i

/-- The label that rows carry for the item at a position. -/
def labelAt (query : Select) (mapper : ColumnMapper) (i : Nat) : Option String :=
  (query.items[i]?.bind projectedName).map mapper

/-- No item before this one has its label, in whatever case. -/
def Unshadowed (query : Select) (mapper : ColumnMapper) (i : Nat) : Prop :=
  ∀ j < i, ∀ earlier ∈ labelAt query mapper j, ∀ label ∈ labelAt query mapper i,
    sameWord earlier label = false

/-- A row has one value for each item, under the name of the item as the mapper spells it. -/
def CarriesItems (query : Select) (mapper : ColumnMapper) (row : Row) : Prop :=
  row.columns.map (fun column => some column.1) =
    query.items.map fun item => (projectedName item).map mapper

variable {query : Select} {mapper : ColumnMapper} {e : Expr} {i : Nat} {name table : String}

/-! ## The item that is named -/

theorem projectedColumn_of_both
    (first : query.items.findIdx? (fun item => isColumnNamed name item && isColumnOf table item) =
      some i) : projectedColumn query (some table) name = query.items[i]? := by
  obtain ⟨projected, -, -⟩ := List.findIdx?_eq_some_iff_getElem.mp first
  -- Of the items with the name, the first with the qualifier is the first of all with both.
  have found : (query.items.filter (isColumnNamed name)).find? (isColumnOf table) =
      some query.items[i] := by
    rw [List.find?_filter, List.find?_eq_bind_findIdx?_getElem?]
    simp [first, projected]
  simp [projectedColumn, found, projected]

theorem projectedColumn_of_name
    (unqualified : ∀ item ∈ query.items, isColumnNamed name item = true →
      isColumnOf table item = false)
    (first : query.items.findIdx? (isColumnNamed name) = some i) :
    projectedColumn query (some table) name = query.items[i]? := by
  have none_found : (query.items.filter (isColumnNamed name)).find? (isColumnOf table) = none := by
    simpa [List.find?_eq_none] using unqualified
  simp [projectedColumn, none_found, List.head?_filter, List.find?_eq_bind_findIdx?_getElem?, first]

/-- The name for a named item is that of the item. -/
theorem Names.nameFor_eq (names : Names query e i)
    (projects : query.items[i]?.bind projectedName = some name) :
    nameFor query e = .ok name := by
  cases names with
  | position written counted projected =>
      have here : itemAt? query (i + 1) = query.items[i]? := by
        simp [itemAt?, show (0 : Int) < i + 1 by omega]
      simp [nameFor, written, counted, here, projects]
  | column written first =>
      simp [nameFor, written, labelNamed?, projectedColumn_of_both first, projects]
  | fallback written unqualified first =>
      simp [nameFor, written, labelNamed?, projectedColumn_of_name unqualified first, projects]

theorem Names.lt_length (names : Names query e i) : i < query.items.length := by
  cases names with
  | position _ _ projected => exact projected
  | column _ first => exact (List.findIdx?_eq_some_iff_getElem.mp first).1
  | fallback _ _ first => exact (List.findIdx?_eq_some_iff_getElem.mp first).1

/-! ## The value that is found -/

theorem CarriesItems.length_eq {row : Row} (carries : CarriesItems query mapper row) :
    row.columns.length = query.items.length := by
  simpa using congrArg List.length carries

theorem labelAt_eq {row : Row} (carries : CarriesItems query mapper row) :
    labelAt query mapper i = row.columns[i]?.map (·.1) := by
  have here := congrArg (·[i]?) carries
  simp only [List.getElem?_map] at here
  cases column : row.columns[i]? <;> cases item : query.items[i]? <;>
    simp_all [labelAt]

/-- Asked for the label of an item, a row gives the value it has for the item. -/
theorem valueIn_labelAt {row : Row} {label : String} {direction : Direction}
    (carries : CarriesItems query mapper row) (unshadowed : Unshadowed query mapper i)
    (labelled : labelAt query mapper i = some label) :
    ∃ v, row.columns[i]?.map (·.2) = some v ∧ valueIn row ⟨label, direction⟩ = .ok v := by
  have here := labelled
  rw [labelAt_eq carries, Option.map_eq_some_iff] at here
  obtain ⟨⟨own, v⟩, at_place, rfl⟩ := here
  obtain ⟨inside, at_index⟩ := List.getElem?_eq_some_iff.mp at_place
  -- The search starts at the first column: the columns before this one must not answer.
  have first : row.columns.find? (fun column => sameWord column.1 own) = some (own, v) := by
    refine List.find?_eq_some_iff_getElem.mpr ⟨sameWord_self _, i, inside, at_index, ?_⟩
    intro j before
    have earlier : labelAt query mapper j = some row.columns[j].1 := by
      simp [labelAt_eq carries, List.getElem?_eq_getElem (before.trans inside)]
    simp [unshadowed j before _ earlier _ labelled]
  refine ⟨v, by simp [at_place], ?_⟩
  simp [valueIn, ResultRow.property?, Row.get?, first]

/-! ## The values that are compared -/

/-- Among the values of a row, one for each expression of `ORDER BY`, stands the value of every item
that is named and that no earlier item shadows. -/
def HoldsNamed (query : Select) (mapper : ColumnMapper) (own : KeyedRow Row) : Prop :=
  List.Forall₂ (fun item v => ∀ i, Names query item.expr i → Unshadowed query mapper i →
    own.row.columns[i]?.map (·.2) = some v) query.order own.values

theorem holdsNamed_of_attachKeys {keys : List SortKey} {row : Row} {own : KeyedRow Row}
    (keys_found : SortKey.ofQuery query mapper = .ok keys)
    (carries : CarriesItems query mapper row) (attached : attachKeys keys row = .ok own) :
    own.row = row ∧ HoldsNamed query mapper own := by
  obtain ⟨values, looked_up, same⟩ := bind_eq_ok.mp attached
  cases same
  refine ⟨rfl, (mapM_eq_ok.mp (mapM_bind_eq_ok keys_found looked_up)).imp ?_⟩
  intro item v found i names unshadowed
  obtain ⟨key, key_found, value_found⟩ := bind_eq_ok.mp found
  obtain ⟨name, named, same⟩ := bind_eq_ok.mp key_found
  cases same
  -- A row that carries the items has a label for each of them.
  obtain ⟨label, labelled⟩ : ∃ label, labelAt query mapper i = some label := by
    have inside : i < row.columns.length := by
      rw [carries.length_eq]
      exact names.lt_length
    exact ⟨_, by rw [labelAt_eq carries, List.getElem?_eq_getElem inside]; rfl⟩
  obtain ⟨own_name, projects, rfl⟩ := Option.map_eq_some_iff.mp labelled
  rw [names.nameFor_eq projects, Except.ok.injEq] at named
  subst named
  obtain ⟨own, own_value, own_found⟩ := valueIn_labelAt carries unshadowed labelled
  rw [own_found, Except.ok.injEq] at value_found
  exact value_found ▸ own_value

section Merging

variable {results : List (List Row)} {bindings : Bindings} {answer : Option (MergedRows Row)}

/-- An ordered merge sorts the rows by values that it attaches to them. Each is the value of the
named item, unless an earlier item shadows it. -/
theorem merge_compares_named (several : 2 ≤ results.length)
    (ordered : MergeStrategy.ofSelect query = .ordered)
    (carries : ∀ row ∈ results.flatten, CarriesItems query mapper row)
    (merges : merge results (.select query) mapper bindings = .ok answer) :
    ∃ (keys : List SortKey) (keyed : List (KeyedRow Row)) (window : Window),
      Window.resolve bindings query = .ok window ∧
      keys.map (·.direction) = query.order.map (·.direction) ∧
      keyed.map (·.row) = results.flatten ∧ (∀ own ∈ keyed, HoldsNamed query mapper own) ∧
      answer = some (.listed (window.apply
        ((stableSort (fun a b => compareAll keys a.values b.values) keyed).map (·.row)))) := by
  rw [merge_ordered several ordered] at merges
  obtain ⟨rows, merged_rows, rfl⟩ := map_eq_ok.mp merges
  obtain ⟨keys, offset, count, sorted, keys_found, offset_found, count_found, sorts, rfl⟩ :=
    mergeOrdered_eq_ok merged_rows
  obtain ⟨keyed, attached, same⟩ := bind_eq_ok.mp sorts
  cases same
  refine ⟨keys, keyed, _, ?_, ?_, ?_, ?_, rfl⟩
  · simp [Window.resolve, offset_found, count_found, bind, Except.bind, pure, Except.pure]
  · refine map_eq_map_of_mapM keys_found fun item key found => ?_
    obtain ⟨name, _, same⟩ := bind_eq_ok.mp found
    cases same
    rfl
  · rw [← List.map_id results.flatten]
    refine map_eq_map_of_mapM attached fun row own found => ?_
    obtain ⟨values, _, same⟩ := bind_eq_ok.mp found
    cases same
    rfl
  · intro own member
    obtain ⟨row, row_in, found⟩ := exists_of_mem_mapM attached member
    exact (holdsNamed_of_attachKeys keys_found (carries row row_in) found).2

end Merging

/-! ## Two tables with one name for a column -/

/-- Items of `u JOIN o USING (k)`, ordered by an expression. -/
def joined (items : List SelectItem) (key : Expr) : Select :=
  { Select.ofItems items (some (.join (.bare "u") .inner (.bare "o") none ["k"])) with
    order := [⟨key, .ascending⟩] }

/-- `u.id` and `o.id` under labels of their own, ordered by `o.id`. -/
def labelledPairs : Select :=
  joined [⟨.column (some "u") "id" ⟨7, 11⟩, some "a"⟩, ⟨.column (some "o") "id" ⟨18, 22⟩, some "b"⟩]
    (.column (some "o") "id" ⟨61, 65⟩)

/-- `u.id` and `o.id` as they are, ordered by the second. -/
def barePairs : Select :=
  joined [⟨.column (some "u") "id" ⟨7, 11⟩, none⟩, ⟨.column (some "o") "id" ⟨13, 17⟩, none⟩]
    (.literal (.integer 2))

/-- `u.id` alone, ordered by `o.id`. -/
def firstOfPairs : Select :=
  joined [⟨.column (some "u") "id" ⟨7, 11⟩, some "a"⟩] (.column (some "o") "id" ⟨50, 54⟩)

def labelledRow (first second : Int64) : Row :=
  ⟨[("a", .integer (.ofInt64 first)), ("b", .integer (.ofInt64 second))]⟩

def bareRow (first second : Int64) : Row :=
  ⟨[("id", .integer (.ofInt64 first)), ("id", .integer (.ofInt64 second))]⟩

def firstRow (first : Int64) : Row :=
  ⟨[("a", .integer (.ofInt64 first))]⟩

/-- The second of the labelled items is the one that is compared. -/
theorem merge_compares_second :
    Statement.parse "SELECT u.id AS a, o.id AS b FROM u JOIN o USING (k) ORDER BY o.id" =
        .ok (.select labelledPairs) ∧
      merge [[labelledRow 1 9], [labelledRow 2 3]] (.select labelledPairs) ColumnMapper.identity
        .empty = .ok (some (.listed [labelledRow 2 3, labelledRow 1 9])) ∧
      Names labelledPairs (.column (some "o") "id" ⟨61, 65⟩) 1 ∧
      Unshadowed labelledPairs ColumnMapper.identity 1 ∧
      ∃ keyed : List (KeyedRow Row), keyed.map (·.row) = [labelledRow 1 9, labelledRow 2 3] ∧
        ∀ own ∈ keyed, own.values.map some = [own.row.columns[1]?.map (·.2)] := by
  have merges : merge [[labelledRow 1 9], [labelledRow 2 3]] (.select labelledPairs)
      ColumnMapper.identity .empty =
        .ok (some (.listed [labelledRow 2 3, labelledRow 1 9])) := by
    with_unfolding_all rfl
  have carries : ∀ row ∈ [[labelledRow 1 9], [labelledRow 2 3]].flatten,
      CarriesItems labelledPairs ColumnMapper.identity row := by
    simp [CarriesItems, labelledPairs, joined, Select.ofItems, labelledRow, projectedName,
      ColumnMapper.identity]
  have names : Names labelledPairs (.column (some "o") "id" ⟨61, 65⟩) 1 :=
    .column rfl (by with_unfolding_all rfl)
  have unshadowed : Unshadowed labelledPairs ColumnMapper.identity 1 := by
    intro j before earlier earlier_is label label_is
    obtain rfl : j = 0 := by omega
    cases earlier_is
    cases label_is
    decide +kernel
  obtain ⟨keys, keyed, window, -, -, rows, holds, -⟩ :=
    merge_compares_named (by decide) (by with_unfolding_all rfl) carries merges
  refine ⟨by with_unfolding_all rfl, merges, names, unshadowed, keyed, rows, fun own member => ?_⟩
  obtain ⟨v, rest, second, none_left, same⟩ := List.forall₂_cons_left_iff.mp (holds own member)
  rw [List.forall₂_nil_left_iff.mp none_left] at same
  simp [same, second 1 names unshadowed]

/-- Items with one label are not told apart, even by their position: the rows stay, although their
second values fall. An item of another table stands in for one that is not selected. -/
theorem merge_compares_first :
    (Statement.parse "SELECT u.id, o.id FROM u JOIN o USING (k) ORDER BY 2" =
        .ok (.select barePairs) ∧
      MergeStrategy.ofSelect barePairs = .ordered ∧
      (∀ row ∈ [bareRow 1 9, bareRow 2 3], CarriesItems barePairs ColumnMapper.identity row) ∧
      SortKey.ofQuery barePairs ColumnMapper.identity = .ok [⟨"id", .ascending⟩] ∧
      attachKeys [⟨"id", .ascending⟩] (bareRow 1 9) =
        .ok ⟨bareRow 1 9, [.integer (.ofInt64 1)]⟩ ∧
      merge [[bareRow 1 9], [bareRow 2 3]] (.select barePairs) ColumnMapper.identity .empty =
        .ok (some (.listed [bareRow 1 9, bareRow 2 3]))) ∧
    (Statement.parse "SELECT u.id AS a FROM u JOIN o USING (k) ORDER BY o.id" =
        .ok (.select firstOfPairs) ∧
      MergeStrategy.ofSelect firstOfPairs = .ordered ∧
      (∀ row ∈ [firstRow 2, firstRow 1], CarriesItems firstOfPairs ColumnMapper.identity row) ∧
      (∀ item ∈ firstOfPairs.items, isColumnOf "u" item = true ∧ isColumnOf "o" item = false) ∧
      SortKey.ofQuery firstOfPairs ColumnMapper.identity = .ok [⟨"a", .ascending⟩] ∧
      merge [[firstRow 2], [firstRow 1]] (.select firstOfPairs) ColumnMapper.identity .empty =
        .ok (some (.listed [firstRow 1, firstRow 2]))) := by
  refine ⟨⟨?_, ?_, ?_, ?_, ?_, ?_⟩, ?_, ?_, ?_, ?_, ?_, ?_⟩
  · with_unfolding_all rfl
  · with_unfolding_all rfl
  · simp [CarriesItems, barePairs, joined, Select.ofItems, bareRow, projectedName,
      ColumnMapper.identity, Expr.unparenthesized]
  · with_unfolding_all rfl
  · with_unfolding_all rfl
  · with_unfolding_all rfl
  · with_unfolding_all rfl
  · with_unfolding_all rfl
  · simp [CarriesItems, firstOfPairs, joined, Select.ofItems, firstRow, projectedName,
      ColumnMapper.identity]
  · simp only [firstOfPairs, joined, Select.ofItems, List.forall_mem_singleton]
    decide +kernel
  · with_unfolding_all rfl
  · with_unfolding_all rfl

end ShardedSql
