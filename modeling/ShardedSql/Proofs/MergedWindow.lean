import ShardedSql.Merge
import ShardedSql.Proofs.Outcome
import ShardedSql.Proofs.Ranking
import ShardedSql.Proofs.ValueOrder
import ShardedSql.Sql.Grammar

/-!
Windows of ordered answers. Every shard sorts the rows it holds and keeps the window the statement
asks for; the merge sorts what is left and keeps the same window again. Main statement: that is the
window of all rows exactly if the window skips nothing or is empty.
-/

namespace ShardedSql

open Sql Text

variable {R : Type} [ResultRow R]

/-! ## Rows by their keys -/

namespace SortKey

/-- The values of a row for the keys. -/
def tuple (keys : List SortKey) (row : R) : List Value :=
  (keys.mapM (valueIn row)).toOption.getD []

/-- A row with an exact value for each of the keys. -/
def HasKeys (keys : List SortKey) (row : R) : Prop :=
  keys.mapM (valueIn row) = .ok (tuple keys row) ∧ ∀ v ∈ tuple keys row, v.isExact = true

def rowOrder (keys : List SortKey) (a b : R) : Ordering :=
  compareAll keys (tuple keys a) (tuple keys b)

variable {keys : List SortKey} {rows : List R}

theorem HasKeys.length {row : R} (keyed : HasKeys keys row) :
    (tuple keys row).length = keys.length :=
  (mapM_eq_ok.mp keyed.1).length_eq.symm

theorem rowOrder_agrees (keyed : ∀ row ∈ rows, HasKeys keys row) :
    OrderAgrees (rowOrder keys) rows where
  swap _ _ _ _ := compareAll_swap keys _ _
  trans a ha b hb c hc :=
    (compareAll_chains ⟨(keyed a ha).length, (keyed b hb).length, (keyed c hc).length⟩
      (keyed a ha).2 (keyed b hb).2 (keyed c hc).2).le

end SortKey

open SortKey

/-- Sorting leaves items that compare equal in the order they had. -/
def KeepsTies {α : Type} (order : α → α → Ordering) (items sorted : List α) : Prop :=
  ∀ x ∈ items, sorted.filter (order x · == .eq) = items.filter (order x · == .eq)

/-- Rows with all keys are sorted, and those with equal keys keep their order. -/
theorem sortRows_eq_ok {keys : List SortKey} {rows : List R}
    (keyed : ∀ row ∈ rows, HasKeys keys row) :
    ∃ sorted, sortRows keys rows = .ok sorted ∧ sorted.Perm rows ∧
      Rising (rowOrder keys) sorted ∧ KeepsTies (rowOrder keys) rows sorted := by
  let attach (row : R) : KeyedRow R := ⟨row, tuple keys row⟩
  let order (a b : KeyedRow R) := compareAll keys a.values b.values
  have attached : rows.mapM (attachKeys keys) = .ok (rows.map attach) := by
    apply mapM_eq_ok_map
    intro row member
    simp [attachKeys, (keyed row member).1, attach, bind, Except.bind, pure, Except.pure]
  have agrees : OrderAgrees order (rows.map attach) := by
    have own := rowOrder_agrees keyed
    constructor
    · simp only [List.forall_mem_map]
      exact own.swap
    · simp only [List.forall_mem_map]
      exact own.trans
  have perm := stableSort_perm agrees
  have same_sort := stableSort_eq_insertionSort agrees
  -- Sorted with their keys attached, rows still carry their own keys, so both orders agree.
  have attach_row : ∀ keyed ∈ stableSort order (rows.map attach), keyed = attach keyed.row := by
    intro keyed member
    obtain ⟨_, _, rfl⟩ := List.mem_map.mp (perm.mem_iff.mp member)
    rfl
  refine ⟨(stableSort order (rows.map attach)).map (·.row), ?_, ?_, ?_, ?_⟩
  · simp only [sortRows, attached, bind, Except.bind, pure, Except.pure]
    rfl
  · have rows_perm := perm.map (·.row)
    simpa [attach, Function.comp_def] using rows_perm
  · have rising := insertionSort_rising agrees
    rw [← same_sort] at rising
    refine List.pairwise_map.mpr (rising.imp_of_mem fun ha hb le => ?_)
    rw [attach_row _ ha, attach_row _ hb] at le
    exact le
  · intro x x_in
    have ties := insertionSort_filter agrees (List.mem_map.mpr ⟨x, x_in, rfl⟩)
    rw [← same_sort] at ties
    have level : ∀ keyed ∈ stableSort order (rows.map attach),
        (rowOrder keys x keyed.row == .eq) = (order (attach x) keyed == .eq) := by
      intro keyed member
      rw [attach_row keyed member]
      rfl
    rw [List.filter_map, Function.comp_def, List.filter_congr level, ties, List.filter_map,
      List.map_map, Function.comp_def, Function.comp_def]
    simp only [attach, order, rowOrder, List.map_id']

/-! ## Windows -/

namespace Window

variable {α : Type} {window : Window} {offset count : Nat} {rows : List α}

theorem apply_zero_offset : apply ⟨0, some count⟩ rows = rows.take count := by
  simp [apply]

theorem apply_zero_count : apply ⟨offset, some 0⟩ rows = [] := by
  simp [apply]

theorem length_apply :
    (apply ⟨offset, some count⟩ rows).length = min count (rows.length - offset) := by
  simp [apply]

theorem apply_sublist : (window.apply rows).Sublist rows := by
  unfold apply
  split
  · exact (List.take_sublist _ _).trans (List.drop_sublist _ _)
  · exact List.drop_sublist _ _

theorem mem_of_mem_apply {row : α} (member : row ∈ window.apply rows) : row ∈ rows :=
  apply_sublist.subset member

theorem needBound_of_literal {bindings : Bindings} {bound : Option Expr} {n : Option Int}
    (written : bound.map literalBound = n.map some) : needBound bindings bound = .ok n := by
  cases bound with
  | none => cases n <;> simp_all [needBound]
  | some e =>
      cases n with
      | none => simp at written
      | some n =>
          simp only [Option.map_some, Option.some.injEq] at written
          have resolved : resolvedBound bindings e = some n := by
            unfold resolvedBound
            split
            next place bare => simp [literalBound, bare] at written
            next => exact written
          simp [needBound, resolved]

/-- A window that is written out is found whatever is bound. -/
theorem resolve_of_literal? {query : Select} {window : Window} (bindings : Bindings)
    (written : literal? query = some window) : resolve bindings query = .ok window := by
  unfold literal? at written
  split at written
  next =>
    split at written
    next => simp at written
    next => simp at written
    next no_offset no_limit =>
      have offset : needBound bindings query.offset = .ok (query.offset.map literalBound).join := by
        refine needBound_of_literal ?_
        cases given : query.offset.map literalBound with
        | none => rfl
        | some n => cases n <;> simp_all
      have limit : needBound bindings query.limit = .ok (query.limit.map literalBound).join := by
        refine needBound_of_literal ?_
        cases given : query.limit.map literalBound with
        | none => rfl
        | some n => cases n <;> simp_all
      rw [resolve, offset, limit]
      exact congrArg Except.ok (Option.some.inj written)
  next => simp at written

end Window

/-! ## What the shards answer -/

/-- A shard answers the window of its rows in the order of the keys; rows with equal keys stand in
any order. -/
def Answers (keys : List SortKey) (window : Window) (held answer : List R) : Prop :=
  ∃ sorted, sorted.Perm held ∧ Rising (rowOrder keys) sorted ∧ answer = window.apply sorted

/-- The merge of what two shards or more answer has the keys of the window of all their rows. -/
def KeepsWindow (query : Select) (mapper : ColumnMapper) (bindings : Bindings)
    (keys : List SortKey) (window : Window) : Prop :=
  ∀ (R : Type) [ResultRow R] (held answers : List (List R)) (whole : List R),
    2 ≤ held.length → (∀ rows ∈ held, ∀ row ∈ rows, HasKeys keys row) →
    List.Forall₂ (Answers keys window) held answers →
    whole.Perm held.flatten → Rising (rowOrder keys) whole →
    ∃ merged, merge answers (.select query) mapper bindings = .ok (some merged) ∧
      List.Forall₂ (fun a b => rowOrder keys a b = .eq) merged.toList (window.apply whole)

section Merging

variable {query : Select} {mapper : ColumnMapper} {bindings : Bindings} {keys : List SortKey}
  {window : Window}

theorem merge_ordered {results : List (List R)} (several : 2 ≤ results.length)
    (ordered : MergeStrategy.ofSelect query = .ordered) :
    merge results (.select query) mapper bindings =
      (mergeOrdered results query mapper bindings).map fun rows => some (.listed rows) := by
  rw [merge_several several, mergeQuery, ordered]
  cases mergeOrdered results query mapper bindings <;> rfl

variable (bindings) in
/-- Rows with all keys are merged: they are sorted and cut to the window. -/
theorem merge_eq_ok {results : List (List R)} (several : 2 ≤ results.length)
    (ordered : MergeStrategy.ofSelect query = .ordered)
    (written : Window.literal? query = some window) (plain : query.hasWildcard = false)
    (keys_found : SortKey.ofQuery query mapper = .ok keys)
    (keyed : ∀ row ∈ results.flatten, HasKeys keys row) :
    ∃ sorted, merge results (.select query) mapper bindings =
        .ok (some (.listed (window.apply sorted))) ∧
      sorted.Perm results.flatten ∧ Rising (rowOrder keys) sorted := by
  obtain ⟨sorted, sorts, perm, rising, _⟩ := sortRows_eq_ok keyed
  refine ⟨sorted, ?_, perm, rising⟩
  simp [merge_ordered several ordered, mergeOrdered, plain, keys_found,
    Window.resolve_of_literal? bindings written, sorts, bind, Except.bind, pure, Except.pure,
    Except.map]

/-- The sorted rows of each shard, behind what the shards answer. -/
theorem exists_parts {held answers : List (List R)}
    (answered : List.Forall₂ (Answers keys window) held answers) :
    ∃ parts : List (List R), parts.flatten.Perm held.flatten ∧
      (∀ part ∈ parts, Rising (rowOrder keys) part) ∧ answers = parts.map window.apply := by
  induction answered with
  | nil => exact ⟨[], by simp⟩
  | cons here _ ih =>
      obtain ⟨sorted, perm, rising, rfl⟩ := here
      obtain ⟨parts, parts_perm, parts_rising, rfl⟩ := ih
      refine ⟨sorted :: parts, by simpa using perm.append parts_perm, ?_, rfl⟩
      simpa using And.intro rising parts_rising

variable {offset count : Nat}

/-- A window that skips nothing, or that is empty, survives. -/
theorem keepsWindow_of_zero (ordered : MergeStrategy.ofSelect query = .ordered)
    (written : Window.literal? query = some ⟨offset, some count⟩)
    (plain : query.hasWildcard = false) (keys_found : SortKey.ofQuery query mapper = .ok keys)
    (zero : offset = 0 ∨ count = 0) :
    KeepsWindow query mapper bindings keys ⟨offset, some count⟩ := by
  intro R _ held answers whole several keyed answered whole_perm whole_rising
  have several_answers : 2 ≤ answers.length := answered.length_eq ▸ several
  obtain ⟨parts, parts_perm, parts_rising, rfl⟩ := exists_parts answered
  have parts_keyed : ∀ row ∈ parts.flatten, HasKeys keys row := by
    intro row member
    obtain ⟨rows, rows_in, row_in⟩ := List.mem_flatten.mp (parts_perm.mem_iff.mp member)
    exact keyed rows rows_in row row_in
  have answers_keyed : ∀ row ∈ (parts.map (Window.apply ⟨offset, some count⟩)).flatten,
      HasKeys keys row := by
    intro row member
    obtain ⟨_, cut, row_in⟩ := List.mem_flatten.mp member
    obtain ⟨part, part_in, rfl⟩ := List.mem_map.mp cut
    exact parts_keyed row (List.mem_flatten.mpr ⟨part, part_in, Window.mem_of_mem_apply row_in⟩)
  obtain ⟨sorted, merges, sorted_perm, sorted_rising⟩ :=
    merge_eq_ok bindings several_answers ordered written plain keys_found
      answers_keyed
  refine ⟨_, merges, ?_⟩
  simp only [MergedRows.toList, MergedRows.groups, List.flatten_singleton]
  -- With nothing skipped, the second window cuts what the first ones have cut to the same length.
  rcases zero with rfl | rfl
  · simp only [Window.apply_zero_offset] at *
    exact forall₂_take_union (rowOrder_agrees parts_keyed) parts_rising sorted_rising sorted_perm
      whole_rising (whole_perm.trans parts_perm.symm)
  · simp [Window.apply_zero_count]

/-- A row that holds nothing under every key. -/
def nullRow (keys : List SortKey) : Row :=
  ⟨keys.map fun key => (key.property, .null)⟩

theorem hasKeys_nullRow (keys : List SortKey) : HasKeys keys (nullRow keys) := by
  have found : keys.mapM (valueIn (nullRow keys)) = .ok (keys.map fun _ => .null) := by
    apply mapM_eq_ok_map
    intro key member
    have got : (nullRow keys).get? key.property = some .null := by
      unfold Row.get?
      cases first : (nullRow keys).columns.find? fun column => sameWord column.1 key.property with
      | none =>
          have own := List.find?_eq_none.mp first (key.property, .null)
            (List.mem_map.mpr ⟨key, member, rfl⟩)
          simp [sameWord, sameChars] at own
      | some column =>
          obtain ⟨_, _, rfl⟩ := List.mem_map.mp (List.mem_of_find?_eq_some first)
          rfl
    simp [valueIn, ResultRow.property?, got]
  constructor
  · simp [tuple, found, Except.toOption]
  · simp [tuple, found, Except.toOption, Value.isExact]

/-- Rows of one shard that the window skips there are missing from what is sorted again. -/
theorem zero_of_keepsWindow (ordered : MergeStrategy.ofSelect query = .ordered)
    (written : Window.literal? query = some ⟨offset, some count⟩)
    (plain : query.hasWildcard = false) (keys_found : SortKey.ofQuery query mapper = .ok keys)
    (keeps : KeepsWindow query mapper bindings keys ⟨offset, some count⟩) :
    offset = 0 ∨ count = 0 := by
  by_contra skips
  -- One shard holds one row more than the window skips, all of them alike.
  let row := nullRow keys
  let rows : List Row := List.replicate (offset + 1) row
  let window : Window := ⟨offset, some count⟩
  have rows_keyed : ∀ r ∈ rows, HasKeys keys r := by
    intro r member
    rw [List.eq_of_mem_replicate member]
    exact hasKeys_nullRow keys
  have level : rowOrder keys row row = .eq :=
    (rowOrder_agrees rows_keyed).refl (List.mem_replicate.mpr ⟨by omega, rfl⟩)
  have rising : Rising (rowOrder keys) rows := List.pairwise_replicate.mpr (.inr (by simp [level]))
  have answered : List.Forall₂ (Answers keys window) [rows, []] [window.apply rows, []] :=
    .cons ⟨rows, .refl _, rising, rfl⟩
      (.cons ⟨[], .refl _, .nil, by simp [window, Window.apply]⟩ .nil)
  obtain ⟨merged, merges, same⟩ :=
    keeps Row _ _ rows (by simp) (by simpa using rows_keyed) answered (by simp) rising
  have answers_keyed : ∀ r ∈ [window.apply rows, []].flatten, HasKeys keys r := by
    intro r member
    exact rows_keyed r (Window.mem_of_mem_apply (by simpa using member))
  obtain ⟨sorted, sorts, perm, _⟩ :=
    merge_eq_ok bindings (by simp) ordered written plain keys_found answers_keyed
  rw [sorts, Except.ok.injEq, Option.some.injEq] at merges
  subst merges
  -- The window of all rows has a row; the only one that the shards answer is skipped again.
  have lengths := same.length_eq
  have left := perm.length_eq
  simp [MergedRows.toList, MergedRows.groups, Window.length_apply, window, rows] at lengths left
  omega

/-- Without names for the keys, nothing is merged. -/
theorem merge_eq_error {results : List (List R)} (several : 2 ≤ results.length)
    (ordered : MergeStrategy.ofSelect query = .ordered)
    (nameless : query.hasWildcard = true ∨ ∃ e, SortKey.ofQuery query mapper = .error e) :
    ∃ e, merge results (.select query) mapper bindings = .error e := by
  rw [merge_ordered several ordered]
  by_cases wildcard : query.hasWildcard = true
  · refine ⟨.unmergeable .wildcardOrder, ?_⟩
    simp [mergeOrdered, wildcard, bind, Except.bind, throw, throwThe, MonadExceptOf.throw,
      Except.map]
  · obtain ⟨e, unnamed⟩ := nameless.resolve_left wildcard
    refine ⟨e, ?_⟩
    simp [mergeOrdered, wildcard, unnamed, bind, Except.bind, Except.map]

/-- The merged answers of an ordered query with a written window are those of the window over all
rows, exactly if the window skips nothing or is empty; without names for the keys there are none. -/
theorem merge_keeps_window_iff (ordered : MergeStrategy.ofSelect query = .ordered)
    (written : Window.literal? query = some ⟨offset, some count⟩) :
    (∀ keys, query.hasWildcard = false → SortKey.ofQuery query mapper = .ok keys →
        (KeepsWindow query mapper bindings keys ⟨offset, some count⟩ ↔
          offset = 0 ∨ count = 0)) ∧
      (query.hasWildcard = true ∨ (∃ e, SortKey.ofQuery query mapper = .error e) →
        ∀ (R : Type) [ResultRow R] (results : List (List R)), 2 ≤ results.length →
          ∃ e, merge results (.select query) mapper bindings = .error e) := by
  constructor
  · intro keys plain keys_found
    exact ⟨zero_of_keepsWindow ordered written plain keys_found,
      keepsWindow_of_zero ordered written plain keys_found⟩
  · intro nameless R _ results several
    exact merge_eq_error several ordered nameless

end Merging

/-! ## One row after the first -/

/-- `SELECT id FROM t ORDER BY id` with a limit of one row and an offset. -/
def firstById (offset : Option Expr) : Select :=
  { Select.ofItems [⟨.column none "id" ⟨7, 9⟩, none⟩] (some (.bare "t")) with
    order := [⟨.column none "id" ⟨26, 28⟩, .ascending⟩]
    limit := some (.literal (.integer 1))
    offset := offset }

theorem merge_keeps_first :
    Statement.parse "SELECT id FROM t ORDER BY id LIMIT 1" = .ok (.select (firstById none)) ∧
      KeepsWindow (firstById none) ColumnMapper.identity .empty [⟨"id", .ascending⟩]
        ⟨0, some 1⟩ := by
  refine ⟨by with_unfolding_all rfl, ?_⟩
  refine ((merge_keeps_window_iff ?_ ?_).1 _ ?_ ?_).mpr (.inl rfl)
  · with_unfolding_all rfl
  · with_unfolding_all rfl
  · with_unfolding_all rfl
  · with_unfolding_all rfl

/-- A row of the table. -/
def rowOf (id : Int64) : Row :=
  ⟨[("id", .integer (.ofInt64 id))]⟩

theorem hasKeys_rowOf (id : Int64) : HasKeys [⟨"id", .ascending⟩] (rowOf id) := by
  have found : [⟨"id", .ascending⟩].mapM (valueIn (rowOf id)) = .ok [.integer (.ofInt64 id)] := by
    have got : (rowOf id).get? "id" = some (.integer (.ofInt64 id)) := by
      simp [Row.get?, rowOf, sameWord, sameChars]
    simp [valueIn, ResultRow.property?, got, pure, Except.pure, bind, Except.bind]
  constructor
  · simp [tuple, found, Except.toOption]
  · simp [tuple, found, Except.toOption, Value.isExact]

/-- Two shards hold 1 and 3, and 2 and 4, and answer 3 and 4 for the row after the first; the merge
skips the 3 among these, and the 2 has never been answered. -/
theorem merge_loses_second :
    ∃ query keys, Statement.parse "SELECT id FROM t ORDER BY id LIMIT 1 OFFSET 1" =
        .ok (.select query) ∧
      MergeStrategy.ofSelect query = .ordered ∧
      Window.literal? query = some ⟨1, some 1⟩ ∧
      SortKey.ofQuery query ColumnMapper.identity = .ok keys ∧
      ¬ KeepsWindow query ColumnMapper.identity .empty keys ⟨1, some 1⟩ := by
  refine ⟨firstById (some (.literal (.integer 1))), [⟨"id", .ascending⟩],
    by with_unfolding_all rfl, by with_unfolding_all rfl, by with_unfolding_all rfl,
    by with_unfolding_all rfl, fun keeps => ?_⟩
  let held : List (List Row) := [[rowOf 1, rowOf 3], [rowOf 2, rowOf 4]]
  let whole : List Row := [rowOf 1, rowOf 2, rowOf 3, rowOf 4]
  have keyed : ∀ rows ∈ held, ∀ row ∈ rows, HasKeys [⟨"id", .ascending⟩] row := by
    simp [held, hasKeys_rowOf]
  have rising (rows : List Row)
      (checked : rows.Pairwise fun a b => rowOrder [⟨"id", .ascending⟩] a b ≠ .gt) :
      Rising (rowOrder [⟨"id", .ascending⟩]) rows := checked
  have answered : List.Forall₂ (Answers [⟨"id", .ascending⟩] ⟨1, some 1⟩) held
      [[rowOf 3], [rowOf 4]] :=
    .cons ⟨_, .refl _, rising _ (by decide +kernel), rfl⟩
      (.cons ⟨_, .refl _, rising _ (by decide +kernel), rfl⟩ .nil)
  obtain ⟨merged, merges, same⟩ :=
    keeps Row held _ whole (by decide) keyed answered (.cons _ (.swap _ _ _))
      (rising _ (by decide +kernel))
  have sorts : merge [[rowOf 3], [rowOf 4]] (.select (firstById (some (.literal (.integer 1)))))
      ColumnMapper.identity .empty = .ok (some (.listed [rowOf 4])) := by
    with_unfolding_all rfl
  rw [sorts, Except.ok.injEq, Option.some.injEq] at merges
  subst merges
  have equal : rowOrder [⟨"id", .ascending⟩] (rowOf 4) (rowOf 2) = .eq :=
    (List.forall₂_cons.mp same).1
  exact absurd equal (by decide +kernel)

end ShardedSql
