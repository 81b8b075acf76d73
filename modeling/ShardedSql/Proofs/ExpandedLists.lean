import ShardedSql.Proofs.ExpandedText
import ShardedSql.Proofs.SpreadStatement

/-!
Routing a statement whose lists have been expanded. Main statement: where every list is an item
among others and the references of the head comment stand before all lists, the expanded text visits
the shards that the text visits, or fails alike.
-/

namespace ShardedSql

open Sql Text Sql.Writing
open Sql.Filling (allMarks)

namespace Expanded

/-! ## Values at their places -/

section Places

variable {marks k : Nat} {values : List Value}

theorem flattened_cons (marks : Nat) (v : Value) (values : List Value) :
    flattened (marks + 1) (v :: values) = elements v ++ flattened marks values := by
  rw [flattened, List.take_succ_cons, List.flatMap_cons, List.drop_succ_cons, List.append_assoc,
    flattened]

theorem flattened_nil (marks : Nat) : flattened marks [] = [] := by
  rw [flattened, List.take_nil, List.drop_nil]
  rfl

theorem place_succ (further : Nat → Nat) (k : Nat) :
    place further (k + 1) = further 0 + 1 + place (fun j => further (j + 1)) k := by
  induction k with
  | zero => simp [place]
  | succ k ih =>
      rw [place, ih, place]
      omega

/-- The values of a placeholder stand at its places. -/
theorem flattened_at_place (nonempty : ∀ v ∈ values.take marks, elements v ≠ [])
    (within : k < marks) {i : Nat} (inside : i ≤ further values k) :
    (flattened marks values)[place (further values) k + i]? =
      values[k]?.bind fun v => (elements v)[i]? := by
  -- On the placeholder: each one before it moves its places by the length of its value.
  induction k generalizing marks values with
  | zero =>
      obtain ⟨marks, rfl⟩ := Nat.exists_eq_succ_of_ne_zero (Nat.ne_of_gt within)
      cases values with
      | nil =>
          rw [flattened_nil]
          rfl
      | cons v values =>
          have some_element := List.length_pos_iff.mpr (nonempty v (List.mem_cons_self ..))
          have inside : i < (elements v).length := by
            change i ≤ (elements v).length - 1 at inside
            omega
          rw [flattened_cons, place, Nat.zero_add, List.getElem?_append_left inside]
          rfl
  | succ k ih =>
      obtain ⟨marks, rfl⟩ := Nat.exists_eq_succ_of_ne_zero (Nat.ne_of_gt (Nat.zero_lt_of_lt within))
      cases values with
      | nil =>
          rw [flattened_nil]
          rfl
      | cons v values =>
          obtain ⟨some_element, nonempty⟩ := List.forall_mem_cons.mp nonempty
          have length := List.length_pos_iff.mpr some_element
          have behind := ih nonempty (Nat.lt_of_succ_lt_succ within) inside
          have first : further (v :: values) 0 + 1 = (elements v).length :=
            Nat.sub_add_cancel length
          rw [flattened_cons, place_succ, first, Nat.add_assoc,
            List.getElem?_append_right (by omega), Nat.add_sub_cancel_left]
          exact behind

/-- A placeholder takes one value: the one it is bound to, or the one in a list. -/
theorem exists_element {v : Value} (some_element : elements v ≠ [])
    (alone : (elements v).length - 1 = 0) :
    ∃ x, elements v = [x] ∧ (v = x ∨ v = .list [x]) := by
  have length := List.length_pos_iff.mpr some_element
  obtain ⟨x, single⟩ := List.length_eq_one_iff.mp (show (elements v).length = 1 by omega)
  refine ⟨x, single, ?_⟩
  cases v with
  | list items => exact .inr (congrArg Value.list single)
  | _ => exact .inl (List.singleton_inj.mp single)

/-- Before any list a value stays where it is, but for a list of one element. -/
theorem flattened_before_lists (nonempty : ∀ v ∈ values.take marks, elements v ≠ [])
    (single : ∀ j ≤ k, further values j = 0) :
    (flattened marks values)[k]? = values[k]? ∨
      ∃ x, values[k]? = some (.list [x]) ∧ (flattened marks values)[k]? = some x := by
  induction k generalizing marks values with
  | zero =>
      cases marks with
      | zero => exact .inl rfl
      | succ marks =>
          cases values with
          | nil =>
              rw [flattened_nil]
              exact .inl rfl
          | cons v values =>
              obtain ⟨x, only, same⟩ :=
                exists_element (nonempty v (List.mem_cons_self ..)) (single 0 (Nat.le_refl 0))
              rw [flattened_cons, only]
              rcases same with rfl | rfl
              · exact .inl rfl
              · exact .inr ⟨x, rfl, rfl⟩
  | succ k ih =>
      cases marks with
      | zero => exact .inl rfl
      | succ marks =>
          cases values with
          | nil =>
              rw [flattened_nil]
              exact .inl rfl
          | cons v values =>
              obtain ⟨some_element, nonempty⟩ := List.forall_mem_cons.mp nonempty
              obtain ⟨x, only, _⟩ := exists_element some_element (single 0 (Nat.zero_le _))
              rw [flattened_cons, only]
              exact ih nonempty fun j before => single (j + 1) (Nat.succ_le_succ before)

end Places

/-- No list is bound that holds another list. -/
def Unnested (values : List Value) : Prop :=
  ∀ v ∈ values, ∀ items, v = .list items → ∀ item ∈ items, isList item = false

end Expanded

open Expanded

/-! ## What the places ask for -/

namespace Router

variable {router : Router} {bindings : Bindings} {items : List Value} {v : Value}

theorem suffixesFor_of_single (single : isList v = false) :
    router.suffixesFor v = router.strategy.suffixesFor v := by
  cases v with
  | list items => cases single
  | _ => rfl

theorem suffixesFor_singleton (single : isList v = false) :
    router.suffixesFor (.list [v]) = router.suffixesFor v := by
  rw [suffixesFor_of_single single, suffixesFor, suffixesForAll, suffixesForAll]
  cases router.strategy.suffixesFor v <;> rfl

theorem absorbAll_eq_suffixesForAll (single : ∀ item ∈ items, isList item = false) :
    absorbAll (fun v => (router.suffixesFor v).map .pinned) items =
      (router.suffixesForAll items).map .pinned := by
  induction items with
  | nil => rfl
  | cons item rest ih =>
      obtain ⟨here, later⟩ := List.forall_mem_cons.mp single
      rw [absorbAll, ih later, suffixesFor_of_single here, suffixesForAll]
      cases router.strategy.suffixesFor item with
      | error e => rfl
      | ok own => cases router.suffixesForAll rest <;> rfl

/-- A value asks for what its elements ask for. -/
theorem absorbAll_elements
    (unnested : ∀ items, v = .list items → ∀ item ∈ items, isList item = false) :
    absorbAll (fun v => (router.suffixesFor v).map .pinned) (elements v) =
      (router.suffixesFor v).map .pinned := by
  cases v with
  | list items => exact absorbAll_eq_suffixesForAll (unnested items rfl)
  | _ => exact absorbAll_singleton

/-- Placeholders in a row ask for what the values in a row ask for that are bound to them. -/
theorem comparedAll_row {start : Nat}
    (bound : ∀ i < items.length, bindings.positional? (start + i) = items[i]?) :
    comparedAll router bindings ((List.range' start items.length).map fun ordinal =>
        .placeholder (.positional ordinal)) =
      absorbAll (fun v => (router.suffixesFor v).map .pinned) items := by
  induction items generalizing start with
  | nil => rfl
  | cons item rest ih =>
      have here : bindings.positional? start = some item := bound 0 (Nat.zero_lt_succ _)
      have later := ih fun i inside => by
        rw [Nat.add_assoc, Nat.add_comm 1 i]
        exact bound (i + 1) (Nat.succ_lt_succ inside)
      rw [List.length_cons, List.range'_succ, List.map_cons, comparedAll, later, absorbAll,
        compared, Bindings.placeholder?, here]

/-- What the placeholder of a value asks for, its places ask for. -/
theorem comparedAll_places {parameters : Parameters} {marks k : Nat}
    (nonempty : ∀ v ∈ parameters.positional.take marks, elements v ≠ [])
    (unnested : Unnested parameters.positional) (within : k < marks) :
    comparedAll router
        (parameters.withPositional (flattened marks parameters.positional)).bindings
        (places (further parameters.positional) k) =
      compared router parameters.bindings (.placeholder (.positional k)) := by
  have row {i : Nat} (inside : i ≤ further parameters.positional k) :=
    flattened_at_place nonempty within inside
  have whole : parameters.bindings.placeholder? (.positional k) = parameters.positional[k]? := rfl
  rw [compared, whole]
  cases here : parameters.positional[k]? with
  | none =>
      have alone : further parameters.positional k = 0 := by rw [further, here]
      have unbound := row (Nat.zero_le _)
      rw [here] at unbound
      have spread : (parameters.withPositional
          (flattened marks parameters.positional)).bindings.placeholder?
            (.positional (place (further parameters.positional) k)) = none := unbound
      rw [places_of_single alone, Runs.comparedAll_singleton, compared, spread]
  | some v =>
      obtain ⟨bounded, rfl⟩ := List.getElem?_eq_some_iff.mp here
      have member := List.getElem_mem bounded
      have some_element := nonempty _ (List.mem_take_iff_getElem.mpr
        ⟨k, Nat.lt_min.mpr ⟨within, bounded⟩, rfl⟩)
      have length := List.length_pos_iff.mpr some_element
      have last : further parameters.positional k + 1 =
          (elements parameters.positional[k]).length := by
        rw [further, here]
        exact Nat.sub_add_cancel length
      rw [places, last, comparedAll_row, absorbAll_elements (unnested _ member)]
      intro i inside
      have bound := row (i := i) (by omega)
      rwa [here] at bound

end Router

/-! ## References of the head comment -/

/-- No reference is to a position at a list of several elements or behind one. -/
def Parameters.KeepsReferences (parameters : Parameters) (references : List String) : Prop :=
  ∀ reference ∈ references, parameters.bindings.named? reference = none →
    ∀ k, positionOf? reference = some k → ∀ j ≤ k, further parameters.positional j = 0

namespace Router

variable {router : Router} {parameters : Parameters} {marks : Nat}

theorem suffixesFor_resolve (nonempty : ∀ v ∈ parameters.positional.take marks, elements v ≠ [])
    (unnested : Unnested parameters.positional) {reference : String}
    (before : parameters.bindings.named? reference = none →
      ∀ k, positionOf? reference = some k → ∀ j ≤ k, further parameters.positional j = 0) :
    router.suffixesFor ((parameters.withPositional
        (flattened marks parameters.positional)).bindings.resolve reference) =
      router.suffixesFor (parameters.bindings.resolve reference) := by
  have named : (parameters.withPositional
      (flattened marks parameters.positional)).bindings.named? = parameters.bindings.named? := rfl
  rw [Bindings.resolve, Bindings.resolve, named]
  cases bound : parameters.bindings.named? reference with
  | some value => rfl
  | none =>
      cases position : positionOf? reference with
      | none => rfl
      | some k =>
          have whole : parameters.bindings.positional? k = parameters.positional[k]? := rfl
          have spread : (parameters.withPositional
              (flattened marks parameters.positional)).bindings.positional? k =
                (flattened marks parameters.positional)[k]? := rfl
          simp only [Option.bind_some, whole, spread]
          rcases flattened_before_lists nonempty (before bound k position) with
            same | ⟨x, listed, alone⟩
          · rw [same]
          · have single := unnested _ (List.mem_of_getElem? listed) [x] rfl x
              (List.mem_singleton_self x)
            rw [listed, alone]
            exact (suffixesFor_singleton single).symm

theorem overrides_congr {bindings bindings' : Bindings} {head : HeadComment}
    (same : ∀ reference ∈ head.valuesFor router.strategy.column,
      router.suffixesFor (bindings'.resolve reference) =
        router.suffixesFor (bindings.resolve reference)) :
    overrides router bindings' head = overrides router bindings head := by
  rw [overrides, overrides]
  generalize head.valuesFor router.strategy.column = references at same ⊢
  generalize (∅ : NameSet) = found
  induction references generalizing found with
  | nil => rfl
  | cons reference rest ih =>
      obtain ⟨here, later⟩ := List.forall_mem_cons.mp same
      simp only [List.foldlM_cons, here, ih later]

theorem subTables_congr {bindings bindings' : Bindings} {prepared prepared' : PreparedStatement}
    (kind : isInsert prepared'.statement = isInsert prepared.statement)
    (overridden : overrides router bindings' prepared'.head =
      overrides router bindings prepared.head)
    (visited : visitStatement router bindings' prepared'.statement =
      visitStatement router bindings prepared.statement) :
    router.subTables bindings' prepared' = router.subTables bindings prepared := by
  simp only [subTables, kind, overridden, visited]

end Router

/-! ## Whole texts -/

/-- The runs over a statement and over the one with places for the elements of its lists. -/
def Parameters.runs (parameters : Parameters) (router : Router) {marks : Nat}
    (nonempty : ∀ v ∈ parameters.positional.take marks, elements v ≠ [])
    (unnested : Unnested parameters.positional) : Runs where
  marks := marks
  further := further parameters.positional
  router := router
  whole := parameters.bindings
  spread := (parameters.withPositional (flattened marks parameters.positional)).bindings
  listed _ within := Router.comparedAll_places nonempty unnested within
  named := rfl

/-- Expanding the lists that are bound to a statement does not change what it visits, if every list
with several elements is an item among others or a cell behind the sharding column, and if the head
comment refers to no such list and to nothing behind one. -/
theorem Router.subTables_expandLists (router : Router) (sql : String) (prepared : PreparedStatement)
    (parameters : Parameters) (expanded : Expanded)
    (reads : PreparedStatement.ofText sql = .ok prepared)
    (expands : expandLists sql parameters.positional = .ok expanded)
    (unnested : Unnested parameters.positional)
    (quiet : parameters.positional.any isList = true → QuietNames (lexemes sql.toList))
    (fits : prepared.statement.fits (further parameters.positional) = true)
    (cells : router.keepsCells (further parameters.positional) prepared.statement = true)
    (heads : parameters.KeepsReferences (prepared.head.valuesFor router.strategy.column)) :
    ∃ prepared', PreparedStatement.ofText expanded.sql = .ok prepared' ∧
      router.subTables (parameters.withPositional expanded.values).bindings prepared' =
        router.subTables parameters.bindings prepared := by
  cases lists : parameters.positional.any isList with
  | false =>
      rw [expandLists, lists] at expands
      cases expands
      exact ⟨prepared, reads, rfl⟩
  | true =>
      obtain ⟨cut, read⟩ := PreparedStatement.ofText_eq_ok.mp reads
      have fine : ∀ piece ∈ parameters.positional.map pieceOf, IsPiece piece :=
        List.forall_mem_map.mpr fun v _ => isPiece_marksText _
      -- The head comment stays, and the lists are written into the body only.
      obtain ⟨split_written, kinds⟩ := HeadComment.split_writtenText cut read fine
      have clear : Segment.Clear (lexemes sql.toList) := by
        rw [Segment.clear_iff, kinds]
        exact error_not_mem_tokenKinds read
      obtain ⟨text, values, nonempty⟩ := expandLists_written expands lists clear (quiet lists)
      obtain ⟨parsed, read', same⟩ :=
        Spreading.parse_spread (r := parameters.runs router nonempty unnested) read fits
          (congrArg allMarks kinds.symm) (tokenKinds_written read _)
      refine ⟨⟨prepared.head, writtenText (parameters.positional.map pieceOf) prepared.sql,
        parsed⟩, ?_, ?_⟩
      · rw [text]
        exact PreparedStatement.ofText_eq_ok.mpr ⟨split_written, read'⟩
      · rw [values]
        apply subTables_congr same.kind
        · exact overrides_congr fun reference member =>
            suffixesFor_resolve nonempty unnested (heads reference member)
        · exact same.visited cells

/-- `SELECT * FROM t WHERE x = ? AND id IN (?)`, with a comment before it. -/
def preparedMembers : PreparedStatement :=
  ⟨⟨[("id", "?0")]⟩, "SELECT * FROM t WHERE x = ? AND id IN (?)",
    Router.selectWhere
      (.binary
        (.binary (.column none "x" ⟨22, 23⟩) .eq (.placeholder (.positional 0)))
        .and
        (.inList (.column none "id" ⟨32, 34⟩) [.placeholder (.positional 1)] false))⟩

/-- A value and a list of two. -/
def fiveAndList : List Value :=
  [.integer (.ofInt64 5), .list [.integer (.ofInt64 2), .integer (.ofInt64 3)]]

theorem Router.subTables_expandLists_members :
    PreparedStatement.ofText "/* id:?0 */ SELECT * FROM t WHERE x = ? AND id IN (?)" =
        .ok preparedMembers ∧
      expandLists "/* id:?0 */ SELECT * FROM t WHERE x = ? AND id IN (?)" fiveAndList =
        .ok ⟨"/* id:?0 */ SELECT * FROM t WHERE x = ? AND id IN (?, ?)",
          [.integer (.ofInt64 5), .integer (.ofInt64 2), .integer (.ofInt64 3)]⟩ ∧
      byId.subTables (Parameters.bindings ⟨fiveAndList, []⟩) preparedMembers =
        .ok (.ofList ["1", "2", "3"]) ∧
      ∃ prepared',
        PreparedStatement.ofText "/* id:?0 */ SELECT * FROM t WHERE x = ? AND id IN (?, ?)" =
          .ok prepared' ∧
        byId.subTables (Parameters.bindings
          ⟨[.integer (.ofInt64 5), .integer (.ofInt64 2), .integer (.ofInt64 3)], []⟩) prepared' =
          .ok (.ofList ["1", "2", "3"]) := by
  have reads : PreparedStatement.ofText "/* id:?0 */ SELECT * FROM t WHERE x = ? AND id IN (?)" =
      .ok preparedMembers := by
    with_unfolding_all rfl
  have expands : expandLists "/* id:?0 */ SELECT * FROM t WHERE x = ? AND id IN (?)" fiveAndList =
      .ok ⟨"/* id:?0 */ SELECT * FROM t WHERE x = ? AND id IN (?, ?)",
        [.integer (.ofInt64 5), .integer (.ofInt64 2), .integer (.ofInt64 3)]⟩ := by
    with_unfolding_all rfl
  have visited : byId.subTables (Parameters.bindings ⟨fiveAndList, []⟩) preparedMembers =
      .ok (.ofList ["1", "2", "3"]) := by
    with_unfolding_all rfl
  have unnested : Unnested fiveAndList := by
    simp only [Unnested, fiveAndList, List.forall_mem_cons]
    refine ⟨nofun, ?_, nofun⟩
    rintro _ ⟨⟩
    decide
  have quiet : QuietNames
      (lexemes "/* id:?0 */ SELECT * FROM t WHERE x = ? AND id IN (?)".toList) := by
    decide +kernel
  have heads : Parameters.KeepsReferences ⟨fiveAndList, []⟩ ["?0"] := by
    intro reference member _ k position j before
    obtain rfl := List.mem_singleton.mp member
    obtain rfl : 0 = k := Option.some.inj position
    obtain rfl := Nat.le_zero.mp before
    rfl
  obtain ⟨prepared', reads', same⟩ := subTables_expandLists byId _ preparedMembers ⟨fiveAndList, []⟩
    _ reads expands unnested (fun _ => quiet) rfl rfl heads
  exact ⟨reads, expands, visited, prepared', reads', same.trans visited⟩

/-- `x IN (…) AND y = …` between columns where they stand. -/
def membersAndY (items : List Expr) (y : Span) (last : Nat) : Statement :=
  Router.selectWhere
    (.binary (.inList (.column none "x" ⟨22, 23⟩) items false) .and
      (.binary (.column none "y" y) .eq (.placeholder (.positional last))))

/-- The comment refers to the value behind a list; in the expanded text the position that it names
is that of an element of the list. -/
theorem Router.subTables_shifts_reference :
    ∃ (parameters : Parameters) (prepared prepared' : PreparedStatement) (expanded : Expanded)
      (suffixes suffixes' : NameSet),
      Unnested parameters.positional ∧
      PreparedStatement.ofText "/* id:?1 */ SELECT * FROM t WHERE x IN (?) AND y = ?" =
        .ok prepared ∧
      expandLists "/* id:?1 */ SELECT * FROM t WHERE x IN (?) AND y = ?" parameters.positional =
        .ok expanded ∧
      PreparedStatement.ofText expanded.sql = .ok prepared' ∧
      byId.subTables parameters.bindings prepared = .ok suffixes ∧
      byId.subTables (parameters.withPositional expanded.values).bindings prepared' =
        .ok suffixes' ∧
      suffixes ≠ suffixes' := by
  let parameters : Parameters :=
    ⟨[.list [.integer (.ofInt64 1), .integer (.ofInt64 2)], .integer (.ofInt64 7)], []⟩
  let prepared : PreparedStatement :=
    ⟨⟨[("id", "?1")]⟩, "SELECT * FROM t WHERE x IN (?) AND y = ?",
      membersAndY [.placeholder (.positional 0)] ⟨35, 36⟩ 1⟩
  let expanded : Expanded :=
    ⟨"/* id:?1 */ SELECT * FROM t WHERE x IN (?, ?) AND y = ?",
      [.integer (.ofInt64 1), .integer (.ofInt64 2), .integer (.ofInt64 7)]⟩
  let prepared' : PreparedStatement :=
    ⟨⟨[("id", "?1")]⟩, "SELECT * FROM t WHERE x IN (?, ?) AND y = ?",
      membersAndY [.placeholder (.positional 0), .placeholder (.positional 1)] ⟨38, 39⟩ 2⟩
  have unnested : Unnested parameters.positional := by
    simp only [Unnested, parameters, List.forall_mem_cons]
    refine ⟨?_, nofun, nofun⟩
    rintro _ ⟨⟩
    decide
  have reads : PreparedStatement.ofText "/* id:?1 */ SELECT * FROM t WHERE x IN (?) AND y = ?" =
      .ok prepared := by
    with_unfolding_all rfl
  have expands : expandLists "/* id:?1 */ SELECT * FROM t WHERE x IN (?) AND y = ?"
      parameters.positional = .ok expanded := by
    with_unfolding_all rfl
  have reads' : PreparedStatement.ofText "/* id:?1 */ SELECT * FROM t WHERE x IN (?, ?) AND y = ?" =
      .ok prepared' := by
    with_unfolding_all rfl
  have visited : byId.subTables parameters.bindings prepared = .ok (Strategy.singleton "3") := by
    with_unfolding_all rfl
  have visited' : byId.subTables (parameters.withPositional expanded.values).bindings prepared' =
      .ok (Strategy.singleton "2") := by
    with_unfolding_all rfl
  exact ⟨parameters, prepared, prepared', expanded, _, _, unnested, reads, expands, reads', visited,
    visited', by decide⟩

end ShardedSql
