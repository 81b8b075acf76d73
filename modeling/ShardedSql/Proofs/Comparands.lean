import ShardedSql.Proofs.Coverage

/-!
What the walk over a predicate compares the sharding column to. It follows `AND`, `OR`, parentheses
and the queries the column is compared to, down to the *comparands*: values, expressions without a
value, and queries over all rows of the table. Main statement: the walk answers for the comparands
one by one, in the order in which it comes to them; so a statement visits the shards that its values
pin, and all of them if something else is compared to the column or nothing is pinned.
-/

namespace ShardedSql

open Sql Text

/-- What the sharding column is compared to. -/
inductive Comparand where
  /-- A literal, or a placeholder that a value is bound to. -/
  | value (v : Value)
  /-- An expression that has no value before the statement runs. -/
  | unknown (e : Expr)
  /-- A query that ranges over the table without a condition. -/
  | allRows (query : Select)

/-- Whether a comparand may be any value at all. -/
def Comparand.isOpen : Comparand → Bool
  | .value _ => false
  | .unknown _ => true
  | .allRows _ => true

namespace Routed

variable {a b c : Routed}

theorem absorb_assoc : (a.absorb b).absorb c = a.absorb (b.absorb c) := by
  simp only [absorb, Routed.mk.injEq, Bool.or_assoc, and_true]
  apply NameSet.ext
  simp [or_assoc]

@[simp]
theorem nothing_absorb : nothing.absorb a = a := by
  simp only [absorb, nothing, Bool.false_or]
  congr 1
  apply NameSet.ext
  simp [NameSet.not_mem_empty]

@[simp]
theorem absorb_nothing : a.absorb nothing = a := by
  simp only [absorb, nothing, Bool.or_false]
  congr 1

end Routed

section Folds

variable {α : Type} {route : α → Except ShardError Routed} {items others : List α}

theorem absorbAll_append :
    absorbAll route (items ++ others) = (do
      let l ← absorbAll route items
      let r ← absorbAll route others
      return l.absorb r) := by
  induction items with
  | nil =>
      cases rest : absorbAll route others <;>
        simp [absorbAll, rest, bind, Except.bind, pure, Except.pure]
  | cons item items ih =>
      simp only [List.cons_append, absorbAll, ih, bind_assoc, pure_bind, Routed.absorb_assoc]

@[simp]
theorem absorbAll_singleton {item : α} : absorbAll route [item] = route item := by
  cases here : route item <;> simp [absorbAll, here, bind, Except.bind, pure, Except.pure]

theorem absorbAll_flatMap {β : Type} {parts : β → List α} {wholes : List β} :
    absorbAll route (wholes.flatMap parts) =
      absorbAll (fun whole => absorbAll route (parts whole)) wholes := by
  induction wholes with
  | nil => rfl
  | cons whole wholes ih => rw [List.flatMap_cons, absorbAll_append, ih, absorbAll]

/-- A suffix is pinned by one of the items, and every suffix is asked for by one of them. -/
theorem mem_absorbAll {routed : Routed} (all : absorbAll route items = .ok routed) :
    (∀ suffix, suffix ∈ routed.suffixes ↔
      ∃ item ∈ items, ∃ here, route item = .ok here ∧ suffix ∈ here.suffixes) ∧
    (routed.failOpen = true ↔
      ∃ item ∈ items, ∃ here, route item = .ok here ∧ here.failOpen = true) := by
  induction items generalizing routed with
  | nil =>
      cases all
      simp [Routed.nothing, NameSet.not_mem_empty]
  | cons item rest ih =>
      obtain ⟨here, found, all⟩ := bind_eq_ok.mp all
      obtain ⟨others, later, same⟩ := bind_eq_ok.mp all
      cases same
      obtain ⟨suffixes, failOpen⟩ := ih later
      constructor
      · intro suffix
        simp [Routed.absorb, suffixes, found]
      · simp [Routed.absorb, failOpen, found]

theorem answers_of_absorbAll {routed : Routed} (all : absorbAll route items = .ok routed) {item : α}
    (member : item ∈ items) : ∃ here, route item = .ok here := by
  induction items generalizing routed with
  | nil => cases member
  | cons first rest ih =>
      obtain ⟨here, found, all⟩ := bind_eq_ok.mp all
      obtain ⟨others, later, _⟩ := bind_eq_ok.mp all
      rcases List.mem_cons.mp member with rfl | after
      · exact ⟨here, found⟩
      · exact ih later after

end Folds

namespace Router

variable (router : Router) (bindings : Bindings)

/-- What the walk answers for one comparand. -/
def answer : Comparand → Except ShardError Routed
  | .value v => (router.suffixesFor v).map .pinned
  | .unknown _ => .ok .everything
  | .allRows _ => .ok .everything

mutual

/-- The comparands of a predicate over the bound tables. -/
def comparands (bound : List BoundTable) : Expr → List Comparand
  | .paren inner => comparands bound inner
  | .binary left .and right => comparands bound left ++ comparands bound right
  | .binary left .or right => comparands bound left ++ comparands bound right
  | .binary left .eq right =>
      if router.isShardColumn bound left then sideComparands right
      else if router.isShardColumn bound right then sideComparands left
      else []
  | .inList operand items false =>
      if router.isShardColumn bound operand then
        match items with
        | [.subquery query] => [.unknown (.subquery query)]
        | _ => listComparands items
      else []
  | _ => []

/-- The comparands in an expression that the sharding column is compared to. -/
def sideComparands : Expr → List Comparand
  | .paren inner => sideComparands inner
  | .literal l => [.value (.ofLiteral l)]
  | .placeholder place =>
      match bindings.placeholder? place with
      | some v => [.value v]
      | none => [.unknown (.placeholder place)]
  | .subquery query => queryComparands query
  | e => [.unknown e]

def listComparands : List Expr → List Comparand
  | [] => []
  | e :: rest => sideComparands e ++ listComparands rest

/-- The comparands in a query that the sharding column is compared to, if it reads the table. -/
def queryComparands : Select → List Comparand
  | query@⟨_, _, _, condition, _, _, _, _, _⟩ =>
      if router.table ∈ query.tableNames then
        match condition with
        | some predicate => comparands query.boundTables predicate
        | none => if query.boundTables.any router.owns then [.allRows query] else []
      else []

end

variable {router bindings}

mutual

/-- The walk over a predicate answers for its comparands. -/
theorem visit_eq (bound : List BoundTable) (e : Expr) :
    visit router bindings bound e =
      absorbAll router.answer (comparands router bindings bound e) := by
  unfold visit
  split
  case h_1 inner =>
    rw [comparands]
    exact visit_eq bound inner
  case h_2 left right =>
    rw [comparands, visit_eq bound left, visit_eq bound right, absorbAll_append]
  case h_3 left right =>
    rw [comparands, visit_eq bound left, visit_eq bound right, absorbAll_append]
  case h_4 left right =>
    rw [comparands]
    split
    · exact compared_eq right
    · split
      · exact compared_eq left
      · rfl
  case h_5 operand items =>
    split
    next shard =>
      split
      · rw [comparands, if_pos shard, absorbAll_singleton, answer]
      · rw [comparands, if_pos shard]
        · exact comparedAll_eq items
        · assumption
    next other =>
      unfold comparands
      simp only [other, Bool.false_eq_true, ↓reduceIte, absorbAll]
  case h_6 =>
    rw [comparands] <;> first | rfl | assumption

theorem compared_eq (e : Expr) :
    compared router bindings e = absorbAll router.answer (sideComparands router bindings e) := by
  unfold compared
  split
  case h_1 inner =>
    rw [sideComparands]
    exact compared_eq inner
  case h_2 l => rw [sideComparands, absorbAll_singleton, answer]
  case h_3 place =>
    rw [sideComparands]
    cases bindings.placeholder? place <;> (simp only [absorbAll_singleton]; rfl)
  case h_4 query =>
    rw [sideComparands]
    exact visitQuery_eq query
  case h_5 =>
    rw [sideComparands]
    · rw [absorbAll_singleton, answer]
    all_goals assumption

theorem comparedAll_eq (items : List Expr) :
    comparedAll router bindings items =
      absorbAll router.answer (listComparands router bindings items) := by
  match items with
  | [] => rfl
  | e :: rest =>
      rw [comparedAll, listComparands, compared_eq e, comparedAll_eq rest, absorbAll_append]

theorem visitQuery_eq (query : Select) :
    visitQuery router bindings query =
      absorbAll router.answer (queryComparands router bindings query) := by
  match query with
  | ⟨_, _, _, none, _, _, _, _, _⟩ =>
      rw [visitQuery, queryComparands]
      split
      · split
        · rw [absorbAll_singleton, answer]
        · rw [absorbAll]
      · rfl
  | ⟨_, _, _, some predicate, _, _, _, _, _⟩ =>
      rw [visitQuery, queryComparands]
      split
      · exact visit_eq _ predicate
      · rfl

end

/-! ## What a statement visits -/

/-- One of the comparands is a value that has the suffix. -/
def PinnedBy (router : Router) (items : List Comparand) (suffix : String) : Prop :=
  ∃ v own, .value v ∈ items ∧ router.suffixesFor v = .ok own ∧ suffix ∈ own

theorem mem_suffixes_iff {items : List Comparand} {routed : Routed}
    (all : absorbAll router.answer items = .ok routed) (suffix : String) :
    suffix ∈ routed.suffixes ↔ router.PinnedBy items suffix := by
  rw [(mem_absorbAll all).1]
  constructor
  · rintro ⟨item, member, here, answered, inside⟩
    cases item with
    | value v =>
        obtain ⟨own, found, rfl⟩ := map_eq_ok.mp answered
        exact ⟨v, own, member, found, inside⟩
    | unknown _ | allRows _ =>
        cases answered
        exact absurd inside NameSet.not_mem_empty
  · rintro ⟨v, own, member, found, inside⟩
    exact ⟨.value v, member, .pinned own, map_eq_ok.mpr ⟨own, found, rfl⟩, inside⟩

theorem failOpen_iff {items : List Comparand} {routed : Routed}
    (all : absorbAll router.answer items = .ok routed) :
    routed.failOpen = true ↔ ∃ item ∈ items, item.isOpen = true := by
  rw [(mem_absorbAll all).2]
  constructor
  · rintro ⟨item, member, here, answered, opened⟩
    refine ⟨item, member, ?_⟩
    cases item with
    | value v =>
        obtain ⟨own, found, rfl⟩ := map_eq_ok.mp answered
        cases opened
    | unknown _ | allRows _ => rfl
  · rintro ⟨item, member, opened⟩
    refine ⟨item, member, .everything, ?_, rfl⟩
    cases item with
    | value _ => cases opened
    | unknown _ | allRows _ => rfl

variable (router bindings) in
/-- The comparands of the condition that a statement's rows have to meet. -/
def conditionComparands (statement : Statement) : List Comparand :=
  match statement.condition with
  | some predicate => comparands router bindings statement.boundTables predicate
  | none => []

theorem visitStatement_eq {statement : Statement} (not_insert : isInsert statement = false) :
    visitStatement router bindings statement =
      absorbAll router.answer (conditionComparands router bindings statement) := by
  rw [visitStatement_of_not_insert not_insert, conditionComparands]
  cases statement.condition with
  | none => rfl
  | some predicate => exact visit_eq _ predicate

/-- Without a head comment a statement visits what its values pin, and every shard if something
without a value is compared to the column or nothing is pinned. -/
theorem mem_subTables_iff {prepared : PreparedStatement} {suffixes : NameSet}
    (headless : prepared.head.isEmpty = true) (not_insert : isInsert prepared.statement = false)
    (found : router.subTables bindings prepared = .ok suffixes) (suffix : String) :
    suffix ∈ suffixes ↔
      router.PinnedBy (conditionComparands router bindings prepared.statement) suffix ∨
        suffix ∈ router.strategy.allSuffixes ∧
          ((∃ item ∈ conditionComparands router bindings prepared.statement, item.isOpen = true) ∨
            ∀ other, ¬ router.PinnedBy
              (conditionComparands router bindings prepared.statement) other) := by
  simp only [subTables, overrides_of_headless headless, visitStatement_eq not_insert, bind_eq_ok,
    pure_eq_ok, Except.ok.injEq] at found
  obtain ⟨_, rfl, routed, answered, rfl⟩ := found
  have silent : routed.suffixes.isEmpty = true ↔
      ∀ other,
        ¬ router.PinnedBy (conditionComparands router bindings prepared.statement) other := by
    simp only [← mem_suffixes_iff answered, NameSet.isEmpty, List.isEmpty_iff,
      List.eq_nil_iff_forall_not_mem, NameSet.mem_def]
  rw [← failOpen_iff answered, ← mem_suffixes_iff answered, ← silent]
  have blank : (∅ : NameSet).isEmpty = true := rfl
  cases asked : routed.failOpen <;> cases empty : routed.suffixes.isEmpty <;>
    simp [asked, empty, blank, not_insert, Routed.isSilent, NameSet.not_mem_empty]

end Router

end ShardedSql
