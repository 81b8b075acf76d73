import ShardedSql.Proofs.KeyNumber
import ShardedSql.Proofs.Suffixes

/-!
Which records a routed statement reaches. The router reads the comparisons of the sharding column
under `AND`, `OR` and parentheses, and collects what they pin. A record *escapes* when it meets the
condition along alternatives in which no such comparison stands. Main statement: for a table sharded
by remainders, the shards a statement visits hold every record that meets its condition exactly if
they hold every one that escapes; none escapes where each alternative pins the column.
-/

namespace ShardedSql.Router

open Numeric Sql Text

variable (router : Router)

/-- Whether a condition is a comparison that the router reads. -/
def pins (bound : List BoundTable) : Expr → Bool
  | .binary left .eq right =>
      router.isShardColumn bound left || router.isShardColumn bound right
  | .inList operand _ false => router.isShardColumn bound operand
  | _ => false

/-- The condition holds along alternatives that compare the sharding column to nothing. -/
def Escapes (reading : Reading) : Expr → Prop
  | .paren inner => Escapes reading inner
  | .binary left .and right => Escapes reading left ∧ Escapes reading right
  | .binary left .or right => Escapes reading left ∨ Escapes reading right
  | e => router.pins reading.bound e = false ∧ reading.truth e = some true

/-- Whether every alternative of a condition compares the sharding column. -/
def settles (bound : List BoundTable) : Expr → Bool
  | .paren inner => settles bound inner
  | .binary left .and right => settles bound left || settles bound right
  | .binary left .or right => settles bound left && settles bound right
  | e => router.pins bound e

/-- Whether a set of suffixes has those of a value. -/
def Holds (suffixes : NameSet) (v : Value) : Prop :=
  ∀ own, router.strategy.suffixesFor v = .ok own → ∀ suffix ∈ own, suffix ∈ suffixes

/-- Whether a predicate's answer reaches the shards of a value. -/
def Reaches (routed : Routed) (v : Value) : Prop :=
  routed.failOpen = true ∨ router.Holds routed.suffixes v

/-- What an integer column holds. -/
def IsIntegral (v : Value) : Prop :=
  v = .null ∨ ∃ n, v = .integer n

section Sets

variable {router} {suffixes others : NameSet} {routed other : Routed} {v : Value}

theorem Holds.union_left (holds : router.Holds suffixes v) : router.Holds (suffixes ∪ others) v :=
  fun own found suffix member => NameSet.mem_union.mpr (.inl (holds own found suffix member))

theorem Holds.union_right (holds : router.Holds others v) : router.Holds (suffixes ∪ others) v :=
  fun own found suffix member => NameSet.mem_union.mpr (.inr (holds own found suffix member))

theorem Reaches.absorb_left (reaches : router.Reaches routed v) :
    router.Reaches (routed.absorb other) v := by
  rcases reaches with asked | holds
  · exact .inl (by simp [Routed.absorb, asked])
  · exact .inr holds.union_left

theorem Reaches.absorb_right (reaches : router.Reaches other v) :
    router.Reaches (routed.absorb other) v := by
  rcases reaches with asked | holds
  · exact .inl (by simp [Routed.absorb, asked])
  · exact .inr holds.union_right

theorem holds_null (table : router.strategy.suffixesFor .null = .ok ∅) :
    router.Holds suffixes .null := by
  intro own found suffix member
  rw [table, Except.ok.injEq] at found
  subst found
  exact absurd member NameSet.not_mem_empty

end Sets

/-! ## Values that equal the column's -/

section Remainders

variable {router} {column : String} {modulus : Nat} {positive : 0 < modulus}
  (remainders : router.strategy = .modulo column modulus positive)

include remainders

theorem suffixesFor_integer (n : SizedInt) :
    router.strategy.suffixesFor (.integer n) =
      .ok (Strategy.singleton (intText (n.val % modulus))) := by
  rw [remainders]
  rfl

theorem suffixesFor_null : router.strategy.suffixesFor .null = .ok ∅ := by
  rw [remainders]
  rfl

/-- A value that is mapped at all is nothing, or it is mapped by its key integer. -/
theorem suffixesFor_eq_ok {v : Value} {own : NameSet}
    (found : router.strategy.suffixesFor v = .ok own) :
    v = .null ∨ ∃ k, Strategy.keyInteger? v = some k ∧
      own = Strategy.singleton (intText (k % modulus)) := by
  rw [remainders] at found
  by_cases empty : v.isNull = true
  · left
    cases v <;> simp_all [Value.isNull]
  · right
    simp only [Strategy.suffixesFor, empty, Bool.false_eq_true, ↓reduceIte] at found
    cases key : Strategy.keyInteger? v with
    | none => simp [key] at found
    | some k =>
        simp only [key, Option.map_some, Except.ok.injEq] at found
        exact ⟨k, rfl, found.symm⟩

theorem holds_of_equalsPlain {n : SizedInt} {v : Value} {own : NameSet}
    (found : router.strategy.suffixesFor v = .ok own)
    (equal : Value.equalsPlain (.integer n) v = some true ∨
      Value.equalsPlain v (.integer n) = some true) :
    router.Holds own (.integer n) := by
  rcases suffixesFor_eq_ok remainders found with rfl | ⟨k, key, rfl⟩
  · simp [Value.equalsPlain] at equal
  · have same : n.val = k := Value.eq_keyInteger_of_equals equal key
    intro theirs theirs_found suffix member
    rw [suffixesFor_integer remainders, Except.ok.injEq] at theirs_found
    rw [← same]
    exact theirs_found ▸ member

theorem holds_of_equalsAny {n : SizedInt} {items : List Value} {own : NameSet}
    (found : router.suffixesForAll items = .ok own)
    (equal : Value.equalsAny (.integer n) items = some true) :
    router.Holds own (.integer n) := by
  induction items generalizing own with
  | nil => simp [Value.equalsAny] at equal
  | cons item rest ih =>
      simp only [suffixesForAll, bind_eq_ok, pure_eq_ok] at found
      obtain ⟨here, here_found, others, others_found, rfl⟩ := found
      rw [Value.equalsAny, Truth.or_eq_true] at equal
      rcases equal with equal | equal
      · refine Holds.union_left (holds_of_equalsPlain remainders here_found (.inl ?_))
        -- A list inside a list has no suffixes, so the item is plain.
        cases item with
        | list _ =>
            rcases suffixesFor_eq_ok remainders here_found with nothing | ⟨k, key, _⟩
            · simp at nothing
            · simp [Strategy.keyInteger?, Value.int64?] at key
        | _ => simpa only [Value.equals] using equal
      · exact Holds.union_right (ih others_found equal)

theorem holds_of_equals {n : SizedInt} {v : Value} {own : NameSet}
    (found : router.suffixesFor v = .ok own)
    (equal : Value.equals (.integer n) v = some true ∨
      Value.equals v (.integer n) = some true) :
    router.Holds own (.integer n) := by
  cases v with
  | list items =>
      rcases equal with equal | equal
      · exact holds_of_equalsAny remainders found (by simpa only [Value.equals] using equal)
      · simp [Value.equals, Value.equalsPlain, Value.number?, BEq.beq, Value.same] at equal
  | _ =>
      exact holds_of_equalsPlain remainders found (by simpa only [Value.equals] using equal)

end Remainders

/-! ## The walk over a condition -/

section Walk

variable {router} {bindings : Bindings} {reading : Reading} {v : Value}

/-- The sharding column has the record's value, however it is qualified. -/
theorem value_shardColumn {e : Expr} (same_table : reading.table = router.table)
    (stored : reading.record (lowerAscii router.strategy.column) = some v)
    (shard : router.isShardColumn reading.bound e = true) : reading.value e = v := by
  rw [← Reading.value_unparenthesized]
  unfold isShardColumn at shard
  split at shard
  next table name _ bare =>
    simp only [Bool.and_eq_true] at shard
    obtain ⟨same_name, bound⟩ := shard
    have named : lowerAscii name = lowerAscii router.strategy.column := by
      have folded : foldCase name.toList = foldCase router.strategy.column.toList := by
        simpa [sameWord, sameChars] using same_name
      rw [lowerAscii, lowerAscii, folded]
    have reached : reading.reaches table = true := by
      unfold Reading.reaches
      rw [same_table]
      cases table with
      | some qualifier =>
          obtain ⟨b, member, answers⟩ := List.any_eq_true.mp bound
          obtain ⟨inside, own⟩ := List.mem_filter.mp member
          refine List.any_eq_true.mpr ⟨b, inside, ?_⟩
          simpa [owns] using And.intro own answers
      | none =>
          cases own : reading.bound.filter router.owns with
          | nil => simp [own] at bound
          | cons b _ =>
              have member : b ∈ reading.bound.filter router.owns := by simp [own]
              obtain ⟨inside, owned⟩ := List.mem_filter.mp member
              refine List.any_eq_true.mpr ⟨b, inside, ?_⟩
              simpa [owns] using owned
    rw [bare]
    simp [Reading.value, Reading.column, reached, named, stored]
  next => simp at shard

variable {column : String} {modulus : Nat} {positive : 0 < modulus} {n : SizedInt}
  (remainders : router.strategy = .modulo column modulus positive)
  (same_bindings : reading.bindings = bindings)

include remainders same_bindings

theorem compared_reaches {e : Expr} {routed : Routed} (plain : e.subqueries = [])
    (found : router.compared bindings e = .ok routed)
    (equal : Value.equals (.integer n) (reading.value e) = some true ∨
      Value.equals (reading.value e) (.integer n) = some true) :
    router.Reaches routed (.integer n) := by
  induction e using Expr.unparenthesized.induct with
  | case1 inner ih =>
      simp only [compared] at found
      simp only [Reading.value] at equal
      exact ih (by simpa [Expr.subqueries] using plain) found equal
  | case2 e bare =>
      cases e with
      | paren inner => exact absurd rfl (bare inner)
      | literal l =>
          simp only [compared, map_eq_ok] at found
          obtain ⟨own, own_found, rfl⟩ := found
          refine .inr (holds_of_equals remainders own_found ?_)
          simpa only [Reading.value] using equal
      | placeholder place =>
          simp only [Reading.value, same_bindings] at equal
          simp only [compared] at found
          -- Without a bound value every suffix is asked for.
          cases bound : bindings.placeholder? place with
          | none =>
              simp only [bound, Except.ok.injEq] at found
              exact .inl (found ▸ rfl)
          | some w =>
              simp only [bound, map_eq_ok] at found
              obtain ⟨own, own_found, rfl⟩ := found
              exact .inr (holds_of_equals remainders own_found (by simpa [bound] using equal))
      | subquery query => simp [Expr.subqueries] at plain
      | _ =>
          simp only [compared, Except.ok.injEq] at found
          exact .inl (found ▸ rfl)

theorem comparedAll_reaches {items : List Expr} {routed : Routed}
    (plain : listSubqueries items = [])
    (found : router.comparedAll bindings items = .ok routed)
    (equal : some true ∈ (reading.values items).map (Value.equals (.integer n))) :
    router.Reaches routed (.integer n) := by
  induction items generalizing routed with
  | nil => simp [Reading.values] at equal
  | cons e rest ih =>
      simp only [listSubqueries, List.append_eq_nil_iff] at plain
      simp only [comparedAll, bind_eq_ok, pure_eq_ok] at found
      obtain ⟨here, here_found, others, others_found, rfl⟩ := found
      simp only [Reading.values, List.map_cons, List.mem_cons] at equal
      rcases equal with first | later
      · have here_reaches := compared_reaches remainders same_bindings plain.1 here_found
          (.inl first.symm)
        exact here_reaches.absorb_left
      · exact (ih plain.2 others_found later).absorb_right

variable (same_table : reading.table = router.table)
  (stored : reading.record (lowerAscii router.strategy.column) = some (.integer n))

include same_table stored

/-- A comparison that the router reads reaches the shards of every record it holds of. -/
theorem visit_pins {e : Expr} {routed : Routed} (plain : e.subqueries = [])
    (pinned : router.pins reading.bound e = true)
    (found : router.visit bindings reading.bound e = .ok routed)
    (holds : reading.truth e = some true) : router.Reaches routed (.integer n) := by
  unfold pins at pinned
  split at pinned
  next left right =>
    simp only [Expr.subqueries, List.append_eq_nil_iff] at plain
    rw [Reading.truth_eq] at holds
    -- The router reads the side across from the column, and takes a column on the left first.
    by_cases first : router.isShardColumn reading.bound left = true
    · rw [value_shardColumn same_table stored first] at holds
      simp only [visit, first, ↓reduceIte] at found
      exact compared_reaches remainders same_bindings plain.2 found (.inl holds)
    · have second : router.isShardColumn reading.bound right = true := by
        simpa [first] using pinned
      rw [value_shardColumn same_table stored second] at holds
      simp only [visit, first, second, Bool.false_eq_true, ↓reduceIte] at found
      exact compared_reaches remainders same_bindings plain.1 found (.inr holds)
  next operand items =>
    simp only [Expr.subqueries, List.append_eq_nil_iff] at plain
    rw [Reading.truth_inList, value_shardColumn same_table stored pinned,
      Truth.any_eq_true] at holds
    simp only [visit, pinned, ↓reduceIte] at found
    split at found
    · simp [listSubqueries, Expr.subqueries] at plain
    · exact comparedAll_reaches remainders same_bindings plain.2 found holds
  next => simp at pinned

/-- A record that meets a condition escapes, or the walk over the condition reaches its shard. -/
theorem visit_reaches {predicate : Expr} {routed : Routed} (plain : predicate.subqueries = [])
    (found : router.visit bindings reading.bound predicate = .ok routed)
    (holds : reading.truth predicate = some true) :
    router.Escapes reading predicate ∨ router.Reaches routed (.integer n) := by
  induction predicate using Escapes.induct generalizing routed with
  | case1 inner ih =>
      simp only [visit] at found
      rw [Reading.truth_paren] at holds
      exact ih (by simpa [Expr.subqueries] using plain) found holds
  | case2 left right left_ih right_ih =>
      simp only [Expr.subqueries, List.append_eq_nil_iff] at plain
      simp only [visit, bind_eq_ok, pure_eq_ok] at found
      obtain ⟨l, l_found, r, r_found, rfl⟩ := found
      rw [Reading.truth_and, Truth.and_eq_true] at holds
      -- Both sides hold, and one of them that reaches the shard is enough.
      rcases left_ih plain.1 l_found holds.1 with l_escapes | reaches
      · rcases right_ih plain.2 r_found holds.2 with r_escapes | reaches
        · exact .inl ⟨l_escapes, r_escapes⟩
        · exact .inr reaches.absorb_right
      · exact .inr reaches.absorb_left
  | case3 left right left_ih right_ih =>
      simp only [Expr.subqueries, List.append_eq_nil_iff] at plain
      simp only [visit, bind_eq_ok, pure_eq_ok] at found
      obtain ⟨l, l_found, r, r_found, rfl⟩ := found
      rw [Reading.truth_or, Truth.or_eq_true] at holds
      -- Only the side that holds says anything; the other one can but add suffixes.
      rcases holds with holds | holds
      · rcases left_ih plain.1 l_found holds with escapes | reaches
        · exact .inl (.inl escapes)
        · exact .inr reaches.absorb_left
      · rcases right_ih plain.2 r_found holds with escapes | reaches
        · exact .inl (.inr escapes)
        · exact .inr reaches.absorb_right
  | case4 e not_paren not_and not_or =>
      by_cases pinned : router.pins reading.bound e = true
      · exact .inr (visit_pins remainders same_bindings same_table stored plain pinned found holds)
      · left
        unfold Escapes
        split
        next inner => exact absurd rfl (not_paren inner)
        next left right => exact absurd rfl (not_and left right)
        next left right => exact absurd rfl (not_or left right)
        next => exact ⟨by simpa using pinned, holds⟩

end Walk

/-! ## What a statement visits -/

section Statements

variable {router} {bindings : Bindings}

/-- A statement on one record of the router's table. -/
def reading (router : Router) (dialect : Dialect) (bindings : Bindings) (statement : Statement)
    (record : Record) : Reading :=
  ⟨dialect, bindings, statement.boundTables, router.table, record⟩

/-- Whether the shards with these suffixes are all that may hold a record, by its integer in the
sharding column. -/
def Keeps (suffixes : NameSet) (record : Record) : Prop :=
  ∀ v, record (lowerAscii router.strategy.column) = some v → IsIntegral v →
    router.Holds suffixes v

theorem truth_of_escapes {reading : Reading} {e : Expr} (escapes : router.Escapes reading e) :
    reading.truth e = some true := by
  induction e using Escapes.induct with
  | case1 inner ih =>
      rw [Reading.truth_paren]
      exact ih escapes
  | case2 left right left_ih right_ih =>
      rw [Reading.truth_and, Truth.and_eq_true]
      exact ⟨left_ih escapes.1, right_ih escapes.2⟩
  | case3 left right left_ih right_ih =>
      rw [Reading.truth_or, Truth.or_eq_true]
      exact escapes.imp left_ih right_ih
  | case4 e not_paren not_and not_or =>
      rw [Escapes] at escapes
      · exact escapes.2
      · exact not_paren
      · exact not_and
      · exact not_or

theorem not_escapes_of_settles {reading : Reading} {e : Expr}
    (settled : router.settles reading.bound e = true) : ¬ router.Escapes reading e := by
  induction e using Escapes.induct with
  | case1 inner ih => exact ih settled
  | case2 left right left_ih right_ih =>
      intro escapes
      rcases Bool.or_eq_true_iff.mp settled with first | second
      · exact left_ih first escapes.1
      · exact right_ih second escapes.2
  | case3 left right left_ih right_ih =>
      intro escapes
      have both := Bool.and_eq_true_iff.mp settled
      exact escapes.elim (left_ih both.1) (right_ih both.2)
  | case4 e not_paren not_and not_or =>
      intro escapes
      rw [Escapes] at escapes
      · rw [settles] at settled
        · simp [settled] at escapes
        · exact not_paren
        · exact not_and
        · exact not_or
      · exact not_paren
      · exact not_and
      · exact not_or

theorem overrides_of_headless {head : HeadComment} (headless : head.isEmpty = true) :
    router.overrides bindings head = .ok ∅ := by
  have nothing : head.entries = [] := List.isEmpty_iff.mp headless
  simp [overrides, HeadComment.valuesFor, nothing, pure, Except.pure]

theorem visitStatement_of_not_insert {statement : Statement}
    (not_insert : isInsert statement = false) :
    visitStatement router bindings statement =
      statement.condition.elim (.ok .nothing) (visit router bindings statement.boundTables) := by
  cases condition : statement.condition <;> cases statement <;>
    simp_all [visitStatement, isInsert]

variable {column : String} {modulus : Nat} {positive : 0 < modulus}
  (remainders : router.strategy = .modulo column modulus positive)

include remainders

/-- Every value is in one of the shards that there are. -/
theorem holds_allSuffixes (v : Value) : router.Holds router.strategy.allSuffixes v := by
  have counts : router.strategy.Counts := by
    rw [remainders]
    trivial
  exact counts.gives v

/-- A record that meets a statement's condition and does not escape is in a shard it visits. -/
theorem subTables_keeps {dialect : Dialect} {prepared : PreparedStatement} {suffixes : NameSet}
    {record : Record} (headless : prepared.head.isEmpty = true)
    (not_insert : isInsert prepared.statement = false)
    (plain : ∀ predicate, prepared.statement.condition = some predicate →
      predicate.subqueries = [])
    (found : router.subTables bindings prepared = .ok suffixes)
    (meets : (router.reading dialect bindings prepared.statement record).Meets
      prepared.statement.condition)
    (bounded : ∀ predicate, prepared.statement.condition = some predicate →
      ¬ router.Escapes (router.reading dialect bindings prepared.statement record) predicate) :
    router.Keeps suffixes record := by
  intro v stored integral
  simp only [subTables, overrides_of_headless headless, bind_eq_ok, pure_eq_ok,
    Except.ok.injEq] at found
  obtain ⟨_, rfl, routed, routed_found, rfl⟩ := found
  -- Where every suffix is asked for, or none is pinned, there is nothing to show.
  by_cases all : (routed.failOpen || ((∅ : NameSet).isEmpty &&
      !isInsert prepared.statement && routed.isSilent)) = true
  · rw [if_pos all]
    exact (holds_allSuffixes remainders _).union_right
  · have asked : routed.failOpen = false := by simp_all
    have pinned : routed.isSilent = false := by
      simpa [not_insert, asked, NameSet.isEmpty, EmptyCollection.emptyCollection,
        NameSet.empty] using all
    rw [if_neg all]
    refine Holds.union_right ?_
    cases condition : prepared.statement.condition with
    | none =>
        have nothing : routed = .nothing := by
          cases statement : prepared.statement <;>
            simp_all [visitStatement, isInsert]
        subst nothing
        simp [Routed.isSilent, Routed.nothing, NameSet.isEmpty, EmptyCollection.emptyCollection,
          NameSet.empty] at pinned
    | some predicate =>
        have visited : router.visit bindings prepared.statement.boundTables predicate =
            .ok routed := by
          cases statement : prepared.statement <;>
            simp_all [visitStatement, isInsert]
        rw [condition] at meets
        rcases integral with rfl | ⟨n, rfl⟩
        · exact holds_null (suffixesFor_null remainders)
        · rcases visit_reaches remainders rfl rfl stored (plain predicate condition) visited meets
            with escapes | open_ | holds
          · exact absurd escapes (bounded predicate condition)
          · simp [asked] at open_
          · exact holds

/-- A statement visits the shards of every record that meets its condition, exactly if it visits
those of every record that escapes. It does where each alternative compares the column. -/
theorem subTables_keeps_iff {dialect : Dialect} {prepared : PreparedStatement} {suffixes : NameSet}
    (headless : prepared.head.isEmpty = true) (not_insert : isInsert prepared.statement = false)
    (plain : ∀ predicate, prepared.statement.condition = some predicate →
      predicate.subqueries = [])
    (found : router.subTables bindings prepared = .ok suffixes) :
    ((∀ record, (router.reading dialect bindings prepared.statement record).Meets
          prepared.statement.condition → router.Keeps suffixes record) ↔
        ∀ record predicate, prepared.statement.condition = some predicate →
          router.Escapes (router.reading dialect bindings prepared.statement record) predicate →
          router.Keeps suffixes record) ∧
      ((∀ predicate, prepared.statement.condition = some predicate →
          router.settles prepared.statement.boundTables predicate = true) →
        ∀ record, (router.reading dialect bindings prepared.statement record).Meets
          prepared.statement.condition → router.Keeps suffixes record) := by
  have bounded := @subTables_keeps router bindings _ _ _ remainders dialect prepared suffixes
  constructor
  · constructor
    · intro kept record predicate condition escapes
      refine kept record ?_
      rw [condition]
      exact truth_of_escapes escapes
    · intro kept record meets
      by_cases inside : ∃ predicate, prepared.statement.condition = some predicate ∧
          router.Escapes (router.reading dialect bindings prepared.statement record) predicate
      · obtain ⟨predicate, condition, escapes⟩ := inside
        exact kept record predicate condition escapes
      · exact bounded headless not_insert plain found meets
          fun predicate condition escapes => inside ⟨predicate, condition, escapes⟩
  · intro settled record meets
    exact bounded headless not_insert plain found meets
      fun predicate condition => not_escapes_of_settles (settled predicate condition)

end Statements

/-! ## A table in four shards -/

/-- The table `t` by the remainder of `id`. -/
def byId : Router :=
  .ofTable "t" (.modulo "id" 4 (by decide))

/-- `id = 1` where it stands in `SELECT * FROM t WHERE id = 1`. -/
def idIsOne : Expr :=
  .binary (.column none "id" ⟨22, 24⟩) .eq (.literal (.integer 1))

/-- `x = 2` behind that and an `OR`. -/
def xIsTwo : Expr :=
  .binary (.column none "x" ⟨32, 33⟩) .eq (.literal (.integer 2))

def selectWhere (condition : Expr) : Statement :=
  .select { Select.ofItems [⟨.wildcard none, none⟩] (some (.bare "t")) with
    condition := some condition }

theorem subTables_keeps_pinned :
    ∃ prepared suffixes,
      PreparedStatement.ofText "SELECT * FROM t WHERE id = 1" = .ok prepared ∧
      byId.subTables .empty prepared = .ok suffixes ∧
      ∀ dialect record,
        (byId.reading dialect .empty prepared.statement record).Meets
          prepared.statement.condition → byId.Keeps suffixes record := by
  let prepared : PreparedStatement :=
    ⟨.empty, "SELECT * FROM t WHERE id = 1", selectWhere idIsOne⟩
  have parsed : PreparedStatement.ofText "SELECT * FROM t WHERE id = 1" = .ok prepared := by
    with_unfolding_all rfl
  have visited : byId.subTables .empty prepared = .ok (Strategy.singleton "1") := by
    with_unfolding_all rfl
  refine ⟨_, _, parsed, visited, fun dialect => ?_⟩
  refine (subTables_keeps_iff rfl rfl rfl ?_ visited).2 ?_
  · rintro _ ⟨⟩
    rfl
  · rintro _ ⟨⟩
    decide +kernel

/-- Beside the alternative that pins the column, one about another column: the record that has 2 in
both is in a shard that the statement does not visit. -/
theorem subTables_misses_alternative :
    ∃ prepared suffixes dialect record,
      PreparedStatement.ofText "SELECT * FROM t WHERE id = 1 OR x = 2" = .ok prepared ∧
      byId.subTables .empty prepared = .ok suffixes ∧
      (byId.reading dialect .empty prepared.statement record).Meets prepared.statement.condition ∧
      ¬ byId.Keeps suffixes record := by
  let prepared : PreparedStatement :=
    ⟨.empty, "SELECT * FROM t WHERE id = 1 OR x = 2", selectWhere (.binary idIsOne .or xIsTwo)⟩
  have parsed : PreparedStatement.ofText "SELECT * FROM t WHERE id = 1 OR x = 2" =
      .ok prepared := by
    with_unfolding_all rfl
  have visited : byId.subTables .empty prepared = .ok (Strategy.singleton "1") := by
    with_unfolding_all rfl
  refine ⟨_, _, default, fun _ => some (.integer (.ofInt64 2)), parsed, visited, ?_, fun kept => ?_⟩
  · change Reading.truth _ _ = some true
    decide +kernel
  · have reached := kept _ rfl (.inr ⟨_, rfl⟩) _ (suffixesFor_integer rfl _) "2" (by decide +kernel)
    exact absurd reached (by decide +kernel)

end ShardedSql.Router
