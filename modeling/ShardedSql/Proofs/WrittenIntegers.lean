import ShardedSql.Proofs.FilledText
import ShardedSql.Proofs.StrippedHead

/-!
Integers written in a query. The sign of a negative number is a token of its own, which the grammar
reads into the number behind it; the digits are read before that, and no further than the largest
number goes. Main statement: every number but the smallest may stand wherever a zero may stand as
the first item of a query, and is read as this number.
-/

namespace ShardedSql.Sql

open Numeric Text ShardedSql.Sql.Parser Grammar
open Filling (kindsOf current_kind current_kind_of_kindsOf kindsOf_rest_of_cons expression_integer
  expression_minus intKinds kindsIn_intText kindsIn_natText digitsKind kindsIn_minus
  isDigit_of_head_natText)

/-! ## Queries from their first item on -/

namespace Grammar

/-- A query from behind the expression of its first item on. -/
def afterFirst (nested : Nested) (distinct : Bool) (first : Expr) : Parser Select := do
  let label ← itemLabel
  let others ← commaRest (selectItem nested) (← remaining)
  afterItems nested distinct (⟨first, label⟩ :: others)

/-- A statement that is a query, from behind the expression of its first item on. -/
def queryAfterFirst (nested : Nested) (first : Expr) : Parser Statement := do
  let query ← afterFirst nested false first
  statementEnd
  return .select query

end Grammar

/-- The query with another expression for its first item. -/
def Select.withFirst (query : Select) (first : Expr) : Select :=
  { query with
    items := match query.items with
      | [] => []
      | item :: others => ⟨first, item.label⟩ :: others }

/-- The second query is the first, but for the expressions of their first items and the places of
columns. -/
structure SameButFirst (first first' : Expr) (query query' : Select) : Prop where
  items : ∃ label others others',
    query.items = ⟨first, label⟩ :: others ∧ query'.items = ⟨first', label⟩ :: others'
  same : (Statement.select query').unplaced = (Statement.select (query.withFirst first')).unplaced

section Reading

variable {nested nested' : Nested} {s u : TokenStream} {first first' : Expr}

theorem selectBody_eq (distinct : Bool) :
    selectBody nested distinct = anyExpression nested >>= afterFirst nested distinct := by
  change commaList (selectItem nested) >>= afterItems nested distinct = _
  simp only [commaList, selectItem, bind_assoc, pure_bind]
  rfl

theorem select_eq_selectBody (query : s.current.kind = .keyword .SELECT)
    (no_distinct : s.rest.current.kind ≠ .keyword .DISTINCT)
    (no_all : s.rest.current.kind ≠ .keyword .ALL) :
    select nested s = selectBody nested false s.rest := by
  have found : acceptKeyword .SELECT s = .ok true s.rest := accept_of_eq query
  have passed : expectKeyword .SELECT s = .ok () s.rest := bind_ok found
  have refused : acceptKeyword .ALL s.rest = .ok false s.rest := accept_of_ne no_all
  have skipped : (discard (acceptKeyword .ALL) : Parser Unit) s.rest = .ok () s.rest := by
    simp only [discard, Functor.mapConst, Function.comp_apply, EStateM.map, refused,
      Function.const_apply]
  rw [select, bind_ok passed, bind_ok (p := acceptKeyword .DISTINCT) (accept_of_ne no_distinct)]
  exact bind_ok skipped

theorem statement_eq_queryAfterFirst (query : s.current.kind = .keyword .SELECT)
    (no_distinct : s.rest.current.kind ≠ .keyword .DISTINCT)
    (no_all : s.rest.current.kind ≠ .keyword .ALL)
    (read : anyExpression nested s.rest = .ok first u) :
    Grammar.statement nested s = queryAfterFirst nested first u := by
  have body : select nested s = afterFirst nested false first u := by
    rw [select_eq_selectBody query no_distinct no_all, selectBody_eq, bind_ok read]
  rw [Grammar.statement, statementBody, bind_assoc, currentKind_bind, query, queryAfterFirst]
  simp only [bind_assoc, pure_bind]
  simp only [bind, EStateM.bind, body]

/-- Behind its first item a query is read alike, whatever this item is. -/
theorem keeps_afterFirst (keeps : NestedKeeps .identity nested nested') (distinct : Bool)
    (first first' : Expr) :
    Keeps .identity (afterFirst nested distinct first) (afterFirst nested' distinct first')
      (SameButFirst first first') := by
  refine keeps_itemLabel.bind ?_
  rintro label _ rfl
  refine keeps_remaining.bind ?_
  rintro bound _ rfl
  refine (keeps_commaRest (keeps_selectItem keeps) bound).bind fun others others' same => ?_
  refine (keeps_afterItems keeps distinct _ _).imp fun query query' clauses => ?_
  obtain ⟨items, items', rest⟩ := clauses
  have label_same : label.map Respelling.identity.name = label := by cases label <;> rfl
  rw [label_same] at items'
  constructor
  · exact ⟨label, others, others', items, items'⟩
  · have clauses : SameClauses .identity (⟨first', label⟩ :: others) (⟨first', label⟩ :: others')
        (query.withFirst first') query' := ⟨by rw [Select.withFirst, items], items', rest⟩
    refine congrArg Statement.select ((clauses.sameSelect ?_).trans ?_)
    · rw [Respelling.identity_names] at same ⊢
      rw [namedItems_eq_map, namedItems_eq_map, List.map_cons, List.map_cons,
        map_eq_of_forall₂ same]
    · rw [Respelling.identity_names]

theorem keeps_queryAfterFirst (keeps : NestedKeeps .identity nested nested') (first first' : Expr) :
    Keeps .identity (queryAfterFirst nested first) (queryAfterFirst nested' first') fun a b =>
      ∃ query query', a = .select query ∧ b = .select query' ∧
        SameButFirst first first' query query' :=
  (keeps_afterFirst keeps false first first').bind fun query query' same =>
    keeps_statementEnd.bind fun _ _ _ => follows_pure ⟨query, query', rfl, rfl, same⟩

/-- A number is read as one, before a token that goes on with no operand. -/
theorem expression_written (depth least : Nat) {value : Int64} {rest : List TokenKind}
    (ahead : kindsOf s = intKinds value ++ rest)
    (stops : continuation? (rest.headD s.finish.kind) = none) :
    ∃ t, expression (nestedTo (depth + 1)) least s = .ok (.literal (.integer value)) t ∧
      kindsOf t = rest ∧ t.finish = s.finish ∧ t.ordinal = s.ordinal := by
  unfold intKinds at ahead
  split at ahead
  · have read := expression_minus depth least ahead stops
    rw [Int64.neg_neg] at read
    exact ⟨_, read, kindsOf_rest_of_cons (kindsOf_rest_of_cons ahead), rfl, rfl⟩
  · exact ⟨_, expression_integer least ahead stops, kindsOf_rest_of_cons ahead, rfl, rfl⟩

end Reading

/-! ## Texts -/

/-- What goes on with neither the digits nor the operand in front of it. -/
structure EndsItem (tail : String) : Prop where
  number : EndsNumber tail.toList
  operand : continuation? ((tokenKinds tail).headD .eof) = none

/-- The text of a query whose first item is a number. -/
def itemText (value : Int64) (tail : String) : String :=
  "SELECT " ++ intText value.toInt ++ tail

section Texts

variable {value : Int64} {tail : String} {query : Select}

theorem kindsIn_select (chars : List Char) :
    kindsIn ("SELECT ".toList ++ chars) = .keyword .SELECT :: kindsIn chars := by
  have kind : wordKind ('S' :: "ELECT".toList) = .keyword .SELECT := by decide +kernel
  have no_error (reason : LexError) : Lexeme.token (.keyword .SELECT) ≠ .token (.error reason) := by
    simp
  have letters : ∀ c ∈ "ELECT".toList, isWordChar c = true := List.all_eq_true.mp (by decide)
  have word : Lexed (.token (wordKind ('S' :: "ELECT".toList))) ('S' :: "ELECT".toList)
      (' ' :: chars) :=
    .word (by decide) (by decide) letters (by rintro _ ⟨⟩; decide)
      (by rintro (marker | marker) <;> cases marker)
  have blank : Lexed .blank [' '] chars := .blank (by decide)
  rw [kind] at word
  exact (kindsIn_of_lexed word no_error).trans
    (congrArg _ (kindsIn_of_lexed blank (by simp)))

theorem tokenKinds_itemText (value : Int64) (tail : String) :
    tokenKinds (itemText value tail) =
      .keyword .SELECT :: kindsIn ((intText value.toInt).toList ++ tail.toList) := by
  rw [tokenKinds_eq, itemText, String.toList_append, String.toList_append, List.append_assoc,
    kindsIn_select]

/-- The digits of the smallest number are read as an error, as they are too many without a sign. -/
theorem not_parse_smallest (ends : EndsItem tail) (parsed : Statement) :
    Statement.parse (itemText .minValue tail) ≠ .ok parsed := by
  intro read
  have text : (intText Int64.minValue.toInt).toList = '-' :: (natText (2 ^ 63)).toList := by
    decide +kernel
  have too_large : digitsKind (2 ^ 63) = .error (.integerTooLarge (natText (2 ^ 63))) :=
    if_neg (by decide)
  have clear := error_not_mem_tokenKinds read (.integerTooLarge (natText (2 ^ 63)))
  rw [tokenKinds_itemText, text, List.cons_append, kindsIn_minus (isDigit_of_head_natText _ _),
    kindsIn_natText _ ends.number, too_large] at clear
  simp at clear

theorem statement_itemText (regular : value ≠ .minValue) (ends : EndsItem tail) (depth : Nat) :
    ∃ u, Grammar.statement (nestedTo (depth + 2)) (.ofText (itemText value tail)) =
        queryAfterFirst (nestedTo (depth + 2)) (.literal (.integer value)) u ∧
      kindsOf u = tokenKinds tail ∧ u.finish.kind = .eof ∧ u.ordinal = 0 := by
  have ahead : kindsOf (.ofText (itemText value tail)) =
      .keyword .SELECT :: (intKinds value ++ tokenKinds tail) := by
    change tokenKinds _ = _
    rw [tokenKinds_itemText, kindsIn_intText regular ends.number, tokenKinds_eq tail]
  have ahead_item := kindsOf_rest_of_cons ahead
  have no_keyword (word : Keyword) :
      (TokenStream.ofText (itemText value tail)).rest.current.kind ≠ .keyword word := by
    rw [current_kind, ahead_item]
    unfold intKinds
    split <;> simp
  obtain ⟨u, read, behind, finish, ordinal⟩ := expression_written depth 0 ahead_item ends.operand
  refine ⟨u, ?_, behind, by rw [finish]; rfl, by rw [ordinal]; rfl⟩
  exact statement_eq_queryAfterFirst (current_kind_of_kindsOf ahead) (no_keyword _) (no_keyword _)
    read

/-- Nesting goes deep enough for the tokens of the item. -/
theorem depth_itemText (regular : value ≠ .minValue) (ends : EndsItem tail) :
    (textTokens (itemText value tail)).length + 1 =
      (intKinds value).length + (tokenKinds tail).length + 2 := by
  have length : (tokenKinds (itemText value tail)).length = _ := List.length_map _
  rw [← length, tokenKinds_itemText, kindsIn_intText regular ends.number, ← tokenKinds_eq,
    List.length_cons, List.length_append]

theorem parse_itemText (regular : value ≠ .minValue) (ends : EndsItem tail)
    (zero : Statement.parse (itemText 0 tail) = .ok (.select query)) :
    ∃ query', Statement.parse (itemText value tail) = .ok (.select query') ∧
      SameButFirst (.literal (.integer 0)) (.literal (.integer value)) query query' := by
  have regular_zero : (0 : Int64) ≠ .minValue := by decide
  obtain ⟨t, read⟩ := parse_eq_ok.mp zero
  rw [depth_itemText regular_zero ends] at read
  obtain ⟨u, reads, behind, finish, ordinal⟩ := statement_itemText regular_zero ends _
  obtain ⟨u', reads', behind', finish', ordinal'⟩ := statement_itemText regular ends
    ((intKinds value).length + (tokenKinds tail).length)
  rw [reads] at read
  have deeper : (intKinds 0).length + (tokenKinds tail).length + 2 ≤
      (intKinds value).length + (tokenKinds tail).length + 2 := by
    have longer : 1 ≤ (intKinds value).length := by
      unfold intKinds
      split <;> simp
    have single : (intKinds 0).length = 1 := rfl
    omega
  have respelled : Respelled .identity false u u' := by
    refine ⟨?_, Respelling.identity_keepsLabels _, ordinal'.trans ordinal.symm, finish, finish'⟩
    rw [Respelling.identity_kinds]
    exact behind'.trans behind.symm
  obtain ⟨parsed, t', read', ⟨query₀, query', same_query, rfl, same⟩, _⟩ :=
    keeps_queryAfterFirst (keeps_nestedTo deeper) _ (.literal (.integer value)) u u' _ t respelled
      trivial read
  cases same_query
  refine ⟨query', parse_eq_ok.mpr ⟨t', ?_⟩, same⟩
  rw [depth_itemText regular ends, reads', read']

end Texts

theorem Select.items_named (f : NameMap) (query : Select) :
    (query.named f).items = query.items.map (·.named f) := by
  cases query
  exact namedItems_eq_map f _

/-- A query of one item. -/
def itemQuery (value : Int64) : Select :=
  { distinct := false
    items := [⟨.literal (.integer value), none⟩]
    source := none
    condition := none
    groups := []
    having := none
    order := []
    limit := none
    offset := none }

/-- Exactly the smallest number cannot be written as an item: not as the only one, and not as the
first one where a zero can stand. Every other is read as what it is. -/
theorem Statement.parse_integer_iff (value : Int64) :
    ((∃ query, Statement.parse (itemText value "") = .ok (.select query) ∧
        query.items = [⟨.literal (.integer value), none⟩]) ↔ value ≠ .minValue) ∧
    ∀ tail query, EndsItem tail → Statement.parse (itemText 0 tail) = .ok (.select query) →
      ((∃ query', Statement.parse (itemText value tail) = .ok (.select query') ∧
        SameButFirst (.literal (.integer 0)) (.literal (.integer value)) query query') ↔
          value ≠ .minValue) := by
  have bare : EndsItem "" := ⟨by simp [EndsNumber], by decide +kernel⟩
  have zero : Statement.parse (itemText 0 "") = .ok (.select (itemQuery 0)) := by
    with_unfolding_all rfl
  have regular {tail : String} {parsed : Statement} (ends : EndsItem tail)
      (read : Statement.parse (itemText value tail) = .ok parsed) : value ≠ .minValue := by
    rintro rfl
    exact not_parse_smallest ends parsed read
  refine ⟨⟨?_, fun apart => ?_⟩, fun tail query ends read => ⟨?_, fun apart => ?_⟩⟩
  · rintro ⟨_, read, -⟩
    exact regular bare read
  · obtain ⟨query, read, same⟩ := parse_itemText apart bare zero
    obtain ⟨⟨label, others, others', items, items'⟩, same⟩ := same
    refine ⟨query, read, ?_⟩
    cases items
    have all_items := congrArg Select.items (Statement.select.inj same)
    rw [Select.items_named, Select.items_named, items'] at all_items
    rw [items', List.map_eq_nil_iff.mp (List.cons.inj all_items).2]
  · rintro ⟨_, parsed, -⟩
    exact regular ends parsed
  · exact parse_itemText apart ends read

theorem parse_smallest :
    itemText .minValue "" = "SELECT -9223372036854775808" ∧
      Statement.parse "SELECT -9223372036854775808" = .error
        (.unexpected .expression (.error (.integerTooLarge "9223372036854775808")) ⟨8, 27⟩) := by
  constructor
  · decide +kernel
  · with_unfolding_all rfl

end ShardedSql.Sql
