import ShardedSql.Proofs.Leaves
import ShardedSql.Proofs.OperatorGrouping

/-!
Every rule of the grammar gathers the leaves of what it answers from the tokens it passes. Two
grammars are followed at once: their nested rules do the same, and so do the rules over them. Main
statement: the leaves of a statement are written in the tokens that are read, each in tokens of its
own.
-/

namespace ShardedSql.Sql

open Numeric Text ShardedSql.Sql.Parser Grammar

/-! ## Names, integers and signs -/

theorem Token.eq_of_kind (token : Token) {kind : TokenKind} (same : token.kind = kind) :
    token = ⟨kind, token.span⟩ := by
  rw [← same]

section Operands

variable {s t : TokenStream} {found given : List Leaf} {nested : Nested} {p q : Parser Expr}

/-- A name that opens no call is a column, perhaps with a qualifier before it, or the table of a
wildcard. -/
theorem takes_column (unsigned : s.Unsigned) {name : String} {span : Span}
    (here : s.current = ⟨.identifier name, span⟩) (bare : s.rest.current.kind ≠ .symbol .leftParen)
    {e : Expr} (read : afterName nested name span s.rest = .ok e t) : Takes s t e.leaves := by
  have first := unsigned.ahead_eq (by simp [here])
  rw [afterName_eq bare] at read
  by_cases dot : s.rest.current.kind = .symbol .dot
  · rw [if_pos dot] at read
    have rest := unsigned.after (takes_rest s)
    have behind := rest.after (takes_rest s.rest)
    have second := rest.ahead_eq (by simp [dot])
    by_cases star : s.rest.rest.current.kind = .symbol .star
    · have passed : acceptSymbol .star s.rest.rest = .ok true s.rest.rest.rest :=
        accept_of_eq star
      rw [behindPoint, bind_ok passed] at read
      cases read
      exact ((takes_rest s).trans (takes_rest s.rest)).trans (takes_rest s.rest.rest)
    · obtain ⟨column, kind, rfl, rfl⟩ := (behindPoint_eq_ok star).mp read
      have third := behind.ahead_eq (by simp [kind])
      have spells : Spells [s.current, s.rest.current, s.rest.rest.current]
          ⟨some name, column, span.merge s.rest.rest.current.span⟩ := by
        rw [here, s.rest.current.eq_of_kind dot, s.rest.rest.current.eq_of_kind kind]
        exact .qualified
      exact ⟨⟨_, by rw [first, second, third]; rfl, .column spells .nil⟩, rfl⟩
  · rw [if_neg dot] at read
    cases read
    exact ⟨⟨[s.current], first, here ▸ .column .name .nil⟩, rfl⟩

theorem afterName_call (called : s.current.kind = .symbol .leftParen)
    (name : String) (span : Span) : afterName nested name span s = callOf nested name s := by
  rw [afterName, atSymbol, bind_ok (isAt_eq _ _), called]
  rfl

theorem gathers_integer {n : Int64} :
    GathersAt (·.kind = .integer n) given (literalOf (.integer n)) (literalOf (.integer n))
      fun e => given ++ e.leaves := by
  intro s unsigned here
  refine ⟨rfl, fun e t read => ?_⟩
  cases read
  have ahead := unsigned.ahead_eq (by simp [here])
  refine ⟨[.integer n], ⟨⟨[s.current], ahead, ?_⟩, rfl⟩, .refl _⟩
  rw [s.current.eq_of_kind here]
  exact .integer (.inl rfl) .nil

/-- Only a minus before an integer changes what the operand holds. -/
theorem leaves_apply {sign : Sign} {e : Expr}
    (other : ∀ n, ¬ (sign = .op .neg ∧ e = .literal (.integer n))) :
    (sign.apply e).leaves = e.leaves := by
  unfold Sign.apply
  split <;> simp_all [Expr.leaves, Literal.leaves]

theorem Takes.applied (takes : Takes s t found) (sign : Sign)
    {e : Expr} (perm : found.Perm e.leaves) :
    ∃ found', Takes s t found' ∧ found'.Perm (sign.apply e).leaves := by
  by_cases turned : ∃ n, sign = .op .neg ∧ e = .literal (.integer n)
  · obtain ⟨n, rfl, rfl⟩ := turned
    obtain ⟨⟨passed, ahead, written⟩, finish⟩ := takes
    obtain rfl : found = [.integer n] := List.perm_singleton.mp perm
    exact ⟨[.integer (-n)], ⟨⟨passed, ahead, written.negated⟩, finish⟩, .refl _⟩
  · exact ⟨found, takes, by rwa [leaves_apply (not_exists.mp turned)]⟩

theorem collects_sign (collects : Collects p q Expr.leaves) (sign : Sign) :
    Collects (do return sign.apply (← p)) (do return sign.apply (← q)) Expr.leaves := by
  intro given s unsigned _
  obtain ⟨same, takes⟩ := collects given s unsigned trivial
  constructor
  · exact bind_eq_of_same same fun _ _ _ => rfl
  · intro e u read
    obtain ⟨operand, t, read, read'⟩ := read_of_bind read
    cases read'
    obtain ⟨found, passes, perm⟩ := takes operand _ read
    have held := (List.perm_append_left_iff given).mp perm
    obtain ⟨found', passes', perm'⟩ := passes.applied sign held
    exact ⟨found', passes', perm'.append_left given⟩

end Operands

/-! ## Lists -/

theorem collects_listBy {α : Type} (word : Keyword) {item item' : Parser α} {leaves : α → List Leaf}
    (collects : Collects item item' leaves) :
    Collects (listBy word item) (listBy word item') (·.flatMap leaves) := by
  refine fun given => (reports_acceptKeyword word).gathers.bind fun _ => gathers_if ?_ ?_
  · exact (reports_expectKeyword _).gathers.bind fun _ => collects_commaList collects given
  · exact gathers_pure (by simp)

/-- Tables behind commas are joined from the left. -/
theorem leaves_foldl (first : TableRef) (others : List TableRef) :
    (others.foldl (fun left right => .join left .cross right none []) first).leaves =
      first.leaves ++ others.flatMap TableRef.leaves := by
  induction others generalizing first with
  | nil => simp
  | cons next rest ih => simp [ih, TableRef.leaves, optionLeaves]

/-! ## Rules that nest -/

/-- The nested rules do the same and collect leaves. -/
structure NestedGathers (nested nested' : Nested) : Prop where
  expression : ∀ level, Collects (nested.expression level) (nested'.expression level) Expr.leaves
  select : Collects nested.select nested'.select Select.leaves
  tables : Collects nested.tables nested'.tables TableRef.leaves

section Rules

variable {nested nested' : Nested} (gathers : NestedGathers nested nested') {given : List Leaf}
include gathers

/-! ## Expressions -/

theorem gathers_anyExpression :
    Collects (anyExpression nested) (anyExpression nested') Expr.leaves :=
  gathers.expression 0

theorem gathers_expressionList :
    Collects (expressionList nested) (expressionList nested') listLeaves := by
  rw [funext listLeaves_eq_flatMap]
  exact collects_commaList (gathers_anyExpression gathers)

theorem gathers_optional (word : Keyword) :
    Collects (afterKeyword word (anyExpression nested)) (afterKeyword word (anyExpression nested'))
      optionLeaves := by
  have same : optionLeaves = fun e => e.toList.flatMap Expr.leaves := by
    funext e
    cases e <;> simp [optionLeaves]
  rw [same]
  exact collects_afterKeyword word (gathers_anyExpression gathers)

theorem gathers_callOf (function : String) :
    Collects (callOf nested function) (callOf nested' function) Expr.leaves := by
  intro given
  refine (reports_expectSymbol _).gathers.bind fun _ => ?_
  refine (reports_acceptKeyword _).gathers.bind fun distinct => ?_
  refine (reports_isAt _).gathers.bind fun _ => (reports_acceptSymbol _).gathers.bind fun _ => ?_
  refine gathers_if (gathers_closing ?_) (gathers_if (gathers_closing ?_) ?_)
  · simp [Expr.leaves, listLeaves]
  · simp [Expr.leaves, listLeaves]
  · refine (gathers_expressionList gathers _).bind fun args => gathers_closing ?_
    simp [Expr.leaves]

theorem gathers_castBody : Collects (castBody nested) (castBody nested') Expr.leaves := by
  refine fun given => (reports_expectSymbol _).gathers.bind fun _ => ?_
  refine (gathers_anyExpression gathers _).bind fun operand => ?_
  refine (reports_expectKeyword _).gathers.bind fun _ => reports_typeName.gathers.bind fun _ => ?_
  exact gathers_closing (by simp [Expr.leaves])

theorem gathers_branches (bound : Nat) :
    Collects (branches nested bound) (branches nested' bound) branchLeaves := by
  induction bound with
  | zero => exact fun given => gathers_pure (by simp [branchLeaves])
  | succ bound ih =>
      refine fun given => (reports_acceptKeyword _).gathers.bind fun _ => gathers_if ?_ ?_
      · refine (gathers_anyExpression gathers _).bind fun condition => ?_
        refine (reports_expectKeyword _).gathers.bind fun _ => ?_
        refine (gathers_anyExpression gathers _).bind fun result => ?_
        exact (ih _).bind fun others => gathers_pure (by simp [branchLeaves])
      · exact gathers_pure (by simp [branchLeaves])

theorem gathers_choiceOf (subject : Option Expr) :
    Gathers (given ++ optionLeaves subject) (choiceOf nested subject) (choiceOf nested' subject)
      fun e => given ++ e.leaves := by
  refine reports_remaining.gathers.bind fun bound => ?_
  refine (gathers_branches gathers bound _).bind fun whens => gathers_if gathers_unexpected ?_
  refine (gathers_optional gathers _ _).bind fun otherwise => ?_
  refine (reports_expectKeyword _).gathers.bind fun _ => gathers_pure ?_
  simp [Expr.leaves]

theorem gathers_caseBody : Collects (caseBody nested) (caseBody nested') Expr.leaves := by
  refine fun given => (reports_isAt _).gathers.bind fun _ => gathers_if ?_ ?_
  · have body : Gathers (given ++ optionLeaves none) (choiceOf nested none) (choiceOf nested' none)
        fun e => given ++ e.leaves :=
      gathers_choiceOf gathers none
    rw [optionLeaves, List.append_nil] at body
    exact body
  · have subjects : Collects (some <$> anyExpression nested) (some <$> anyExpression nested')
        optionLeaves :=
      (gathers_anyExpression gathers).map fun _ => rfl
    exact (subjects given).bind fun subject => gathers_choiceOf gathers subject

theorem gathers_callOfKeyword (word : Keyword) (span : Span) :
    Collects (callOfKeyword nested word span) (callOfKeyword nested' word span) Expr.leaves :=
  fun given => (reports_isAt _).gathers.bind fun _ =>
    gathers_if (gathers_callOf gathers _ given) (gathers_of_fails fun _ _ _ read => nomatch read)

theorem gathers_afterParen : Collects (afterParen nested) (afterParen nested') Expr.leaves := by
  have query : Collects (Expr.subquery <$> nested.select) (Expr.subquery <$> nested'.select)
      Expr.leaves :=
    gathers.select.map fun query => by rw [Expr.leaves]
  have inner : Collects (Expr.paren <$> anyExpression nested) (Expr.paren <$> anyExpression nested')
      Expr.leaves :=
    (gathers_anyExpression gathers).map fun e => by rw [Expr.leaves]
  refine fun given => (reports_isAt _).gathers.bind fun _ => gathers_if ?_ ?_
  · exact (query given).bind fun _ => gathers_closing (.refl _)
  · exact (inner given).bind fun _ => gathers_closing (.refl _)

/-! ## Columns and literals -/

theorem gathers_afterName (name : String) (span : Span) :
    GathersAt (· = ⟨.identifier name, span⟩) given (do advance; afterName nested name span)
      (do advance; afterName nested' name span) fun e => given ++ e.leaves := by
  -- The name is taken together with what stands behind it, since a column may be written in both.
  intro s unsigned here
  rw [advance_bind, advance_bind]
  by_cases called : s.rest.current.kind = .symbol .leftParen
  · rw [afterName_call called, afterName_call called]
    obtain ⟨same, takes⟩ :=
      gathers_callOf gathers name given s.rest (unsigned.after (takes_rest s)) trivial
    refine ⟨same, fun e t read => ?_⟩
    obtain ⟨found, passes, perm⟩ := takes e t read
    exact ⟨found, (takes_rest s).trans passes, perm⟩
  · refine ⟨(afterName_eq called).trans (afterName_eq called).symm, fun e t read => ?_⟩
    exact ⟨e.leaves, takes_column unsigned here called read, .refl _⟩

theorem gathers_primary : Collects (primary nested) (primary nested') Expr.leaves := by
  intro given
  refine gathers_current_bind fun token => ?_
  -- Behind most tokens what is read has leaves of its own, or none.
  have passing {p q : Parser Expr} (next : Collects p q Expr.leaves) :
      GathersAt (· = token) given (do advance; p) (do advance; q) fun e => given ++ e.leaves :=
    gathers_advance_bind (next given)
  have literal {value : Literal} (plain : value.leaves = []) :
      GathersAt (· = token) given (literalOf value) (literalOf value) fun e => given ++ e.leaves :=
    gathers_advance_bind (gathers_pure (by simp [Expr.leaves, plain]))
  obtain ⟨kind, span⟩ := token
  cases kind with
  | identifier name => exact gathers_afterName gathers name span
  | integer n => exact gathers_integer.imp fun _ same => congrArg Token.kind same
  | float x => exact literal rfl
  | string text => exact literal rfl
  | blob bytes => exact literal rfl
  | eof => exact gathers_unexpected
  | error reason => exact gathers_unexpected
  | symbol mark =>
      cases mark with
      | question =>
          refine passing fun given => reports_nextOrdinal.gathers.bind fun _ => gathers_pure ?_
          simp [Expr.leaves]
      | colon =>
          refine passing fun given => reports_identifier.gathers.bind fun _ => gathers_pure ?_
          simp [Expr.leaves]
      | star => exact passing fun given => gathers_pure (by simp [Expr.leaves])
      | leftParen => exact passing (gathers_afterParen gathers)
      | _ => exact gathers_unexpected
  | keyword word =>
      cases word with
      | TRUE => exact literal rfl
      | FALSE => exact literal rfl
      | NULL => exact literal rfl
      | CASE => exact passing (gathers_caseBody gathers)
      | CAST => exact passing (gathers_castBody gathers)
      | EXISTS =>
          refine passing fun given => ?_
          refine (collects_parenthesized gathers.select given).bind fun _ => gathers_pure ?_
          simp [Expr.leaves]
      | LEFT => exact passing (gathers_callOfKeyword gathers _ _)
      | RIGHT => exact passing (gathers_callOfKeyword gathers _ _)
      | _ => exact gathers_unexpected

theorem gathers_signed : Collects (signed nested) (signed nested') Expr.leaves := by
  refine fun given => gathers_currentKind_bind fun kind => ?_
  cases sign? kind with
  | none => exact gathers_primary gathers given
  | some found =>
      obtain ⟨level, sign⟩ := found
      exact gathers_advance_bind (collects_sign (gathers.expression level) sign given)

theorem gathers_membership (operand : Expr) (negated : Bool) :
    Gathers (given ++ operand.leaves) (membership nested operand negated)
      (membership nested' operand negated) fun e => given ++ e.leaves := by
  have query : Collects ((fun query => [Expr.subquery query]) <$> nested.select)
      ((fun query => [Expr.subquery query]) <$> nested'.select) listLeaves :=
    gathers.select.map fun query => by simp [listLeaves, Expr.leaves]
  have closing (items : List Expr) :
      Gathers (given ++ operand.leaves ++ listLeaves items)
        (do expectSymbol .rightParen; return Expr.inList operand items negated)
        (do expectSymbol .rightParen; return Expr.inList operand items negated)
        fun e => given ++ e.leaves :=
    gathers_closing (by simp [Expr.leaves])
  refine (reports_expectSymbol _).gathers.bind fun _ => (reports_isAt _).gathers.bind fun _ => ?_
  exact gathers_if ((query _).bind closing) ((gathers_expressionList gathers _).bind closing)

theorem gathers_range (operand : Expr) (negated : Bool) (level : Nat) :
    Gathers (given ++ operand.leaves) (range nested operand negated level)
      (range nested' operand negated level) fun e => given ++ e.leaves := by
  refine (gathers.expression level _).bind fun low => ?_
  refine (reports_expectKeyword _).gathers.bind fun _ => ?_
  exact (gathers.expression level _).bind fun high => gathers_pure (by simp [Expr.leaves])

theorem gathers_binary (operand : Expr) (op : BinaryOp) (level : Nat) :
    Gathers (given ++ operand.leaves)
      (do return Expr.binary operand op (← nested.expression level))
      (do return Expr.binary operand op (← nested'.expression level)) fun e => given ++ e.leaves :=
  (gathers.expression level _).bind fun right => gathers_pure (by simp [Expr.leaves])

theorem gathers_negatedPredicate (operand : Expr) (level : Nat) :
    Gathers (given ++ operand.leaves) (negatedPredicate nested operand level)
      (negatedPredicate nested' operand level) fun e => given ++ e.leaves := by
  refine gathers_currentKind_bind fun kind => ?_
  cases kind with
  | keyword word =>
      cases word with
      | IN => exact gathers_advance_bind (gathers_membership gathers operand true)
      | BETWEEN => exact gathers_advance_bind (gathers_range gathers operand true level)
      | LIKE => exact gathers_advance_bind (gathers_binary gathers operand .notLike level)
      | _ => exact gathers_unexpected
  | _ => exact gathers_unexpected

theorem gathers_extend (operand : Expr) (level : Nat) (form : Continuation) :
    Gathers (given ++ operand.leaves) (extend nested operand level form)
      (extend nested' operand level form) fun e => given ++ e.leaves := by
  cases form with
  | nullTest =>
      refine (reports_acceptKeyword _).gathers.bind fun _ => ?_
      exact (reports_expectKeyword _).gathers.bind fun _ => gathers_pure (by simp [Expr.leaves])
  | negation => exact gathers_negatedPredicate gathers operand level
  | membership => exact gathers_membership gathers operand false
  | range => exact gathers_range gathers operand false level
  | operator op => exact gathers_binary gathers operand op level

theorem gathers_continued (least bound : Nat) (operand : Expr) :
    Gathers (given ++ operand.leaves) (continued nested least bound operand)
      (continued nested' least bound operand) fun e => given ++ e.leaves := by
  induction bound generalizing operand with
  | zero => exact gathers_pure (.refl _)
  | succ bound ih =>
      refine gathers_currentKind_bind fun kind => ?_
      cases continuation? kind with
      | none => exact gathers_pure (.refl _)
      | some next =>
          obtain ⟨level, form⟩ := next
          dsimp only
          by_cases loose : level < least
          · rw [if_pos loose, if_pos loose]
            exact gathers_pure (.refl _)
          · rw [if_neg loose, if_neg loose]
            exact gathers_advance_bind ((gathers_extend gathers operand _ form).bind fun e => ih e)

theorem gathers_expression (least : Nat) :
    Collects (expression nested least) (expression nested' least) Expr.leaves :=
  fun _ => (gathers_signed gathers _).bind fun operand => reports_remaining.gathers.bind fun _ =>
    gathers_continued gathers least _ operand

/-! ## Tables -/

theorem gathers_tableFactor :
    Collects (tableFactor nested) (tableFactor nested') TableRef.leaves := by
  refine fun given => (reports_acceptSymbol _).gathers.bind fun _ => gathers_if ?_ ?_
  · refine (reports_isAt _).gathers.bind fun _ => gathers_if ?_ ?_
    · refine (gathers.select given).bind fun query => ?_
      refine (reports_expectSymbol _).gathers.bind fun _ => reports_tableLabel.gathers.bind ?_
      exact fun label => gathers_pure (by simp [TableRef.leaves])
    · exact (gathers.tables given).bind fun _ => gathers_closing (.refl _)
  · refine reports_qualifiedName.gathers.bind fun _ => reports_tableLabel.gathers.bind fun _ => ?_
    exact gathers_pure (by simp [TableRef.leaves])

theorem gathers_joinCondition (kind : JoinKind) :
    Collects (joinCondition nested kind) (joinCondition nested' kind) (optionLeaves ·.1) := by
  refine fun given => gathers_if (gathers_pure (by simp [optionLeaves])) ?_
  refine (reports_acceptKeyword _).gathers.bind fun _ => gathers_if ?_ ?_
  · refine (gathers_anyExpression gathers given).bind fun _ => ?_
    exact gathers_pure (by simp [optionLeaves])
  · refine (reports_acceptKeyword _).gathers.bind fun _ => gathers_if ?_ gathers_unexpected
    refine (reports_parenthesized (reports_commaList reports_identifier)).gathers.bind fun _ => ?_
    exact gathers_pure (by simp [optionLeaves])

theorem gathers_joins (bound : Nat) (left : TableRef) :
    Gathers (given ++ left.leaves) (joins nested bound left) (joins nested' bound left)
      fun t => given ++ t.leaves := by
  induction bound generalizing left with
  | zero => exact gathers_pure (.refl _)
  | succ bound ih =>
      refine reports_joinWords.gathers.bind fun found => ?_
      cases found with
      | none => exact gathers_pure (.refl _)
      | some kind =>
          refine (gathers_tableFactor gathers _).bind fun right => ?_
          refine (gathers_joinCondition gathers kind _).bind fun condition => ?_
          have joined := ih (.join left kind right condition.1 condition.2)
          simpa [TableRef.leaves] using joined

theorem gathers_tables : Collects (tables nested) (tables nested') TableRef.leaves := by
  have joinedTable : Collects (joinedTable nested) (joinedTable nested') TableRef.leaves :=
    fun given => (gathers_tableFactor gathers given).bind fun first =>
      reports_remaining.gathers.bind fun _ => gathers_joins gathers _ first
  refine fun given => (collects_commaList joinedTable given).bind fun all => ?_
  cases all with
  | nil => exact gathers_unexpected
  | cons first others => exact gathers_pure (by simp [leaves_foldl])

/-! ## Queries -/

theorem gathers_selectItem :
    Collects (selectItem nested) (selectItem nested') (·.expr.leaves) :=
  fun given => (gathers_anyExpression gathers given).bind fun _ =>
    reports_itemLabel.gathers.bind fun _ => gathers_pure (.refl _)

theorem gathers_orderItem : Collects (orderItem nested) (orderItem nested') (·.expr.leaves) := by
  refine fun given => (gathers_anyExpression gathers given).bind fun _ => ?_
  refine (reports_acceptKeyword _).gathers.bind fun _ => gathers_if (gathers_pure (.refl _)) ?_
  have skipped : Reports (discard (acceptKeyword .ASC)) := (reports_acceptKeyword _).map _
  exact skipped.gathers.bind fun _ => gathers_pure (.refl _)

/-- The offset may be written before the limit. -/
theorem gathers_window :
    Collects (window nested) (window nested') fun pages =>
      optionLeaves pages.1 ++ optionLeaves pages.2 := by
  intro given
  have offset (limit : Option Expr) : Gathers (given ++ optionLeaves limit)
      (do return (limit, ← afterKeyword .OFFSET (anyExpression nested)))
      (do return (limit, ← afterKeyword .OFFSET (anyExpression nested')))
      fun pages => given ++ (optionLeaves pages.1 ++ optionLeaves pages.2) :=
    (gathers_optional gathers _ _).bind fun _ => gathers_pure (by simp)
  have alone := offset none
  rw [optionLeaves, List.append_nil] at alone
  refine (reports_acceptKeyword _).gathers.bind fun _ => gathers_if ?_ alone
  refine (gathers_anyExpression gathers given).bind fun first => ?_
  refine (reports_acceptSymbol _).gathers.bind fun _ => gathers_if ?_ (offset (some first))
  refine (gathers_anyExpression gathers _).bind fun count => gathers_pure ?_
  rw [List.append_assoc]
  exact List.perm_append_comm.append_left given

theorem gathers_whereClause :
    Collects (whereClause nested) (whereClause nested') optionLeaves :=
  gathers_optional gathers .WHERE

theorem gathers_source :
    Collects (afterKeyword .FROM (tables nested)) (afterKeyword .FROM (tables nested'))
      sourceLeaves := by
  have same : sourceLeaves = fun t => t.toList.flatMap TableRef.leaves := by
    funext t
    cases t <;> simp [sourceLeaves]
  rw [same]
  exact collects_afterKeyword .FROM (gathers_tables gathers)

theorem gathers_selectBody (distinct : Bool) :
    Collects (selectBody nested distinct) (selectBody nested' distinct) Select.leaves := by
  intro given
  refine (collects_commaList (gathers_selectItem gathers) given).bind fun items => ?_
  refine (gathers_source gathers _).bind fun source => ?_
  refine (gathers_whereClause gathers _).bind fun condition => ?_
  refine (collects_listBy _ (gathers_anyExpression gathers) _).bind fun groups => ?_
  refine (gathers_optional gathers _ _).bind fun having => ?_
  refine (collects_listBy _ (gathers_orderItem gathers) _).bind fun order => ?_
  refine (gathers_window gathers _).bind fun pages => gathers_pure ?_
  simp [Select.leaves, itemLeaves_eq_flatMap, orderLeaves_eq_flatMap, listLeaves_eq_flatMap]

theorem gathers_select : Collects (select nested) (select nested') Select.leaves := by
  refine fun given => (reports_expectKeyword _).gathers.bind fun _ => ?_
  refine (reports_acceptKeyword _).gathers.bind fun distinct => ?_
  have body := gathers_selectBody gathers distinct given
  have skipped : Reports (discard (acceptKeyword .ALL)) := (reports_acceptKeyword _).map _
  exact gathers_if (skipped.gathers.bind fun _ => body) body

/-! ## Statements -/

theorem gathers_assignment :
    Collects (assignment nested) (assignment nested') (·.value.leaves) :=
  fun given => reports_qualifiedName.gathers.bind fun _ =>
    (reports_expectSymbol _).gathers.bind fun _ =>
      (gathers_anyExpression gathers given).bind fun _ => gathers_pure (.refl _)

theorem gathers_assignments :
    Collects (commaList (assignment nested)) (commaList (assignment nested')) assignmentLeaves :=
  collects_commaList (gathers_assignment gathers)

theorem gathers_valueRow : Collects (valueRow nested) (valueRow nested') listLeaves := by
  refine fun given => (reports_expectSymbol _).gathers.bind fun _ => ?_
  refine (reports_isAt _).gathers.bind fun _ => gathers_if (gathers_closing ?_) ?_
  · simp [listLeaves]
  · exact (gathers_expressionList gathers given).bind fun _ => gathers_closing (.refl _)

theorem gathers_insertSource :
    Collects (insertSource nested) (insertSource nested') InsertSource.leaves := by
  have query (given : List Leaf) (q : Select) :
      (given ++ q.leaves).Perm (given ++ (InsertSource.query q).leaves) :=
    .refl _
  refine fun given => (reports_acceptKeyword _).gathers.bind fun _ => gathers_if ?_ ?_
  · refine (collects_commaList (gathers_valueRow gathers) given).bind fun rows => ?_
    exact gathers_pure (.refl _)
  refine (reports_isAt _).gathers.bind fun _ => gathers_if ?_ ?_
  · exact (gathers_select gathers given).bind fun q => gathers_pure (query given q)
  refine (reports_acceptSymbol _).gathers.bind fun _ => gathers_if ?_ ?_
  · exact (gathers_select gathers given).bind fun q => gathers_closing (query given q)
  refine (reports_acceptKeyword _).gathers.bind fun _ => gathers_if ?_ gathers_unexpected
  refine (reports_expectKeyword _).gathers.bind fun _ => gathers_pure ?_
  simp [InsertSource.leaves]

theorem gathers_onDuplicate :
    Collects (onDuplicate nested) (onDuplicate nested') assignmentLeaves := by
  refine fun given => (reports_acceptKeyword _).gathers.bind fun _ => gathers_if ?_ ?_
  · refine (reports_expectWord _).gathers.bind fun _ => (reports_expectWord _).gathers.bind ?_
    exact fun _ => (reports_expectKeyword _).gathers.bind fun _ => gathers_assignments gathers given
  · exact gathers_pure (by simp [assignmentLeaves])

theorem gathers_insert : Collects (insert nested) (insert nested') Insert.leaves := by
  have ignored : Reports (discard (acceptWord "IGNORE")) := (reports_acceptWord _).map _
  have into : Reports (discard (acceptKeyword .INTO)) := (reports_acceptKeyword _).map _
  refine fun given => (reports_expectKeyword _).gathers.bind fun _ => ?_
  refine ignored.gathers.bind fun _ => into.gathers.bind fun _ => ?_
  refine reports_qualifiedName.gathers.bind fun _ => reports_columnList.gathers.bind fun _ => ?_
  refine (gathers_insertSource gathers given).bind fun source => ?_
  refine (gathers_onDuplicate gathers _).bind fun assignments => gathers_pure ?_
  simp [Insert.leaves]

theorem gathers_update : Collects (update nested) (update nested') Update.leaves := by
  refine fun given => (reports_expectKeyword _).gathers.bind fun _ => ?_
  refine reports_qualifiedName.gathers.bind fun _ => reports_tableLabel.gathers.bind fun _ => ?_
  refine (reports_expectKeyword _).gathers.bind fun _ => ?_
  refine (gathers_assignments gathers given).bind fun assignments => ?_
  refine (gathers_whereClause gathers _).bind fun condition => gathers_pure ?_
  simp [Update.leaves]

theorem gathers_delete :
    Collects (delete nested) (delete nested') (optionLeaves ·.condition) := by
  refine fun given => (reports_expectKeyword _).gathers.bind fun _ => ?_
  refine (reports_expectKeyword _).gathers.bind fun _ => ?_
  refine reports_qualifiedName.gathers.bind fun _ => reports_tableLabel.gathers.bind fun _ => ?_
  exact (gathers_whereClause gathers given).bind fun _ => gathers_pure (.refl _)

theorem gathers_statementBody :
    Collects (statementBody nested) (statementBody nested') Statement.leaves := by
  refine fun given => gathers_currentKind_bind fun kind => ?_
  cases kind with
  | keyword word =>
      cases word with
      | SELECT => exact (gathers_select gathers given).bind fun _ => gathers_pure (.refl _)
      | INSERT => exact (gathers_insert gathers given).bind fun _ => gathers_pure (.refl _)
      | UPDATE => exact (gathers_update gathers given).bind fun _ => gathers_pure (.refl _)
      | DELETE => exact (gathers_delete gathers given).bind fun _ => gathers_pure (.refl _)
      | SET => exact gathers_unsupported
      | WITH => exact gathers_unsupported
      | DESC => exact gathers_unsupported
      | _ => exact gathers_unexpected
  | identifier word => exact gathers_if gathers_unsupported gathers_unexpected
  | _ => exact gathers_unexpected

theorem gathers_statement :
    Collects (statement nested) (statement nested') Statement.leaves :=
  fun given => (gathers_statementBody gathers given).bind fun _ =>
    reports_statementEnd.gathers.bind fun _ => gathers_pure (.refl _)

end Rules

theorem gathers_nestedTo (depth : Nat) : NestedGathers (nestedTo depth) (nestedTo depth) := by
  induction depth with
  | zero =>
      have stuck {α : Type} {leaves : α → List Leaf} :
          Collects (unexpected .expression) (unexpected .expression) leaves :=
        fun _ => gathers_unexpected
      exact ⟨fun _ => stuck, stuck, stuck⟩
  | succ depth ih => exact ⟨gathers_expression ih, gathers_select ih, gathers_tables ih⟩

end ShardedSql.Sql
