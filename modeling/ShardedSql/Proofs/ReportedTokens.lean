import ShardedSql.Proofs.RespelledStatement
import ShardedSql.Proofs.Tiling

/-!
Where reading stops. A reader that answers has passed tokens that are no errors; one that fails
points at a token it came to, and no error stands before that one. Main statement: a text that is
read as a statement holds no error and nothing behind the statement but semicolons, and one that is
not has a token the error points at, the first error or one before it.
-/

namespace ShardedSql.Sql

open Text ShardedSql.Sql.Parser Grammar

/-- The kind of the token that did not fit. -/
def ParseError.found? : ParseError → Option TokenKind
  | .unsupported _ _ => none
  | .unexpected _ found _ => some found

/-- The error is about one of these tokens, and none before that one is an error itself. -/
def PointsInto (tokens : List Token) (e : ParseError) : Prop :=
  ∃ before token after, tokens = before ++ token :: after ∧
    (∀ earlier ∈ before, ∀ reason, earlier.kind ≠ .error reason) ∧
    e.span = token.span ∧ ∀ found ∈ e.found?, found = token.kind

/-- The tokens to come, with the end of the text. -/
def TokenStream.left (stream : TokenStream) : List Token :=
  stream.ahead ++ [stream.finish]

/-- What may come of reading from a stream. -/
def Reported (s : TokenStream) {α : Type} : EStateM.Result ParseError TokenStream α → Prop
  | .ok _ t => Passes s t
  | .error e _ => PointsInto s.left e

/-- From wherever such a token is the current one, reading passes tokens or points at one. -/
def ReportsAt (stands : Token → Prop) {α : Type} (p : Parser α) : Prop :=
  ∀ s, stands s.current → Reported s (p s)

/-- The same from anywhere. -/
abbrev Reports {α : Type} (p : Parser α) : Prop :=
  ReportsAt (fun _ => True) p

section Readers

variable {α β : Type} {s t : TokenStream} {stands : Token → Prop} {p : Parser α} {f : α → Parser β}

theorem TokenStream.left_eq (s : TokenStream) : ∃ after, s.left = s.current :: after := by
  unfold left current
  cases s.ahead with
  | nil => exact ⟨[], rfl⟩
  | cons token rest => exact ⟨rest ++ [s.finish], rfl⟩

/-- What points at the current token points into what is left. -/
theorem pointsInto_left {e : ParseError} (span : e.span = s.current.span)
    (found : ∀ found ∈ e.found?, found = s.current.kind) : PointsInto s.left e := by
  obtain ⟨after, left⟩ := s.left_eq
  exact ⟨[], s.current, after, left, by simp, span, found⟩

theorem Passes.pointsInto (passes : Passes s t) {e : ParseError} (points : PointsInto t.left e) :
    PointsInto s.left e := by
  obtain ⟨⟨passed, ahead, clear⟩, finish⟩ := passes
  obtain ⟨before, token, after, left, before_clear, place⟩ := points
  refine ⟨passed ++ before, token, after, ?_, ?_, place⟩
  · rw [TokenStream.left, ahead, ← finish, List.append_assoc, List.append_assoc, ← left,
      TokenStream.left]
  · intro earlier member
    rcases List.mem_append.mp member with inside | inside
    · exact clear earlier inside
    · exact before_clear earlier inside

/-- What is reported behind passed tokens is reported from before them. -/
theorem Passes.reported (passes : Passes s t) {result : EStateM.Result ParseError TokenStream α}
    (reported : Reported t result) : Reported s result := by
  cases result with
  | ok a u => exact passes.trans reported
  | error e u => exact passes.pointsInto reported

/-! ## Readers put together -/

theorem ReportsAt.imp {weaker : Token → Prop} (reports : ReportsAt weaker p)
    (imp : ∀ token, stands token → weaker token) : ReportsAt stands p :=
  fun s here => reports s (imp s.current here)

theorem Reports.at (reports : Reports p) : ReportsAt stands p :=
  ReportsAt.imp reports fun _ _ => trivial

theorem reports_pure {a : α} : ReportsAt stands (pure a : Parser α) :=
  fun s _ => Passes.refl s

theorem ReportsAt.bind (first : ReportsAt stands p) (second : ∀ a, Reports (f a)) :
    ReportsAt stands (p >>= f) := by
  intro s here
  have reported := first s here
  cases read : p s with
  | ok a t =>
      rw [read] at reported
      rw [bind_ok read]
      exact Passes.reported reported (second a t trivial)
  | error e t =>
      rw [read] at reported
      rw [bind_error read]
      exact reported

theorem ReportsAt.map (reports : ReportsAt stands p) (g : α → β) :
    ReportsAt stands (g <$> p) := by
  rw [← bind_pure_comp]
  exact reports.bind fun _ => reports_pure

theorem reports_if {c : Bool} {q : Parser α} (yes : ReportsAt stands p)
    (no : ReportsAt stands q) : ReportsAt stands (if c then p else q) := by
  cases c
  · exact no
  · exact yes

theorem reports_unexpected {expected : Expectation} :
    ReportsAt stands (unexpected expected : Parser α) :=
  fun _ _ => pointsInto_left rfl fun _ found => (Option.some.inj found).symm

theorem reports_unsupported {kind : Unsupported} :
    ReportsAt stands (unsupported kind : Parser α) :=
  fun _ _ => pointsInto_left rfl fun _ found => nomatch found

/-! ## Looking at tokens -/

theorem reports_current_bind {f : Token → Parser α}
    (next : ∀ token, ReportsAt (· = token) (f token)) : ReportsAt stands (current >>= f) :=
  fun s _ => next s.current s rfl

theorem reports_currentKind_bind {f : TokenKind → Parser α}
    (next : ∀ kind, ReportsAt (·.kind = kind) (f kind)) : ReportsAt stands (currentKind >>= f) :=
  fun s _ => next s.current.kind s rfl

theorem reports_remaining : Reports remaining :=
  fun s _ => Passes.refl s

theorem reports_followingKind : Reports followingKind :=
  fun s _ => Passes.refl s

theorem reports_nextOrdinal : Reports nextOrdinal :=
  fun _ _ => ⟨⟨[], by simp⟩, rfl⟩

/-- A token of which it is known that it is no error is passed. -/
theorem reports_advance (clear : ∀ token, stands token → ∀ reason, token.kind ≠ .error reason) :
    ReportsAt stands advance :=
  fun s here => passes_rest (clear s.current here)

theorem reports_advance_bind {kind : TokenKind} (clear : ∀ reason, kind ≠ .error reason)
    (reports : Reports p) : ReportsAt (·.kind = kind) (do advance; p) := by
  refine (reports_advance ?_).bind fun _ => reports
  rintro _ rfl
  exact clear

theorem reports_isAt (kind : TokenKind) : Reports (isAt kind) :=
  fun s _ => Passes.refl s

theorem reports_accept {kind : TokenKind} (clear : ∀ reason, kind ≠ .error reason) :
    Reports (accept kind) := by
  intro s _
  rw [accept_eq]
  by_cases here : s.current.kind = kind
  · rw [if_pos here]
    exact passes_rest (by rwa [here])
  · rw [if_neg here]
    exact Passes.refl s

theorem reports_acceptKeyword (word : Keyword) : Reports (acceptKeyword word) :=
  reports_accept (by simp)

theorem reports_acceptSymbol (mark : Symbol) : Reports (acceptSymbol mark) :=
  reports_accept (by simp)

theorem reports_expect {accepting : Parser Bool} {expected : Expectation}
    (reports : Reports accepting) : Reports (do if !(← accepting) then unexpected expected) :=
  reports.bind fun _ => reports_if reports_unexpected reports_pure

theorem reports_expectKeyword (word : Keyword) : Reports (expectKeyword word) :=
  reports_expect (reports_acceptKeyword word)

theorem reports_expectSymbol (mark : Symbol) : Reports (expectSymbol mark) :=
  reports_expect (reports_acceptSymbol mark)

theorem reports_closing (a : α) : Reports (do expectSymbol .rightParen; return a) :=
  (reports_expectSymbol _).bind fun _ => reports_pure

theorem reports_identifier : Reports identifier := by
  refine reports_currentKind_bind fun kind => ?_
  cases kind with
  | identifier name => exact reports_advance_bind (by simp) reports_pure
  | _ => exact reports_unexpected

theorem reports_atIdentifier : Reports atIdentifier := by
  refine reports_currentKind_bind fun kind => ?_
  cases kind <;> exact reports_pure

theorem reports_acceptWord (word : String) : Reports (acceptWord word) := by
  refine reports_currentKind_bind fun kind => ?_
  cases kind with
  | identifier name => exact reports_if (reports_advance_bind (by simp) reports_pure) reports_pure
  | _ => exact reports_pure

theorem reports_expectWord (word : String) : Reports (expectWord word) :=
  reports_expect (reports_acceptWord word)

/-! ## Repetition -/

theorem reports_commaRest (reports : Reports p) (bound : Nat) : Reports (commaRest p bound) := by
  induction bound with
  | zero => exact reports_pure
  | succ bound ih =>
      refine (reports_acceptSymbol _).bind fun _ => reports_if ?_ reports_pure
      exact reports.bind fun _ => ih.bind fun _ => reports_pure

theorem reports_commaList (reports : Reports p) : Reports (commaList p) :=
  reports.bind fun _ => reports_remaining.bind fun bound =>
    (reports_commaRest reports bound).bind fun _ => reports_pure

theorem reports_afterKeyword (word : Keyword) (reports : Reports p) :
    Reports (afterKeyword word p) :=
  (reports_acceptKeyword word).bind fun _ =>
    reports_if (reports.bind fun _ => reports_pure) reports_pure

theorem reports_parenthesized (reports : Reports p) : Reports (parenthesized p) :=
  (reports_expectSymbol _).bind fun _ => reports.bind reports_closing

theorem reports_skipAll (mark : Symbol) (bound : Nat) : Reports (skipAll mark bound) := by
  induction bound with
  | zero => exact reports_pure
  | succ bound ih => exact (reports_acceptSymbol mark).bind fun _ => reports_if ih reports_pure

end Readers

/-! ## Names, labels and types -/

theorem reports_qualifiedName : Reports qualifiedName :=
  reports_identifier.bind fun _ => (reports_acceptSymbol _).bind fun _ =>
    reports_if (reports_identifier.bind fun _ => reports_pure) reports_pure

theorem reports_tableLabel : Reports tableLabel := by
  have named : Reports (do return some (← identifier)) :=
    reports_identifier.bind fun _ => reports_pure
  refine (reports_acceptKeyword _).bind fun _ => reports_if named ?_
  exact reports_atIdentifier.bind fun _ => reports_if named reports_pure

theorem reports_itemLabel : Reports itemLabel := by
  have named {stands : Token → Prop} : ReportsAt stands (do return some (← identifier)) :=
    reports_identifier.at.bind fun _ => reports_pure
  refine (reports_acceptKeyword _).bind fun _ => reports_if ?_ ?_
  · refine reports_currentKind_bind fun kind => ?_
    cases kind with
    | string label => exact reports_advance_bind (by simp) reports_pure
    | _ => exact named
  · exact reports_atIdentifier.bind fun _ => reports_if named reports_pure

theorem reports_typeWords (bound : Nat) : Reports (typeWords bound) := by
  induction bound with
  | zero => exact reports_pure
  | succ bound ih =>
      refine reports_currentKind_bind fun kind => ?_
      cases kind with
      | identifier name => exact reports_advance_bind (by simp) (ih.bind fun _ => reports_pure)
      | keyword word => exact reports_advance_bind (by simp) (ih.bind fun _ => reports_pure)
      | _ => exact reports_pure

theorem reports_typeSize : Reports typeSize := by
  refine reports_currentKind_bind fun kind => ?_
  cases kind with
  | integer n => exact reports_advance_bind (by simp) reports_pure
  | _ => exact reports_unexpected

theorem reports_typeName : Reports typeName := by
  refine reports_remaining.bind fun bound => (reports_typeWords bound).bind fun _ => ?_
  refine reports_if reports_unexpected ?_
  refine (reports_acceptSymbol _).bind fun _ => reports_if ?_ reports_pure
  exact (reports_commaList reports_typeSize).bind fun _ => reports_closing _

/-! ## Expressions -/

/-- The nested rules report. -/
structure NestedReports (nested : Nested) : Prop where
  expression : ∀ level, Reports (nested.expression level)
  select : Reports nested.select
  tables : Reports nested.tables

section Rules

variable {nested : Nested} (reports : NestedReports nested)
include reports

theorem reports_anyExpression : Reports (anyExpression nested) :=
  reports.expression 0

theorem reports_expressionList : Reports (expressionList nested) :=
  reports_commaList (reports_anyExpression reports)

theorem reports_callOf (function : String) : Reports (callOf nested function) := by
  refine (reports_expectSymbol _).bind fun _ => (reports_acceptKeyword _).bind fun _ => ?_
  refine (reports_isAt _).bind fun _ => (reports_acceptSymbol _).bind fun _ => ?_
  refine reports_if (reports_closing _) (reports_if (reports_closing _) ?_)
  exact (reports_expressionList reports).bind fun _ => reports_closing _

theorem reports_castBody : Reports (castBody nested) :=
  (reports_expectSymbol _).bind fun _ => (reports_anyExpression reports).bind fun _ =>
    (reports_expectKeyword _).bind fun _ => reports_typeName.bind fun _ => reports_closing _

theorem reports_branches (bound : Nat) : Reports (branches nested bound) := by
  induction bound with
  | zero => exact reports_pure
  | succ bound ih =>
      refine (reports_acceptKeyword _).bind fun _ => reports_if ?_ reports_pure
      refine (reports_anyExpression reports).bind fun _ => ?_
      refine (reports_expectKeyword _).bind fun _ => ?_
      exact (reports_anyExpression reports).bind fun _ => ih.bind fun _ => reports_pure

theorem reports_choiceOf (subject : Option Expr) : Reports (choiceOf nested subject) := by
  refine reports_remaining.bind fun bound => (reports_branches reports bound).bind fun _ => ?_
  refine reports_if reports_unexpected ?_
  refine (reports_afterKeyword _ (reports_anyExpression reports)).bind fun _ => ?_
  exact (reports_expectKeyword _).bind fun _ => reports_pure

theorem reports_caseBody : Reports (caseBody nested) := by
  refine (reports_isAt _).bind fun _ => reports_if (reports_choiceOf reports _) ?_
  refine ReportsAt.bind ?_ fun _ => reports_choiceOf reports _
  exact (reports_anyExpression reports).map _

theorem reports_afterName (name : String) (span : Span) :
    Reports (afterName nested name span) := by
  refine (reports_isAt _).bind fun _ => reports_if (reports_callOf reports name) ?_
  refine (reports_acceptSymbol _).bind fun _ => reports_if ?_ reports_pure
  refine (reports_acceptSymbol _).bind fun _ => reports_if reports_pure ?_
  exact reports_current_bind fun _ => reports_identifier.at.bind fun _ => reports_pure

/-- The word itself is reported, which has been passed by then. -/
theorem reports_wordCall {word : Keyword} (token : Token) (kind : token.kind = .keyword word) :
    ReportsAt (· = token) (do advance; callOfKeyword nested word token.span) := by
  rintro s rfl
  have passes : Passes s s.rest := passes_rest (by simp [kind])
  rw [advance_bind, callOfKeyword, atSymbol, bind_ok (isAt_eq _ _)]
  cases s.rest.current.kind == .symbol .leftParen with
  | true => exact passes.reported (reports_callOf reports _ s.rest trivial)
  | false => exact pointsInto_left rfl fun _ found => (Option.some.inj found).symm.trans kind.symm

theorem reports_afterParen : Reports (afterParen nested) := by
  refine (reports_isAt _).bind fun _ => reports_if ?_ ?_
  · exact (reports.select.map _).bind reports_closing
  · exact ((reports_anyExpression reports).map _).bind reports_closing

theorem reports_primary : Reports (primary nested) := by
  refine reports_current_bind fun token => ?_
  -- What follows the passed token is read from anywhere, but for words called like functions.
  have passing {p : Parser Expr} (clear : ∀ reason, token.kind ≠ .error reason) (next : Reports p) :
      ReportsAt (· = token) (do advance; p) :=
    (reports_advance_bind clear next).imp fun _ same => congrArg Token.kind same
  have literal (value : Literal) (clear : ∀ reason, token.kind ≠ .error reason) :
      ReportsAt (· = token) (literalOf value) :=
    passing clear reports_pure
  obtain ⟨kind, span⟩ := token
  cases kind with
  | identifier name => exact passing (by simp) (reports_afterName reports name span)
  | integer n => exact literal _ (by simp)
  | float x => exact literal _ (by simp)
  | string text => exact literal _ (by simp)
  | blob bytes => exact literal _ (by simp)
  | eof => exact reports_unexpected
  | error reason => exact reports_unexpected
  | symbol mark =>
      cases mark with
      | question => exact passing (by simp) (reports_nextOrdinal.bind fun _ => reports_pure)
      | colon => exact passing (by simp) (reports_identifier.bind fun _ => reports_pure)
      | star => exact passing (by simp) reports_pure
      | leftParen => exact passing (by simp) (reports_afterParen reports)
      | _ => exact reports_unexpected
  | keyword word =>
      cases word with
      | TRUE => exact literal _ (by simp)
      | FALSE => exact literal _ (by simp)
      | NULL => exact literal _ (by simp)
      | CASE => exact passing (by simp) (reports_caseBody reports)
      | CAST => exact passing (by simp) (reports_castBody reports)
      | EXISTS =>
          refine passing (by simp) ?_
          exact (reports_parenthesized reports.select).bind fun _ => reports_pure
      | LEFT => exact reports_wordCall reports _ rfl
      | RIGHT => exact reports_wordCall reports _ rfl
      | _ => exact reports_unexpected

theorem reports_signed : Reports (signed nested) := by
  refine reports_currentKind_bind fun kind => ?_
  cases signs : sign? kind with
  | none => exact (reports_primary reports).at
  | some found =>
      refine reports_advance_bind ?_ ((reports.expression _).bind fun _ => reports_pure)
      rintro reason rfl
      cases signs

theorem reports_membership (operand : Expr) (negated : Bool) :
    Reports (membership nested operand negated) := by
  refine (reports_expectSymbol _).bind fun _ => (reports_isAt _).bind fun _ => reports_if ?_ ?_
  · exact (reports.select.map _).bind fun _ => reports_closing _
  · exact (reports_expressionList reports).bind fun _ => reports_closing _

theorem reports_range (operand : Expr) (negated : Bool) (level : Nat) :
    Reports (range nested operand negated level) :=
  (reports.expression level).bind fun _ => (reports_expectKeyword _).bind fun _ =>
    (reports.expression level).bind fun _ => reports_pure

theorem reports_negatedPredicate (operand : Expr) (level : Nat) :
    Reports (negatedPredicate nested operand level) := by
  refine reports_currentKind_bind fun kind => ?_
  cases kind with
  | keyword word =>
      cases word with
      | IN => exact reports_advance_bind (by simp) (reports_membership reports _ _)
      | BETWEEN => exact reports_advance_bind (by simp) (reports_range reports _ _ _)
      | LIKE =>
          exact reports_advance_bind (by simp) ((reports.expression _).bind fun _ => reports_pure)
      | _ => exact reports_unexpected
  | _ => exact reports_unexpected

theorem reports_extend (operand : Expr) (level : Nat) (form : Continuation) :
    Reports (extend nested operand level form) := by
  cases form with
  | nullTest =>
      refine (reports_acceptKeyword _).bind fun _ => ?_
      exact (reports_expectKeyword _).bind fun _ => reports_pure
  | negation => exact reports_negatedPredicate reports _ _
  | membership => exact reports_membership reports _ _
  | range => exact reports_range reports _ _ _
  | operator op => exact (reports.expression _).bind fun _ => reports_pure

theorem reports_continued (least bound : Nat) (operand : Expr) :
    Reports (continued nested least bound operand) := by
  induction bound generalizing operand with
  | zero => exact reports_pure
  | succ bound ih =>
      refine reports_currentKind_bind fun kind => ?_
      cases found : continuation? kind with
      | none => exact reports_pure
      | some next =>
          obtain ⟨level, form⟩ := next
          dsimp only
          by_cases loose : level < least
          · rw [if_pos loose]
            exact reports_pure
          · rw [if_neg loose]
            refine reports_advance_bind ?_ ((reports_extend reports _ _ form).bind fun _ => ih _)
            rintro reason rfl
            cases found

theorem reports_expression (least : Nat) : Reports (expression nested least) :=
  (reports_signed reports).bind fun _ => reports_remaining.bind fun _ =>
    reports_continued reports least _ _

/-! ## Tables -/

theorem reports_tableFactor : Reports (tableFactor nested) := by
  refine (reports_acceptSymbol _).bind fun _ => reports_if ?_ ?_
  · refine (reports_isAt _).bind fun _ => reports_if ?_ ?_
    · refine reports.select.bind fun _ => (reports_expectSymbol _).bind fun _ => ?_
      exact reports_tableLabel.bind fun _ => reports_pure
    · exact reports.tables.bind reports_closing
  · exact reports_qualifiedName.bind fun _ => reports_tableLabel.bind fun _ => reports_pure

omit reports in
theorem reports_joinWords : Reports joinWords := by
  have closing (join : JoinKind) : Reports (do expectKeyword .JOIN; return some join) :=
    (reports_expectKeyword _).bind fun _ => reports_pure
  refine reports_currentKind_bind fun kind => ?_
  cases found : joinKind? kind with
  | none => exact reports_pure
  | some join =>
      refine reports_advance_bind ?_ (reports_if reports_pure (reports_if ?_ (closing join)))
      · rintro reason rfl
        cases found
      · exact ReportsAt.bind ((reports_acceptKeyword _).map _) fun _ => closing join

theorem reports_joinCondition (kind : JoinKind) : Reports (joinCondition nested kind) := by
  refine reports_if reports_pure ?_
  refine (reports_acceptKeyword _).bind fun _ => reports_if ?_ ?_
  · exact (reports_anyExpression reports).bind fun _ => reports_pure
  · refine (reports_acceptKeyword _).bind fun _ => reports_if ?_ reports_unexpected
    refine (reports_parenthesized (reports_commaList reports_identifier)).bind fun _ => ?_
    exact reports_pure

theorem reports_joins (bound : Nat) (left : TableRef) : Reports (joins nested bound left) := by
  induction bound generalizing left with
  | zero => exact reports_pure
  | succ bound ih =>
      refine reports_joinWords.bind fun found => ?_
      cases found with
      | none => exact reports_pure
      | some kind =>
          exact (reports_tableFactor reports).bind fun _ =>
            (reports_joinCondition reports kind).bind fun _ => ih _

theorem reports_tables : Reports (tables nested) := by
  have joinedTable : Reports (joinedTable nested) :=
    (reports_tableFactor reports).bind fun _ => reports_remaining.bind fun _ =>
      reports_joins reports _ _
  refine (reports_commaList joinedTable).bind fun all => ?_
  cases all with
  | nil => exact reports_unexpected
  | cons first others => exact reports_pure

/-! ## Queries -/

theorem reports_selectItem : Reports (selectItem nested) :=
  (reports_anyExpression reports).bind fun _ => reports_itemLabel.bind fun _ => reports_pure

theorem reports_orderItem : Reports (orderItem nested) := by
  refine (reports_anyExpression reports).bind fun _ => ?_
  refine (reports_acceptKeyword _).bind fun _ => reports_if reports_pure ?_
  exact ReportsAt.bind ((reports_acceptKeyword _).map _) fun _ => reports_pure

omit reports in
theorem reports_listBy {α : Type} (word : Keyword) {item : Parser α} (reports : Reports item) :
    Reports (listBy word item) :=
  (reports_acceptKeyword word).bind fun _ =>
    reports_if ((reports_expectKeyword _).bind fun _ => reports_commaList reports) reports_pure

theorem reports_window : Reports (window nested) := by
  have offset (limit : Option Expr) :
      Reports (do return (limit, ← afterKeyword .OFFSET (anyExpression nested))) :=
    (reports_afterKeyword _ (reports_anyExpression reports)).bind fun _ => reports_pure
  refine (reports_acceptKeyword _).bind fun _ => reports_if ?_ (offset none)
  refine (reports_anyExpression reports).bind fun first => ?_
  refine (reports_acceptSymbol _).bind fun _ => reports_if ?_ (offset (some first))
  exact (reports_anyExpression reports).bind fun _ => reports_pure

theorem reports_whereClause : Reports (whereClause nested) :=
  reports_afterKeyword _ (reports_anyExpression reports)

theorem reports_selectBody (distinct : Bool) : Reports (selectBody nested distinct) := by
  refine (reports_commaList (reports_selectItem reports)).bind fun _ => ?_
  refine (reports_afterKeyword _ (reports_tables reports)).bind fun _ => ?_
  refine (reports_whereClause reports).bind fun _ => ?_
  refine (reports_listBy _ (reports_anyExpression reports)).bind fun _ => ?_
  refine (reports_afterKeyword _ (reports_anyExpression reports)).bind fun _ => ?_
  refine (reports_listBy _ (reports_orderItem reports)).bind fun _ => ?_
  exact (reports_window reports).bind fun _ => reports_pure

theorem reports_select : Reports (select nested) := by
  -- `DISTINCT` and `ALL` stand before the same body.
  refine (reports_expectKeyword _).bind fun _ => (reports_acceptKeyword _).bind fun distinct => ?_
  have body := reports_selectBody reports distinct
  exact reports_if (ReportsAt.bind ((reports_acceptKeyword _).map _) fun _ => body) body

/-! ## Statements -/

theorem reports_assignment : Reports (assignment nested) :=
  reports_qualifiedName.bind fun _ => (reports_expectSymbol _).bind fun _ =>
    (reports_anyExpression reports).bind fun _ => reports_pure

theorem reports_valueRow : Reports (valueRow nested) := by
  refine (reports_expectSymbol _).bind fun _ => (reports_isAt _).bind fun _ => ?_
  exact reports_if (reports_closing _) ((reports_expressionList reports).bind reports_closing)

omit reports in
theorem reports_columnList : Reports columnList :=
  (reports_isAt _).bind fun _ => reports_followingKind.bind fun _ =>
    reports_if (reports_parenthesized (reports_commaList reports_identifier)) reports_pure

theorem reports_insertSource : Reports (insertSource nested) := by
  refine (reports_acceptKeyword _).bind fun _ => reports_if ?_ ?_
  · exact (reports_commaList (reports_valueRow reports)).bind fun _ => reports_pure
  refine (reports_isAt _).bind fun _ => reports_if ?_ ?_
  · exact (reports_select reports).bind fun _ => reports_pure
  refine (reports_acceptSymbol _).bind fun _ => reports_if ?_ ?_
  · exact (reports_select reports).bind fun _ => reports_closing _
  refine (reports_acceptKeyword _).bind fun _ => reports_if ?_ reports_unexpected
  exact (reports_expectKeyword _).bind fun _ => reports_pure

theorem reports_onDuplicate : Reports (onDuplicate nested) := by
  refine (reports_acceptKeyword _).bind fun _ => reports_if ?_ reports_pure
  refine (reports_expectWord _).bind fun _ => (reports_expectWord _).bind fun _ => ?_
  exact (reports_expectKeyword _).bind fun _ => reports_commaList (reports_assignment reports)

theorem reports_insert : Reports (insert nested) := by
  refine (reports_expectKeyword _).bind fun _ => ?_
  refine ReportsAt.bind ((reports_acceptWord _).map _) fun _ => ?_
  refine ReportsAt.bind ((reports_acceptKeyword _).map _) fun _ => ?_
  refine reports_qualifiedName.bind fun _ => reports_columnList.bind fun _ => ?_
  refine (reports_insertSource reports).bind fun _ => ?_
  exact (reports_onDuplicate reports).bind fun _ => reports_pure

theorem reports_update : Reports (update nested) := by
  refine (reports_expectKeyword _).bind fun _ => reports_qualifiedName.bind fun _ => ?_
  refine reports_tableLabel.bind fun _ => (reports_expectKeyword _).bind fun _ => ?_
  refine (reports_commaList (reports_assignment reports)).bind fun _ => ?_
  exact (reports_whereClause reports).bind fun _ => reports_pure

theorem reports_delete : Reports (delete nested) := by
  refine (reports_expectKeyword _).bind fun _ => (reports_expectKeyword _).bind fun _ => ?_
  refine reports_qualifiedName.bind fun _ => reports_tableLabel.bind fun _ => ?_
  exact (reports_whereClause reports).bind fun _ => reports_pure

theorem reports_statementBody : Reports (statementBody nested) := by
  refine reports_currentKind_bind fun kind => ?_
  cases kind with
  | keyword word =>
      cases word with
      | SELECT => exact (reports_select reports).at.bind fun _ => reports_pure
      | INSERT => exact (reports_insert reports).at.bind fun _ => reports_pure
      | UPDATE => exact (reports_update reports).at.bind fun _ => reports_pure
      | DELETE => exact (reports_delete reports).at.bind fun _ => reports_pure
      | SET => exact reports_unsupported
      | WITH => exact reports_unsupported
      | DESC => exact reports_unsupported
      | _ => exact reports_unexpected
  | identifier word => exact reports_if reports_unsupported reports_unexpected
  | _ => exact reports_unexpected

omit reports in
theorem reports_statementEnd : Reports statementEnd := by
  refine reports_remaining.bind fun bound => (reports_skipAll _ bound).bind fun _ => ?_
  refine reports_currentKind_bind fun kind => ?_
  cases kind with
  | eof => exact reports_pure
  | keyword word =>
      cases word with
      | UNION => exact reports_unsupported
      | INTERSECT => exact reports_unsupported
      | EXCEPT => exact reports_unsupported
      | _ => exact reports_unexpected
  | _ => exact reports_unexpected

theorem reports_statement : Reports (statement nested) :=
  (reports_statementBody reports).bind fun _ => reports_statementEnd.bind fun _ => reports_pure

end Rules

theorem reports_nestedTo (depth : Nat) : NestedReports (nestedTo depth) := by
  induction depth with
  | zero => exact ⟨fun _ => reports_unexpected, reports_unexpected, reports_unexpected⟩
  | succ depth ih => exact ⟨reports_expression ih, reports_select ih, reports_tables ih⟩

/-! ## Whole texts -/

theorem skipAll_passed {mark : Symbol} {bound : Nat} {s t : TokenStream}
    (read : skipAll mark bound s = .ok () t) :
    ∃ skipped, s.ahead = skipped ++ t.ahead ∧ ∀ token ∈ skipped, token.kind = .symbol mark := by
  induction bound generalizing s with
  | zero =>
      cases read
      exact ⟨[], rfl, by simp⟩
  | succ bound ih =>
      obtain ⟨another, u, accepted, read⟩ := read_of_bind read
      rw [acceptSymbol, accept_eq] at accepted
      by_cases here : s.current.kind = .symbol mark
      · rw [if_pos here] at accepted
        cases accepted
        obtain ⟨skipped, ahead, marks⟩ := ih read
        cases first : s.ahead with
        | nil => exact ⟨skipped, by simpa [TokenStream.rest, first] using ahead, marks⟩
        | cons token rest =>
            have kind : token.kind = .symbol mark := by
              simpa [TokenStream.current, first] using here
            refine ⟨token :: skipped, ?_, List.forall_mem_cons.mpr ⟨kind, marks⟩⟩
            simpa [TokenStream.rest, first] using ahead
      · rw [if_neg here] at accepted
        cases accepted
        cases read
        exact ⟨[], rfl, by simp⟩

/-- The whole text is read: a statement, and behind it semicolons up to the end. -/
def ReadsOut (text : String) (statement : Statement) : Prop :=
  ∃ taken semicolons behind stopped,
    tokenize text = taken ++ semicolons ++ [endToken text] ∧
    (∀ token ∈ semicolons, token.kind = .symbol .semicolon) ∧
    statementBody (nestedTo ((textTokens text).length + 1)) (.ofText text) = .ok statement behind ∧
    behind.ahead = semicolons ∧
    (TokenStream.ofText text).statement = (.ok statement, stopped) ∧ stopped.ahead = []

theorem readsOut_of_read {text : String} {statement : Statement} {t : TokenStream}
    (read : Grammar.statement (nestedTo ((textTokens text).length + 1)) (.ofText text)
      = .ok statement t) : ReadsOut text statement := by
  have whole := (passes_text read).1
  have stopped : (TokenStream.ofText text).statement = (.ok statement, t) := by
    have run : (Grammar.statement (nestedTo ((TokenStream.ofText text).ahead.length + 1))).run
        (.ofText text) = .ok statement t := read
    rw [TokenStream.statement, run]
  obtain ⟨parsed, behind, body, read⟩ := read_of_bind read
  obtain ⟨_, u, ended, read⟩ := read_of_bind read
  cases read
  obtain ⟨⟨_, skipped⟩, _⟩ := statementEnd_ended ended
  obtain ⟨semicolons, left, marks⟩ := skipAll_passed skipped
  rw [whole, List.append_nil] at left
  have nested := reports_nestedTo ((textTokens text).length + 1)
  have reported := reports_statementBody nested (.ofText text) trivial
  rw [body] at reported
  obtain ⟨⟨taken, ahead, _⟩, _⟩ := reported
  change textTokens text = taken ++ behind.ahead at ahead
  refine ⟨taken, semicolons, behind, t, ?_, marks, body, left, stopped, whole⟩
  rw [tokenize_eq, ahead, left]

/-- A text that is read as a statement is read to its end, and no token of it is an error. If it is
not, the error is about one of its tokens, and no error stands before that one. -/
theorem parse_reports (text : String) :
    match Statement.parse text with
    | .ok statement =>
        (∀ token ∈ tokenize text, ∀ reason, token.kind ≠ .error reason) ∧ ReadsOut text statement
    | .error e => PointsInto (tokenize text) e := by
  have nested := reports_nestedTo ((textTokens text).length + 1)
  have reported := reports_statement nested (.ofText text) trivial
  cases read : Grammar.statement (nestedTo ((textTokens text).length + 1)) (.ofText text) with
  | ok statement t =>
      rw [parse_eq, read]
      refine ⟨fun token member reason kind => ?_, readsOut_of_read read⟩
      rw [tokenize_eq] at member
      rcases List.mem_append.mp member with inside | last
      · exact (passes_text read).2 reason (List.mem_map.mpr ⟨token, inside, kind⟩)
      · rw [List.mem_singleton.mp last] at kind
        cases kind
  | error e t =>
      rw [read] at reported
      rw [parse_eq, read, tokenize_eq]
      exact reported

end ShardedSql.Sql
