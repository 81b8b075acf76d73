import ShardedSql.Proofs.FilledStatement
import ShardedSql.Proofs.SpreadItems

/-!
Every rule of the grammar keeps up with places for the elements of lists. In a list of items, a
placeholder that is bound to a list is read as an item for each of its elements; anywhere else a
list does not fit. Main statement: a text that is a statement into which the lists fit is a
statement with their elements spread out as well, and the two route alike.
-/

namespace ShardedSql.Sql.Spreading

open Numeric Text ShardedSql.Sql.Parser Grammar
open Filling (kindsOf current_kind allMarks Near near_succ)

section Names

variable {layout : Layout} {bounds : Nat × Nat} {stands : TokenKind → Prop}

/-! ## Names and labels -/

theorem copies_qualifiedName : Copies layout bounds qualifiedName := by
  apply copies_identifier.bind
  intro first
  apply follows_acceptSymbol_if (by simp)
  · apply copies_identifier.bind
    intro second
    exact follows_pure fun _ => rfl
  · exact follows_pure fun _ => rfl

theorem follows_name :
    Follows layout bounds stands (do return some (← identifier)) (do return some (← identifier))
      (fun _ => True) (· = ·) := by
  apply copies_identifier.bind
  intro name
  exact follows_pure fun _ => rfl

theorem copies_tableLabel : Copies layout bounds tableLabel := by
  apply follows_acceptKeyword_if follows_name
  exact follows_atIdentifier_if follows_name (follows_pure fun _ => rfl)

theorem copies_itemLabel : Copies layout bounds itemLabel := by
  apply follows_acceptKeyword_if
  · apply follows_currentKind_bind
    intro k _
    cases k with
    | string label =>
        apply follows_advance_bind (by simp)
        exact follows_pure fun _ => rfl
    | _ => exact follows_name
  · exact follows_atIdentifier_if follows_name (follows_pure fun _ => rfl)

/-! ## Types -/

theorem keeps_typeWords (n n' : Nat) :
    Keeps layout (n, n') (typeWords n) (typeWords n') (fun _ => True) (· = ·) := by
  refine keeps_bounded (fun _ : Unit => typeWords) (fun _ => typeWords) (fun _ => True)
    (fun _ => (· = ·)) (fun _ _ => rfl) (fun _ n _ ended => typeWords_at_end ended n)
    (fun _ n _ ended => typeWords_at_end ended n) ?_ n n' ()
  intro n n' ih i
  have word (w : String) {k : TokenKind} (other : k ≠ .symbol .question) :
      Follows layout (n + 1, n' + 1) (· = k) (do advance; return w :: (← typeWords n))
        (do advance; return w :: (← typeWords n')) (fun _ => True) (· = ·) := by
    apply follows_advance_near (near_succ n n') other
    refine (ih n' ()).bind (fun _ _ _ _ _ _ => trivial) ?_
    rintro words _ rfl
    exact follows_pure fun _ => rfl
  apply follows_currentKind_bind
  intro k _
  cases k with
  | identifier name => exact word (upperAscii name) (by simp)
  | keyword reserved => exact word reserved.spelling (by simp)
  | _ => exact follows_pure fun _ => rfl

theorem copies_typeSize : Copies layout bounds typeSize := by
  apply follows_currentKind_bind
  intro k _
  cases k with
  | integer n =>
      apply follows_advance_bind (by simp)
      exact follows_pure fun _ => rfl
  | _ => exact follows_unexpected

theorem copies_typeName : Copies layout bounds typeName := by
  apply follows_remaining_bind
  intro n n'
  refine (keeps_typeWords n n').bind (fun _ _ _ _ _ _ => trivial) ?_
  rintro words _ rfl
  apply follows_if
  · intro _
    exact follows_unexpected
  · intro _
    apply follows_acceptSymbol_if (by simp)
    · apply (copies_commaList fun _ => copies_typeSize).bind
      intro sizes
      apply follows_expectSymbol_bind (by simp)
      exact follows_pure fun _ => rfl
    · exact follows_pure fun _ => rfl

end Names

/-! ## Expressions -/

section Expressions

variable {r : Runs} {bounds : Nat × Nat} {stands : TokenKind → Prop} {nested nested' : Nested}

/-- A reader of expressions that keeps up. -/
abbrev FollowsExpr (r : Runs) (bounds : Nat × Nat) (stands : TokenKind → Prop) (p q : Parser Expr) :
    Prop :=
  Follows r.toLayout bounds stands p q (·.fits r.further = true) r.SameExpr

abbrev FollowsList (r : Runs) (bounds : Nat × Nat) (stands : TokenKind → Prop)
    (p q : Parser (List Expr)) : Prop :=
  Follows r.toLayout bounds stands p q (itemsFit r.further · = true) r.SameItems

theorem Labels.none : Labels r (pure ()) (fun e _ => e) id () where
  exprOf_mk _ _ := rfl
  copies _ := follows_pure fun _ => rfl
  at_comma _ _ := rfl

variable (keeps : NestedKeeps r nested nested')
include keeps

theorem follows_anyExpression :
    FollowsExpr r bounds stands (anyExpression nested) (anyExpression nested') :=
  .of_keeps (keeps.expression bounds 0)

theorem follows_expressionList :
    FollowsList r bounds stands (expressionList nested) (expressionList nested') := by
  have unlabelled (nested : Nested) :
      labelled nested (pure ()) (fun e _ => e) = anyExpression nested := by
    simp only [labelled, pure_bind, bind_pure]
  have lists : KeepsItems r bounds id (commaList (labelled nested (pure ()) fun e _ => e))
      (commaList (labelled nested' (pure ()) fun e _ => e)) :=
    keeps_itemList keeps Labels.none
  simp only [unlabelled, KeepsItems, List.map_id] at lists
  exact .of_keeps lists

theorem follows_optional (word : Keyword) :
    Follows r.toLayout bounds stands (afterKeyword word (anyExpression nested))
      (afterKeyword word (anyExpression nested')) (optionFits r.further · = true) r.SameOption :=
  (Follows.of_keeps (keeps_afterKeyword (follows_anyExpression keeps))).imp
    (fun _ => optionFits_iff.mp) fun _ _ => id

theorem keeps_argumentsOf (function : String) (distinct : Bool) :
    Keeps r.toLayout bounds (argumentsOf nested function distinct)
      (argumentsOf nested' function distinct) (·.fits r.further = true) r.SameExpr := by
  have closing {args args' : List Expr} (related : r.SameItems args args') :
      Keeps r.toLayout bounds (do expectSymbol .rightParen; return .call function args distinct)
        (do expectSymbol .rightParen; return .call function args' distinct)
        (·.fits r.further = true) r.SameExpr := by
    apply follows_expectSymbol_bind (by simp)
    exact follows_pure fun _ => .call function distinct related
  apply follows_isAt_bind
  · apply follows_acceptSymbol_bind (by simp)
    · exact closing .nil
    · exact .of_keeps (closing .nil)
  · apply follows_acceptSymbol_bind (by simp)
    · exact closing (.cons (.wildcard_self none) .nil)
    · exact (follows_expressionList keeps).bind
        (fun args => gives_bind fun _ => gives_pure id) fun _ _ => closing

theorem follows_callOf (function : String) :
    FollowsExpr r bounds stands (callOf nested function) (callOf nested' function) := by
  apply follows_expectSymbol_bind (by simp)
  exact follows_acceptKeyword_bind (keeps_argumentsOf keeps function true)
    (.of_keeps (keeps_argumentsOf keeps function false))

theorem follows_castBody :
    FollowsExpr r bounds stands (castBody nested) (castBody nested') := by
  apply follows_expectSymbol_bind (by simp)
  refine (follows_anyExpression keeps).bind
    (fun operand => gives_bind fun _ => gives_bind fun _ => gives_bind fun _ => gives_pure id) ?_
  intro operand operand' operands
  apply follows_expectKeyword_bind
  apply copies_typeName.bind
  intro target
  apply follows_expectSymbol_bind (by simp)
  exact follows_pure fun _ => .cast target operands

theorem keeps_branches (n n' : Nat) :
    Keeps r.toLayout (n, n') (branches nested n) (branches nested' n')
      (branchesFit r.further · = true) r.SameBranches := by
  have fit {condition result : Expr} {others : List Branch}
      (fits : branchesFit r.further (⟨condition, result⟩ :: others) = true) :
      condition.fits r.further = true ∧ result.fits r.further = true ∧
        branchesFit r.further others = true := by
    rwa [branchesFit, Bool.and_eq_true, Bool.and_eq_true] at fits
  refine keeps_bounded (fun _ : Unit => branches nested) (fun _ => branches nested')
    (branchesFit r.further · = true) (fun _ => r.SameBranches) (fun _ _ => .nil)
    (fun _ n _ ended => branches_at_end ended nested n)
    (fun _ n _ ended => branches_at_end ended nested' n) ?_ n n' ()
  intro n n' ih i
  refine follows_accept_near (near_succ n n') (by simp) ?_ (follows_pure fun _ => .nil)
  refine (follows_anyExpression keeps).bind (fun condition => gives_bind fun _ =>
    gives_bind fun _ => gives_bind fun _ => gives_pure fun fits => (fit fits).1) ?_
  intro condition condition' conditions
  apply follows_expectKeyword_bind
  refine (follows_anyExpression keeps).bind
    (fun result => gives_bind fun _ => gives_pure fun fits => (fit fits).2.1) ?_
  intro result result' results
  refine (ih n' ()).bind (fun others => gives_pure fun fits => (fit fits).2.2) ?_
  exact fun others others' related => follows_pure fun _ => .cons conditions results related

omit keeps in
theorem fits_choice {subject otherwise : Option Expr} {whens : List Branch}
    (fits : (Expr.choice subject whens otherwise).fits r.further = true) :
    optionFits r.further subject = true ∧ branchesFit r.further whens = true ∧
      optionFits r.further otherwise = true := by
  rwa [Expr.fits, Bool.and_eq_true, Bool.and_eq_true] at fits

omit keeps in
theorem gives_choiceOf_subject (subject : Option Expr) :
    Gives (choiceOf nested subject) (Expr.fits r.further · = true)
      (optionFits r.further subject = true) := by
  refine gives_bind fun _ => gives_bind fun whens => gives_if gives_unexpected ?_
  exact gives_bind fun _ => gives_bind fun _ => gives_pure fun fits => (fits_choice fits).1

theorem keeps_choiceOf {subject subject' : Option Expr}
    (subjects : r.SameOption subject subject') :
    Keeps r.toLayout bounds (choiceOf nested subject) (choiceOf nested' subject')
      (Expr.fits r.further · = true) r.SameExpr := by
  apply follows_remaining_bind
  intro n n'
  refine (keeps_branches keeps n n').bind (fun whens => gives_if gives_unexpected
    (gives_bind fun _ => gives_bind fun _ => gives_pure fun fits => (fits_choice fits).2.1)) ?_
  intro whens whens' choices
  rw [choices.empty]
  apply follows_if
  · intro _
    exact follows_unexpected
  · intro _
    refine (follows_optional keeps .ELSE).bind
      (fun otherwise => gives_bind fun _ => gives_pure fun fits => (fits_choice fits).2.2) ?_
    intro otherwise otherwise' alternatives
    apply follows_expectKeyword_bind
    exact follows_pure fun _ => .choice subjects choices alternatives

theorem follows_caseBody :
    FollowsExpr r bounds stands (caseBody nested) (caseBody nested') := by
  apply follows_isAt_bind
  · exact .of_keeps (keeps_choiceOf keeps .none)
  · have subject : Keeps r.toLayout bounds (some <$> anyExpression nested)
        (some <$> anyExpression nested') (optionFits r.further · = true) r.SameOption :=
      (follows_anyExpression keeps).map (fun _ => id) fun _ _ => .some
    exact (Follows.of_keeps subject).bind gives_choiceOf_subject fun _ _ => keeps_choiceOf keeps

theorem follows_afterName (name : String) (span span' : Span) :
    FollowsExpr r bounds stands (afterName nested name span) (afterName nested' name span') := by
  apply follows_isAt_if (follows_callOf keeps name)
  apply follows_acceptSymbol_if (by simp)
  · apply follows_acceptSymbol_if (by simp)
    · exact follows_pure fun _ => .wildcard_self _
    · apply follows_current_bind
      intro token token' _ _
      apply copies_identifier.bind
      intro column
      exact follows_pure fun _ => .column_self _ _ _ _
  · exact follows_pure fun _ => .column_self _ _ _ _

theorem follows_callOfKeyword (word : Keyword) (span span' : Span) :
    FollowsExpr r bounds stands (callOfKeyword nested word span)
      (callOfKeyword nested' word span') := by
  apply follows_isAt_if (follows_callOf keeps word.spelling)
  exact follows_of_fails fun _ _ _ _ read => nomatch read

theorem follows_afterParen :
    FollowsExpr r bounds stands (afterParen nested) (afterParen nested') := by
  have closing {e e' : Expr} (related : r.SameExpr e e') :
      Keeps r.toLayout bounds (do expectSymbol .rightParen; return e)
        (do expectSymbol .rightParen; return e') (·.fits r.further = true) r.SameExpr := by
    apply follows_expectSymbol_bind (by simp)
    exact follows_pure fun _ => related
  have query : FollowsExpr r bounds (fun _ => True) (Expr.subquery <$> nested.select)
      (Expr.subquery <$> nested'.select) :=
    (keeps.select bounds).map (fun _ => id) fun _ _ => .subquery
  have inner : FollowsExpr r bounds (fun _ => True) (Expr.paren <$> anyExpression nested)
      (Expr.paren <$> anyExpression nested') :=
    (follows_anyExpression keeps).map (fun _ => id) fun _ _ => .paren
  apply follows_isAt_bind
  · exact (Follows.of_keeps query).bind (fun e => gives_bind fun _ => gives_pure id)
      fun _ _ => closing
  · exact (Follows.of_keeps inner).bind (fun e => gives_bind fun _ => gives_pure id)
      fun _ _ => closing

/-- A placeholder that fits has one place. -/
theorem follows_primary :
    FollowsExpr r bounds stands (primary nested) (primary nested') := by
  have literal {k : TokenKind} (value : Literal) (other : k ≠ .symbol .question) :
      FollowsExpr r bounds (· = k) (literalOf value) (literalOf value) := by
    apply follows_advance_bind other
    exact follows_pure fun _ => .literal_self value
  apply follows_current_bind
  rintro ⟨k, span⟩ ⟨k', span'⟩ same _
  change k' = k at same
  subst same
  cases k' with
  | identifier name =>
      exact follows_advance_bind (by simp) (follows_afterName keeps name span span')
  | integer n => exact literal _ (by simp)
  | float x => exact literal _ (by simp)
  | string text => exact literal _ (by simp)
  | blob bytes => exact literal _ (by simp)
  | eof => exact follows_unexpected
  | error reason => exact follows_unexpected
  | symbol mark =>
      cases mark with
      | question =>
          intro s s' a t spread here read fits
          cases read
          obtain ⟨within, ordinal, behind⟩ := spread.mark here
          -- It fits into a place of its own, so that no further places stand behind it.
          have alone : r.further s.ordinal = 0 := beq_iff_eq.mp fits
          rw [alone] at behind
          refine ⟨placeholderAt s'.ordinal, passed s', rfl, ?_, behind⟩
          rw [ordinal]
          exact .single within alone
      | colon =>
          apply follows_advance_bind (by simp)
          apply copies_identifier.bind
          intro name
          exact follows_pure fun _ => .named_self name
      | star =>
          apply follows_advance_bind (by simp)
          exact follows_pure fun _ => .wildcard_self none
      | leftParen => exact follows_advance_bind (by simp) (follows_afterParen keeps)
      | _ => exact follows_unexpected
  | keyword word =>
      cases word with
      | TRUE => exact literal _ (by simp)
      | FALSE => exact literal _ (by simp)
      | NULL => exact literal _ (by simp)
      | CASE => exact follows_advance_bind (by simp) (follows_caseBody keeps)
      | CAST => exact follows_advance_bind (by simp) (follows_castBody keeps)
      | EXISTS =>
          apply follows_advance_bind (by simp)
          refine (keeps_parenthesized (keeps.select bounds)).bind (fun query => gives_pure id) ?_
          exact fun query query' queries => follows_pure fun _ => .existence false queries
      | LEFT => exact follows_advance_bind (by simp) (follows_callOfKeyword keeps _ span span')
      | RIGHT => exact follows_advance_bind (by simp) (follows_callOfKeyword keeps _ span span')
      | _ => exact follows_unexpected

theorem follows_signed :
    FollowsExpr r bounds stands (signed nested) (signed nested') := by
  apply follows_currentKind_bind
  intro k _
  cases signs : sign? k with
  | none => exact follows_primary keeps
  | some found =>
      obtain ⟨level, sign⟩ := found
      have other : k ≠ .symbol .question := by
        rintro rfl
        cases signs
      apply follows_advance_bind other
      refine (keeps.expression bounds level).bind (fun e => gives_pure fun fits => ?_) ?_
      · rwa [fits_apply] at fits
      · exact fun e e' related => follows_pure fun _ => .signed sign related

section Operands

variable {operand operand' : Expr} (operands : r.SameExpr operand operand')
include operands

theorem follows_membership (negated : Bool) :
    FollowsExpr r bounds stands (membership nested operand negated)
      (membership nested' operand' negated) := by
  have fit {items : List Expr} (fits : (Expr.inList operand items negated).fits r.further = true) :
      itemsFit r.further items = true := by
    rw [Expr.fits, Bool.and_eq_true] at fits
    exact fits.2
  have closing {items items' : List Expr} (members : r.SameItems items items') :
      Keeps r.toLayout bounds (do expectSymbol .rightParen; return .inList operand items negated)
        (do expectSymbol .rightParen; return .inList operand' items' negated)
        (·.fits r.further = true) r.SameExpr := by
    apply follows_expectSymbol_bind (by simp)
    exact follows_pure fun _ => .inList negated operands members
  have query : FollowsList r bounds (fun _ => True)
      ((fun query => [Expr.subquery query]) <$> nested.select)
      ((fun query => [Expr.subquery query]) <$> nested'.select) := by
    refine (keeps.select bounds).map (fun query fits => ?_) fun _ _ queries =>
      .cons (.subquery queries) .nil
    simpa [itemsFit, Expr.isPlaceholder, Expr.fits] using fits
  apply follows_expectSymbol_bind (by simp)
  apply follows_isAt_bind
  · exact (Follows.of_keeps query).bind (fun items => gives_bind fun _ => gives_pure fit)
      fun _ _ => closing
  · exact (follows_expressionList keeps).bind (fun items => gives_bind fun _ => gives_pure fit)
      fun _ _ => closing

theorem follows_range (negated : Bool) (level : Nat) :
    FollowsExpr r bounds stands (range nested operand negated level)
      (range nested' operand' negated level) := by
  have fit {low high : Expr}
      (fits : (Expr.between operand low high negated).fits r.further = true) :
      low.fits r.further = true ∧ high.fits r.further = true := by
    rw [Expr.fits, Bool.and_eq_true, Bool.and_eq_true] at fits
    exact fits.2
  refine (Follows.of_keeps (keeps.expression bounds level)).bind
    (fun low => gives_bind fun _ => gives_bind fun _ => gives_pure fun fits => (fit fits).1) ?_
  intro low low' lows
  apply follows_expectKeyword_bind
  refine (keeps.expression bounds level).bind
    (fun high => gives_pure fun fits => (fit fits).2) ?_
  exact fun high high' highs => follows_pure fun _ => .between negated operands lows highs

theorem follows_binary (op : BinaryOp) (level : Nat) :
    FollowsExpr r bounds stands (do return .binary operand op (← nested.expression level))
      (do return .binary operand' op (← nested'.expression level)) := by
  refine (Follows.of_keeps (keeps.expression bounds level)).bind
    (fun right => gives_pure fun fits => ?_) ?_
  · rw [Expr.fits, Bool.and_eq_true] at fits
    exact fits.2
  · exact fun right right' rights => follows_pure fun _ => .binary op operands rights

theorem follows_negatedPredicate (level : Nat) :
    FollowsExpr r bounds stands (negatedPredicate nested operand level)
      (negatedPredicate nested' operand' level) := by
  apply follows_currentKind_bind
  intro k _
  cases k with
  | keyword word =>
      cases word with
      | IN => exact follows_advance_bind (by simp) (follows_membership keeps operands true)
      | BETWEEN => exact follows_advance_bind (by simp) (follows_range keeps operands true level)
      | LIKE => exact follows_advance_bind (by simp) (follows_binary keeps operands .notLike level)
      | _ => exact follows_unexpected
  | _ => exact follows_unexpected

theorem follows_extend (level : Nat) (form : Continuation) :
    FollowsExpr r bounds stands (extend nested operand level form)
      (extend nested' operand' level form) := by
  have tested (negated : Bool) :
      Keeps r.toLayout bounds (do expectKeyword .NULL; return .isNull operand negated)
        (do expectKeyword .NULL; return .isNull operand' negated)
        (·.fits r.further = true) r.SameExpr := by
    apply follows_expectKeyword_bind
    exact follows_pure fun _ => .isNull negated operands
  cases form with
  | nullTest => exact follows_acceptKeyword_bind (tested true) (.of_keeps (tested false))
  | negation => exact follows_negatedPredicate keeps operands level
  | membership => exact follows_membership keeps operands false
  | range => exact follows_range keeps operands false level
  | operator op => exact follows_binary keeps operands op level

end Operands

omit keeps in
/-- Where an extended operand fits, the operand fits. -/
theorem gives_extend_fits (operand : Expr) (level : Nat) (form : Continuation) :
    Gives (extend nested operand level form) (Expr.fits r.further · = true)
      (operand.fits r.further = true) := by
  have first {b : Bool} (fits : (operand.fits r.further && b) = true) :
      operand.fits r.further = true :=
    ((Bool.and_eq_true _ _).mp fits).1
  have members (negated : Bool) :
      Gives (membership nested operand negated) (Expr.fits r.further · = true)
        (operand.fits r.further = true) := by
    refine gives_bind fun _ => gives_bind fun _ => ?_
    exact gives_if (gives_bind fun _ => gives_bind fun _ => gives_pure first)
      (gives_bind fun _ => gives_bind fun _ => gives_pure first)
  have ranges (negated : Bool) :
      Gives (range nested operand negated level) (Expr.fits r.further · = true)
        (operand.fits r.further = true) :=
    gives_bind fun _ => gives_bind fun _ => gives_bind fun _ => gives_pure first
  cases form with
  | nullTest => exact gives_bind fun _ => gives_bind fun _ => gives_pure id
  | negation =>
      refine gives_bind fun kind => ?_
      cases kind with
      | keyword word =>
          cases word with
          | IN => exact gives_bind fun _ => members true
          | BETWEEN => exact gives_bind fun _ => ranges true
          | LIKE => exact gives_bind fun _ => gives_bind fun _ => gives_pure first
          | _ => exact gives_unexpected
      | _ => exact gives_unexpected
  | membership => exact members false
  | range => exact ranges false
  | operator op => exact gives_bind fun _ => gives_pure first

omit keeps in
theorem gives_continued (least n : Nat) (operand : Expr) :
    Gives (continued nested least n operand) (Expr.fits r.further · = true)
      (operand.fits r.further = true) := by
  induction n generalizing operand with
  | zero => exact gives_pure id
  | succ n ih =>
      refine gives_bind fun kind => ?_
      cases found : continuation? kind with
      | none => exact gives_pure id
      | some next =>
          refine gives_if (gives_pure id) (gives_bind fun _ => ?_)
          intro s e u read fits
          obtain ⟨larger, t, read_larger, read⟩ := read_of_bind read
          exact gives_extend_fits operand _ _ s larger t read_larger (ih larger t e u read fits)

/-- What has been read so far is the operand of what comes next. -/
theorem keeps_continued (least n n' : Nat) {operand operand' : Expr}
    (operands : r.SameExpr operand operand') :
    Keeps r.toLayout (n, n') (continued nested least n operand)
      (continued nested' least n' operand') (·.fits r.further = true) r.SameExpr := by
  refine keeps_bounded
    (fun (i : { x : Expr × Expr // r.SameExpr x.1 x.2 }) n => continued nested least n i.1.1)
    (fun i n => continued nested' least n i.1.2) (Expr.fits r.further · = true)
    (fun _ => r.SameExpr) (fun i _ => i.2) (fun _ n _ ended => continued_at_end ended _ least n _)
    (fun _ n _ ended => continued_at_end ended _ least n _) ?_ n n' ⟨(operand, operand'), operands⟩
  rintro n n' ih ⟨⟨operand, operand'⟩, operands⟩
  apply follows_currentKind_bind
  intro k _
  cases found : continuation? k with
  | none => exact follows_pure fun _ => operands
  | some next =>
      obtain ⟨level, form⟩ := next
      have other : k ≠ .symbol .question := by
        rintro rfl
        cases found
      by_cases loose : level < least
      · simp only [if_pos loose]
        exact follows_pure fun _ => operands
      · simp only [if_neg loose]
        apply follows_advance_near (near_succ n n') other
        refine (follows_extend keeps operands (level + 1) form).bind
          (fun larger => gives_continued least n larger) ?_
        exact fun larger larger' related => ih n' ⟨(larger, larger'), related⟩

theorem follows_expression (least : Nat) :
    FollowsExpr r bounds stands (expression nested least) (expression nested' least) := by
  refine (follows_signed keeps).bind
    (fun operand => gives_bind fun n => gives_continued least n operand) ?_
  intro operand operand' operands
  apply follows_remaining_bind
  exact fun n n' => keeps_continued keeps least n n' operands

/-! ## Placeholders of lists -/

omit keeps in
/-- A question mark is read as an operand of its own before what goes on behind no operand. -/
theorem expression_mark {least : Nat} {s : TokenStream}
    (mark : s.current.kind = .symbol .question)
    (stops : ∀ next, continuation? (passed s).current.kind = some next → next.1 < least) :
    expression nested least s = .ok (placeholderAt s.ordinal) (passed s) := by
  have placeholder : primary nested s = .ok (placeholderAt s.ordinal) (passed s) := by
    rw [primary, current_bind, mark]
    rfl
  have operand : signed nested s = .ok (placeholderAt s.ordinal) (passed s) :=
    (signed_eq_primary (by rw [mark]; rfl)).trans placeholder
  rw [expression_of_signed operand, continued_stops stops]

omit keeps in
/-- Nothing goes on behind the first place of a list, or the same as behind its placeholder. -/
theorem stops_at_place {layout : Layout} {pending least : Nat} {t t' : TokenStream}
    (spread : Spread layout bounds pending t t')
    (stops : ∀ next, continuation? t.current.kind = some next → next.1 < least) :
    ∀ next, continuation? t'.current.kind = some next → next.1 < least := by
  cases pending with
  | zero =>
      rw [spread.current]
      exact stops
  | succ pending =>
      rw [spread.further.1]
      exact nofun

/-- What is read as a placeholder is read as its first place. -/
theorem expression_item {least : Nat} {s s' t : TokenStream} {k : Nat}
    (spread : Spread r.toLayout bounds 0 s s')
    (read : expression nested least s = .ok (placeholderAt k) t) :
    k < r.marks ∧ (∀ next, continuation? t.current.kind = some next → next.1 < least) ∧
      ∃ t', expression nested' least s' = .ok (placeholderAt (place r.further k)) t' ∧
        t'.ordinal = place r.further k + 1 ∧ Spread r.toLayout bounds (r.further k) t t' := by
  obtain ⟨operand, u, read_operand, read⟩ := read_of_bind read
  obtain ⟨n, _, left, read⟩ := read_of_bind read
  cases left
  obtain ⟨rfl, rfl, stops⟩ := continued_placeholder read
  have ends (finish : t.finish.kind = .eof) :
      ∀ next, continuation? t.current.kind = some next → next.1 < least := by
    -- Reading stops where no token is left to be read, or before an operator that binds too
    -- loosely.
    rcases stops with none_left | stops
    · have ended : t.current.kind = .eof := by
        rw [current_kind, kindsOf, List.length_eq_zero_iff.mp none_left]
        exact finish
      rw [ended]
      intro next found
      cases found
    · exact stops
  obtain ⟨unsigned, read_mark⟩ | ⟨level, plus, read_plus⟩ := signed_placeholder read_operand
  · obtain ⟨mark, rfl, rfl⟩ := primary_placeholder read_mark
    obtain ⟨within, ordinal, behind⟩ := spread.mark mark
    have ends := ends behind.finish
    refine ⟨within, ends, passed s', ?_, congrArg (· + 1) ordinal, behind⟩
    rw [← ordinal]
    exact expression_mark (spread.current.trans mark) (stops_at_place behind ends)
  -- A plus sign is passed in both streams, and the operand behind it is read as a nested one.
  · have other : s.current.kind ≠ .symbol .question := by
      intro mark
      rw [mark] at plus
      cases plus
    obtain ⟨within, _, t', read', ordinal, behind⟩ :=
      keeps.item bounds level s.rest s'.rest k t (spread.rest (.refl bounds) other) read_plus
    have ends := ends behind.finish
    refine ⟨within, ends, t', ?_, ordinal, behind⟩
    have plus' : sign? s'.current.kind = some (level, .none) := by rw [spread.current, plus]
    have operand : signed nested' s' = .ok (placeholderAt (place r.further k)) t' :=
      signed_of_sign plus' read'
    rw [expression_of_signed operand, continued_stops (stops_at_place behind ends)]

end Expressions

/-! ## Tables -/

section Tables

variable {r : Runs} {bounds : Nat × Nat} {stands : TokenKind → Prop} {nested nested' : Nested}

abbrev FollowsTables (r : Runs) (bounds : Nat × Nat) (stands : TokenKind → Prop)
    (p q : Parser TableRef) : Prop :=
  Follows r.toLayout bounds stands p q (·.fits r.further = true) Runs.SameTables

theorem copies_columns : Copies r.toLayout bounds (parenthesized (commaList identifier)) :=
  keeps_parenthesized (copies_commaList fun _ => copies_identifier)

theorem follows_namedTable :
    FollowsTables r bounds stands namedTable namedTable := by
  apply copies_qualifiedName.bind
  rintro ⟨schema, name⟩
  apply copies_tableLabel.bind
  intro label
  exact follows_pure fun _ => .table schema name label

theorem follows_joinWords_near {low : Nat × Nat} (near : Near low bounds) {α β : Type}
    {good : α → Prop} {same : α → β → Prop} {f : Option JoinKind → Parser α}
    {g : Option JoinKind → Parser β}
    (stop : Keeps r.toLayout bounds (f none) (g none) good same)
    (next : ∀ kind, Keeps r.toLayout low (f (some kind)) (g (some kind)) good same) :
    Keeps r.toLayout bounds (joinWords >>= f) (joinWords >>= g) good same := by
  have closing (join : JoinKind) :
      Keeps r.toLayout low (do expectKeyword .JOIN; f (some join))
        (do expectKeyword .JOIN; g (some join)) good same :=
    follows_expectKeyword_bind (next join)
  rw [joinWords_bind, joinWords_bind]
  apply follows_currentKind_bind
  intro k _
  cases found : joinKind? k with
  | none => exact .of_keeps stop
  | some join =>
      have other : k ≠ .symbol .question := by
        rintro rfl
        cases found
      apply follows_advance_near near other
      refine follows_if (fun _ => next join) fun _ => follows_if (fun _ => ?_) fun _ => closing join
      exact follows_discardKeyword_bind (closing join)

theorem fits_join {left right : TableRef} {kind : JoinKind} {condition : Option Expr}
    {shared : List String}
    (fits : (TableRef.join left kind right condition shared).fits r.further = true) :
    left.fits r.further = true ∧ right.fits r.further = true ∧
      optionFits r.further condition = true := by
  rwa [TableRef.fits, Bool.and_eq_true, Bool.and_eq_true] at fits

theorem gives_joins (n : Nat) (left : TableRef) :
    Gives (joins nested n left) (TableRef.fits r.further · = true)
      (left.fits r.further = true) := by
  induction n generalizing left with
  | zero => exact gives_pure id
  | succ n ih =>
      refine gives_bind fun kind => ?_
      cases kind with
      | none => exact gives_pure id
      | some kind =>
          refine gives_bind fun right => gives_bind fun on => ?_
          intro s all t read fits
          exact (fits_join (ih _ s all t read fits)).1

/-- The list after `FROM` is joined from the left. -/
theorem crossed_fits {first : TableRef} {others : List TableRef}
    (fits : TableRef.fits r.further
      (others.foldl (fun left right => .join left .cross right none []) first) = true) :
    first.fits r.further = true ∧ ∀ right ∈ others, right.fits r.further = true := by
  induction others generalizing first with
  | nil => exact ⟨fits, nofun⟩
  | cons right others ih =>
      obtain ⟨joined, others_fit⟩ := ih fits
      have ⟨first_fits, right_fits, _⟩ := fits_join joined
      exact ⟨first_fits, List.forall_mem_cons.mpr ⟨right_fits, others_fit⟩⟩

theorem same_crossed {first first' : TableRef} {others others' : List TableRef}
    (firsts : Runs.SameTables first first') (each : List.Forall₂ Runs.SameTables others others') :
    Runs.SameTables (others.foldl (fun left right => .join left .cross right none []) first)
      (others'.foldl (fun left right => .join left .cross right none []) first') := by
  induction each generalizing first first' with
  | nil => exact firsts
  | @cons right right' others others' rights _ ih =>
      have joined : Runs.SameTables (.join first .cross right none [])
          (.join first' .cross right' none []) := by
        constructor
        · simp only [TableRef.tables, firsts.tables, rights.tables]
        · simp only [TableRef.boundTables, firsts.bound, rights.bound]
      exact ih joined

variable (keeps : NestedKeeps r nested nested')
include keeps

theorem follows_tableFactor :
    FollowsTables r bounds stands (tableFactor nested) (tableFactor nested') := by
  apply follows_acceptSymbol_if (by simp)
  · apply follows_isAt_if
    · refine (Follows.of_keeps (keeps.select bounds)).bind
        (fun query => gives_bind fun _ => gives_bind fun _ => gives_pure id) ?_
      intro query query' queries
      apply follows_expectSymbol_bind (by simp)
      apply copies_tableLabel.bind
      intro label
      exact follows_pure fun _ => .derived label queries
    · refine (Follows.of_keeps (keeps.tables bounds)).bind
        (fun inner => gives_bind fun _ => gives_pure id) ?_
      intro inner inner' inners
      apply follows_expectSymbol_bind (by simp)
      exact follows_pure fun _ => inners
  · exact follows_namedTable

theorem keeps_joinCondition (kind : JoinKind) :
    Keeps r.toLayout bounds (joinCondition nested kind) (joinCondition nested' kind)
      (fun on => optionFits r.further on.1 = true)
      fun on on' => r.SameOption on.1 on'.1 ∧ on'.2 = on.2 := by
  apply follows_if
  · intro _
    exact follows_pure fun _ => ⟨.none, rfl⟩
  intro _
  apply follows_acceptKeyword_if
  · refine (follows_anyExpression keeps).bind (fun condition => gives_pure id) ?_
    exact fun _ _ conditions => follows_pure fun _ => ⟨.some conditions, rfl⟩
  · apply follows_acceptKeyword_if
    · apply copies_columns.bind
      intro shared
      exact follows_pure fun _ => ⟨.none, rfl⟩
    · exact follows_unexpected

theorem keeps_joins (n n' : Nat) {left left' : TableRef} (lefts : Runs.SameTables left left') :
    Keeps r.toLayout (n, n') (joins nested n left) (joins nested' n' left')
      (·.fits r.further = true) Runs.SameTables := by
  refine keeps_bounded
    (fun (i : { x : TableRef × TableRef // Runs.SameTables x.1 x.2 }) n => joins nested n i.1.1)
    (fun i n => joins nested' n i.1.2) (TableRef.fits r.further · = true)
    (fun _ => Runs.SameTables) (fun i _ => i.2) (fun _ n _ ended => joins_at_end ended nested n _)
    (fun _ n _ ended => joins_at_end ended nested' n _) ?_ n n' ⟨(left, left'), lefts⟩
  rintro n n' ih ⟨⟨left, left'⟩, lefts⟩
  apply follows_joinWords_near (near_succ n n')
  · exact follows_pure fun _ => lefts
  intro kind
  refine (follows_tableFactor keeps).bind (fun right => gives_bind fun on => ?_) ?_
  · intro s all t read fits
    exact (fits_join (gives_joins n _ s all t read fits)).2.1
  intro right right' rights
  refine (keeps_joinCondition keeps kind).bind (fun on => ?_) ?_
  · intro s all t read fits
    exact (fits_join (gives_joins n _ s all t read fits)).2.2
  rintro ⟨condition, _⟩ ⟨condition', shared⟩ ⟨conditions, rfl⟩
  exact ih n' ⟨(_, _), .join kind shared lefts rights conditions⟩

theorem follows_joinedTable :
    FollowsTables r bounds stands (joinedTable nested) (joinedTable nested') := by
  refine (follows_tableFactor keeps).bind
    (fun first => gives_bind fun n => gives_joins n first) ?_
  intro first first' firsts
  apply follows_remaining_bind
  exact fun n n' => keeps_joins keeps n n' firsts

theorem follows_tables :
    FollowsTables r bounds stands (tables nested) (tables nested') := by
  refine (Follows.of_keeps (keeps_commaList fun _ => follows_joinedTable keeps)).bind
    (fun all => ?_) ?_
  · cases all with
    | nil => exact gives_unexpected
    | cons first others =>
        exact gives_pure fun fits => List.forall_mem_cons.mpr (crossed_fits fits)
  · intro all all' each
    cases each with
    | nil => exact follows_unexpected
    | cons firsts others => exact follows_pure fun _ => same_crossed firsts others

end Tables

/-! ## Queries -/

section Queries

variable {r : Runs} {bounds : Nat × Nat} {stands : TokenKind → Prop} {nested nested' : Nested}

/-- The direction of an order, which is not part of its item. -/
def directionLabel : Parser Direction := do
  if ← acceptKeyword .DESC then
    return .descending
  else
    discard <| acceptKeyword .ASC
    return .ascending

theorem orderItem_eq_labelled (nested : Nested) :
    orderItem nested = labelled nested directionLabel OrderItem.mk := by
  simp only [orderItem, labelled, directionLabel, bind_assoc]
  congr 1
  funext e
  congr 1
  funext found
  cases found <;> simp

theorem Labels.selected : Labels r itemLabel SelectItem.mk (·.expr) Option.none where
  exprOf_mk _ _ := rfl
  copies _ := copies_itemLabel
  at_comma s comma := by
    have no_word : acceptKeyword .AS s = .ok false s := accept_of_ne (by simp [comma])
    rw [itemLabel, bind_ok no_word]
    simp only [Bool.false_eq_true, ↓reduceIte]
    rw [atIdentifier, bind_assoc, currentKind_bind, comma]
    rfl

theorem Labels.ordered : Labels r directionLabel OrderItem.mk (·.expr) .ascending where
  exprOf_mk _ _ := rfl
  copies bounds := by
    apply follows_acceptKeyword_if (follows_pure fun _ => rfl)
    exact follows_discardKeyword_bind (follows_pure fun _ => rfl)
  at_comma s comma := by
    have no_word (word : Keyword) : acceptKeyword word s = .ok false s :=
      accept_of_ne (by simp [comma])
    rw [directionLabel, bind_ok (no_word .DESC)]
    simp only [Bool.false_eq_true, ↓reduceIte]
    rw [discard_bind, bind_ok (no_word .ASC)]
    rfl

theorem follows_listBy {α β : Type} {good : List α → Prop} {same : List α → List β → Prop}
    {item : Parser α} {item' : Parser β} (word : Keyword) (empty : same [] [])
    (lists : Keeps r.toLayout bounds (commaList item) (commaList item') good same) :
    Follows r.toLayout bounds stands (listBy word item) (listBy word item') good same := by
  apply follows_acceptKeyword_if
  · exact follows_expectKeyword_bind lists
  · exact follows_pure fun _ => empty

variable (keeps : NestedKeeps r nested nested')
include keeps

/-- Limits and offsets ask for no shard. -/
theorem follows_window :
    Follows r.toLayout bounds stands (window nested) (window nested')
      (fun pages => optionFits r.further pages.1 = true ∧ optionFits r.further pages.2 = true)
      fun _ _ => True := by
  have offset {stands : TokenKind → Prop} (limit limit' : Option Expr) :
      Follows r.toLayout bounds stands
        (do return (limit, ← afterKeyword .OFFSET (anyExpression nested)))
        (do return (limit', ← afterKeyword .OFFSET (anyExpression nested')))
        (fun pages => optionFits r.further pages.1 = true ∧ optionFits r.further pages.2 = true)
        fun _ _ => True :=
    (follows_optional keeps .OFFSET).bind (fun _ => gives_pure And.right)
      fun _ _ _ => follows_pure fun _ => trivial
  apply follows_acceptKeyword_if
  · refine (follows_anyExpression keeps).bind (fun first => gives_bind fun comma => ?_) ?_
    · exact gives_if (gives_bind fun _ => gives_pure And.right)
        (gives_bind fun _ => gives_pure And.left)
    intro first first' _
    apply follows_acceptSymbol_if (by simp)
    · exact (follows_anyExpression keeps).bind (fun _ => gives_pure And.left)
        fun _ _ _ => follows_pure fun _ => trivial
    · exact offset _ _
  · exact offset none none

theorem follows_source :
    Follows r.toLayout bounds stands (afterKeyword .FROM (tables nested))
      (afterKeyword .FROM (tables nested')) (sourceFits r.further · = true)
      (Option.Rel Runs.SameTables) :=
  (Follows.of_keeps (keeps_afterKeyword (follows_tables keeps))).imp
    (fun _ => sourceFits_iff.mp) fun _ _ => id

theorem keeps_selected :
    KeepsItems r bounds (·.expr) (commaList (selectItem nested)) (commaList (selectItem nested')) :=
  keeps_itemList keeps Labels.selected

theorem keeps_ordered :
    KeepsItems r bounds (·.expr) (commaList (orderItem nested))
      (commaList (orderItem nested')) := by
  rw [orderItem_eq_labelled, orderItem_eq_labelled]
  exact keeps_itemList keeps Labels.ordered

theorem keeps_selectBody (distinct : Bool) :
    Keeps r.toLayout bounds (selectBody nested distinct) (selectBody nested' distinct)
      (Select.fits r.further · = true) r.SameSelect := by
  refine (keeps_selected keeps).bind (fun items => gives_bind fun _ => gives_bind fun _ =>
    gives_bind fun _ => gives_bind fun _ => gives_bind fun _ => gives_bind fun _ =>
    gives_pure fun fits => (fits_select.mp fits).1) ?_
  intro items items' selected
  refine (follows_source keeps).bind (fun source => gives_bind fun _ => gives_bind fun _ =>
    gives_bind fun _ => gives_bind fun _ => gives_bind fun _ =>
    gives_pure fun fits => (fits_select.mp fits).2.1) ?_
  intro source source' sources
  refine (follows_optional keeps .WHERE).bind (fun condition => gives_bind fun _ =>
    gives_bind fun _ => gives_bind fun _ => gives_bind fun _ =>
    gives_pure fun fits => (fits_select.mp fits).2.2.1) ?_
  intro condition condition' conditions
  refine (follows_listBy .GROUP .nil (follows_expressionList keeps)).bind
    (fun groups => gives_bind fun _ => gives_bind fun _ => gives_bind fun _ =>
      gives_pure fun fits => (fits_select.mp fits).2.2.2.1) ?_
  intro groups groups' grouped
  refine (follows_optional keeps .HAVING).bind (fun having => gives_bind fun _ =>
    gives_bind fun _ => gives_pure fun fits => (fits_select.mp fits).2.2.2.2.1) ?_
  intro having having' havings
  refine (follows_listBy .ORDER .nil (keeps_ordered keeps)).bind
    (fun order => gives_bind fun _ =>
      gives_pure fun fits => (fits_select.mp fits).2.2.2.2.2.1) ?_
  intro order order' ordered
  refine (follows_window keeps).bind
    (fun pages => gives_pure fun fits => (fits_select.mp fits).2.2.2.2.2.2) ?_
  rintro ⟨limit, offset⟩ ⟨limit', offset'⟩ _
  exact follows_pure fun _ => .of_clauses selected sources conditions grouped havings ordered

theorem follows_select :
    Follows r.toLayout bounds stands (select nested) (select nested') (·.fits r.further = true)
      r.SameSelect := by
  -- `DISTINCT` and `ALL` stand before the same body.
  apply follows_expectKeyword_bind
  apply follows_acceptKeyword_bind
  · exact keeps_selectBody keeps true
  · exact follows_discardKeyword_bind (keeps_selectBody keeps false)

end Queries

/-! ## Statements that change rows -/

section Changes

variable {r : Runs} {bounds : Nat × Nat} {stands : TokenKind → Prop} {nested nested' : Nested}

theorem copies_columnList : Copies r.toLayout bounds columnList := by
  have none_read : Copies r.toLayout bounds (pure ([] : List String)) :=
    follows_pure fun _ => rfl
  apply follows_isAt_bind
  · have opening : Follows r.toLayout bounds (· = .symbol .leftParen)
        (do
          if true && (← followingKind) != .keyword .SELECT then parenthesized (commaList identifier)
          else return [])
        (do
          if true && (← followingKind) != .keyword .SELECT then parenthesized (commaList identifier)
          else return []) (fun _ => True) (· = ·) := by
      apply follows_followingKind_bind (by simp)
      intro k
      exact follows_if (fun _ => .of_keeps copies_columns) fun _ => .of_keeps none_read
    exact opening.weaken fun _ here => here.2
  · intro s s' columns t spread here read
    exact none_read s s' columns t spread trivial read

variable (keeps : NestedKeeps r nested nested')
include keeps

theorem follows_assignment :
    Follows r.toLayout bounds stands (assignment nested) (assignment nested')
      (·.value.fits r.further = true) fun a a' => r.SameExpr a.value a'.value := by
  apply copies_qualifiedName.bind
  intro name
  apply follows_expectSymbol_bind (by simp)
  refine (follows_anyExpression keeps).bind (fun value => gives_pure id) ?_
  exact fun value value' related => follows_pure fun _ => related

theorem follows_assignments :
    Follows r.toLayout bounds stands (commaList (assignment nested))
      (commaList (assignment nested')) (assignmentsFit r.further · = true) r.SameAssignments :=
  (Follows.of_keeps (keeps_commaList fun _ => follows_assignment keeps)).imp
    (fun _ => List.all_eq_true.mp) fun _ _ => id

theorem follows_valueRow :
    FollowsList r bounds stands (valueRow nested) (valueRow nested') := by
  have closing {row row' : List Expr} (related : r.SameItems row row') :
      Keeps r.toLayout bounds (do expectSymbol .rightParen; return row)
        (do expectSymbol .rightParen; return row') (itemsFit r.further · = true) r.SameItems := by
    apply follows_expectSymbol_bind (by simp)
    exact follows_pure fun _ => related
  apply follows_expectSymbol_bind (by simp)
  apply follows_isAt_bind
  · exact .of_keeps (closing .nil)
  · exact (follows_expressionList keeps).bind (fun row => gives_bind fun _ => gives_pure id)
      fun _ _ => closing

theorem keeps_insertSource :
    Keeps r.toLayout bounds (insertSource nested) (insertSource nested')
      (·.fits r.further = true) r.SameSource := by
  apply follows_acceptKeyword_if
  · refine (keeps_commaList fun _ => follows_valueRow keeps).bind
      (fun rows => gives_pure List.all_eq_true.mp) ?_
    exact fun rows rows' each => follows_pure fun _ => .values each
  apply follows_isAt_if
  · refine (follows_select keeps).bind (fun query => gives_pure id) ?_
    exact fun query query' queries => follows_pure fun _ => .query queries
  apply follows_acceptSymbol_if (by simp)
  · refine (follows_select keeps).bind (fun query => gives_bind fun _ => gives_pure id) ?_
    intro query query' queries
    apply follows_expectSymbol_bind (by simp)
    exact follows_pure fun _ => .query queries
  · apply follows_acceptKeyword_if
    · apply follows_expectKeyword_bind
      exact follows_pure fun _ => .defaults
    · exact follows_unexpected

theorem keeps_onDuplicate :
    Keeps r.toLayout bounds (onDuplicate nested) (onDuplicate nested')
      (assignmentsFit r.further · = true) r.SameAssignments := by
  apply follows_acceptKeyword_if
  · apply (copies_expectWord _).bind
    intro _
    apply (copies_expectWord _).bind
    intro _
    apply follows_expectKeyword_bind
    exact follows_assignments keeps
  · exact follows_pure fun _ => .nil

theorem follows_insertBody :
    Follows r.toLayout bounds stands (insertBody nested) (insertBody nested')
      (fun s => (Statement.insert s).fits r.further = true)
      fun s s' => r.SameStatement (.insert s) (.insert s') := by
  have fit {s : Insert} (fits : (Statement.insert s).fits r.further = true) :
      s.source.fits r.further = true ∧ assignmentsFit r.further s.onDuplicate = true := by
    rwa [Statement.fits, Bool.and_eq_true] at fits
  apply copies_qualifiedName.bind
  rintro ⟨schema, table⟩
  apply copies_columnList.bind
  intro columns
  refine (keeps_insertSource keeps).bind
    (fun source => gives_bind fun _ => gives_pure fun fits => (fit fits).1) ?_
  intro source source' sources
  refine (keeps_onDuplicate keeps).bind
    (fun duplicates => gives_pure fun fits => (fit fits).2) ?_
  exact fun duplicates duplicates' assigned =>
    follows_pure fun _ => .insert rfl rfl sources assigned

theorem follows_insert :
    Follows r.toLayout bounds stands (insert nested) (insert nested')
      (fun s => (Statement.insert s).fits r.further = true)
      fun s s' => r.SameStatement (.insert s) (.insert s') := by
  have ignored : Copies r.toLayout bounds (discard (acceptWord "IGNORE")) :=
    (copies_acceptWord _).map (fun _ _ => trivial) fun _ _ _ => rfl
  apply follows_expectKeyword_bind
  apply ignored.bind
  intro _
  exact follows_discardKeyword_bind (follows_insertBody keeps)

theorem follows_update :
    Follows r.toLayout bounds stands (update nested) (update nested')
      (fun s => (Statement.update s).fits r.further = true)
      fun s s' => r.SameStatement (.update s) (.update s') := by
  have fit {s : Update} (fits : (Statement.update s).fits r.further = true) :
      assignmentsFit r.further s.assignments = true ∧ optionFits r.further s.condition = true := by
    rwa [Statement.fits, Bool.and_eq_true] at fits
  apply follows_expectKeyword_bind
  apply copies_qualifiedName.bind
  rintro ⟨schema, table⟩
  apply copies_tableLabel.bind
  intro label
  apply follows_expectKeyword_bind
  refine (follows_assignments keeps).bind
    (fun assignments => gives_bind fun _ => gives_pure fun fits => (fit fits).1) ?_
  intro assignments assignments' _
  refine (follows_optional keeps .WHERE).bind
    (fun condition => gives_pure fun fits => (fit fits).2) ?_
  exact fun condition condition' conditions =>
    follows_pure fun _ => .of_condition rfl rfl rfl conditions

theorem follows_delete :
    Follows r.toLayout bounds stands (delete nested) (delete nested')
      (fun s => (Statement.delete s).fits r.further = true)
      fun s s' => r.SameStatement (.delete s) (.delete s') := by
  apply follows_expectKeyword_bind
  apply follows_expectKeyword_bind
  apply copies_qualifiedName.bind
  rintro ⟨schema, table⟩
  apply copies_tableLabel.bind
  intro label
  refine (follows_optional keeps .WHERE).bind (fun condition => gives_pure id) ?_
  exact fun condition condition' conditions =>
    follows_pure fun _ => .of_condition rfl rfl rfl conditions

/-! ## Statements -/

abbrev FollowsStatement (r : Runs) (bounds : Nat × Nat) (stands : TokenKind → Prop)
    (p q : Parser Statement) : Prop :=
  Follows r.toLayout bounds stands p q (·.fits r.further = true) r.SameStatement

theorem follows_statementBody :
    FollowsStatement r bounds stands (statementBody nested) (statementBody nested') := by
  apply follows_currentKind_bind
  intro k _
  cases k with
  | keyword word =>
      cases word with
      | SELECT =>
          exact (follows_select keeps).bind (fun _ => gives_pure id)
            fun _ _ queries => follows_pure fun _ => .select queries
      | INSERT =>
          exact (follows_insert keeps).bind (fun _ => gives_pure id)
            fun _ _ same => follows_pure fun _ => same
      | UPDATE =>
          exact (follows_update keeps).bind (fun _ => gives_pure id)
            fun _ _ same => follows_pure fun _ => same
      | DELETE =>
          exact (follows_delete keeps).bind (fun _ => gives_pure id)
            fun _ _ same => follows_pure fun _ => same
      | SET => exact follows_unsupported
      | WITH => exact follows_unsupported
      | DESC => exact follows_unsupported
      | _ => exact follows_unexpected
  | identifier word =>
      apply follows_of_fails
      intro s a t _ read
      by_cases opens : unsupportedOpenings.any (sameWord · word) <;>
        simp only [opens] at read <;> cases read
  | _ => exact follows_unexpected

omit keeps in
theorem copies_statementEnd : Copies r.toLayout bounds statementEnd := by
  apply follows_remaining_bind
  intro n n'
  refine (copies_skipAll (by simp) n n').bind (fun _ _ _ _ _ _ => trivial) ?_
  intro _ _ _
  apply follows_currentKind_bind
  intro k _
  cases k with
  | eof => exact follows_pure fun _ => rfl
  | keyword word =>
      cases word with
      | UNION => exact follows_unsupported
      | INTERSECT => exact follows_unsupported
      | EXCEPT => exact follows_unsupported
      | _ => exact follows_unexpected
  | _ => exact follows_unexpected

theorem follows_statement :
    FollowsStatement r bounds stands (statement nested) (statement nested') := by
  refine (follows_statementBody keeps).bind
    (fun parsed => gives_bind fun _ => gives_pure id) ?_
  intro s s' same
  apply copies_statementEnd.bind
  intro _
  exact follows_pure fun _ => same

end Changes

/-! ## Whole texts -/

section Texts

variable {r : Runs}

/-- At no depth, nothing is read. -/
theorem keeps_nestedTo {depth depth' : Nat} (deeper : depth ≤ depth') :
    NestedKeeps r (nestedTo depth) (nestedTo depth') := by
  induction depth generalizing depth' with
  | zero =>
      refine ⟨fun _ _ => follows_unexpected, ?_, ?_, fun _ => follows_unexpected,
        fun _ => follows_unexpected⟩
      · intro _ _ _ _ _ _ _ read
        cases read
      · rintro _ _ ⟨_, _, _, read⟩
        cases read
  | succ depth ih =>
      obtain ⟨depth', rfl⟩ : ∃ d, depth' = d + 1 := Nat.exists_eq_succ_of_ne_zero (by omega)
      have inner : NestedKeeps r (nestedTo depth) (nestedTo depth') := ih (by omega)
      refine ⟨fun _ => follows_expression inner, ?_, ?_, fun _ => follows_select inner,
        fun _ => follows_tables inner⟩
      · exact fun bounds level s s' k t spread read => expression_item inner spread read
      · intro level s _ mark stops
        apply expression_mark mark
        change ∀ next, continuation? s.rest.current.kind = some next → next.1 < level
        rw [stops]
        exact nofun

theorem length_spreadKinds (further : Nat → Nat) (k : Nat) (kinds : List TokenKind) :
    kinds.length ≤ (spreadKinds further k kinds).length := by
  induction kinds generalizing k with
  | nil => exact Nat.le_refl _
  | cons kind rest ih =>
      rw [spreadKinds]
      split
      · have later := ih (k + 1)
        simp only [List.length_cons, List.length_append]
        omega
      · exact Nat.succ_le_succ (ih k)

/-- A text whose tokens are those of a statement, but with all places of its placeholders, is a
statement that routes alike, if the lists fit into it. -/
theorem parse_spread {text text' : String} {parsed : Statement}
    (read : Statement.parse text = .ok parsed) (fits : parsed.fits r.further = true)
    (marks : allMarks (tokenKinds text) = r.marks)
    (kinds : tokenKinds text' = spreadKinds r.further 0 (tokenKinds text)) :
    ∃ parsed', Statement.parse text' = .ok parsed' ∧ r.SameStatement parsed parsed' := by
  obtain ⟨t, read⟩ := parse_eq_ok.mp read
  have deeper : (textTokens text).length + 1 ≤ (textTokens text').length + 1 := by
    have longer := length_spreadKinds r.further 0 (tokenKinds text)
    rw [← kinds, tokenKinds, tokenKinds, List.length_map, List.length_map] at longer
    exact Nat.succ_le_succ longer
  have spread : Spread r.toLayout ((tokenKinds text).length, (tokenKinds text').length) 0
      (.ofText text) (.ofText text') :=
    ⟨kinds, rfl, (Nat.zero_add _).trans marks, Nat.le_refl _, Nat.le_refl _, rfl, rfl⟩
  have follows : FollowsStatement r ((tokenKinds text).length, (tokenKinds text').length)
      (fun _ => True) (statement (nestedTo ((textTokens text).length + 1)))
      (statement (nestedTo ((textTokens text').length + 1))) :=
    follows_statement (keeps_nestedTo deeper)
  obtain ⟨parsed', t', read', same, _⟩ := follows _ _ _ _ spread trivial read fits
  exact ⟨parsed', parse_eq_ok.mpr ⟨t', read'⟩, same⟩

end Texts

end ShardedSql.Sql.Spreading
