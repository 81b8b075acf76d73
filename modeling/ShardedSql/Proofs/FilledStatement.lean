import ShardedSql.Proofs.FilledTokens
import ShardedSql.Proofs.RespelledStatement

/-!
Every rule of the grammar keeps up with numbers in the places of question marks. Main statement: the
placeholders of a statement are numbered as its question marks stand in the text, each once, and
with a number in the place of each question mark the text is the same statement with these numbers
in the places of its placeholders.
-/

namespace ShardedSql.Sql.Filling

open Numeric Text ShardedSql.Sql.Parser Grammar

/-! ## The same but for values -/

/-- What has been read from both streams: the first has the ordinals that were taken, and is the
second with values in the places of its placeholders. -/
structure Same {α : Type} (ordinals : α → List Nat) (filled : List Int64 → α → α)
    (values : List Int64) (read : List Nat) (a b : α) : Prop where
  taken : (ordinals a).Perm read
  same : filled [] b = filled values a

abbrev SameExpr := Same Expr.ordinals Expr.filled

abbrev SameList := Same listOrdinals filledList

abbrev SameOption := Same optionOrdinals filledOption

abbrev SameSelect := Same Select.ordinals Select.filled

abbrev SameTables := Same TableRef.ordinals TableRef.filled

section Rules

variable {values : List Int64} {bounds : Nat × Nat} {free : Bool} {stands : TokenKind → Prop}

theorem Each.flatMap {α : Type} {ordinals : α → List Nat} {filled : List Int64 → α → α}
    {ns : List Nat} {as bs : List α} (each : Each (Same ordinals filled values) ns as bs) :
    (as.flatMap ordinals).Perm ns ∧ bs.map (filled []) = as.map (filled values) := by
  induction each with
  | nil => exact ⟨.nil, rfl⟩
  | cons first _ ih =>
      constructor
      · rw [List.flatMap_cons]
        exact first.taken.append ih.1
      · rw [List.map_cons, List.map_cons, first.same, ih.2]

theorem SameList.of_each {ns : List Nat} {es es' : List Expr}
    (each : Each (SameExpr values) ns es es') : SameList values ns es es' := by
  obtain ⟨taken, same⟩ := each.flatMap
  constructor
  · rwa [listOrdinals_eq_flatMap]
  · rwa [filledList_eq_map, filledList_eq_map]

theorem SameOption.of_optional {ns : List Nat} {e e' : Option Expr}
    (optional : Optional (SameExpr values) ns e e') : SameOption values ns e e' := by
  cases optional with
  | none => exact ⟨.nil, rfl⟩
  | some related => exact ⟨related.taken, congrArg some related.same⟩

/-- The nested rules keep up, the second ones with a number in parentheses too, if there are values
to read. -/
structure NestedKeeps (values : List Int64) (nested nested' : Nested) : Prop where
  number : values ≠ [] → ∀ value rest s, kindsOf s = numberKinds value ++ rest →
    ∃ t, primary nested' s = .ok (.paren (.literal (.integer value))) t ∧ kindsOf t = rest ∧
      t.finish = s.finish
  expression : ∀ bounds level, Opens values bounds (nested.expression level)
    (nested'.expression level) (SameExpr values)
  select : ∀ bounds, Opens values bounds nested.select nested'.select (SameSelect values)
  tables : ∀ bounds, Opens values bounds nested.tables nested'.tables (SameTables values)

/-! ## Names and labels -/

/-- A name with or without a schema ends in a name. -/
theorem follows_qualifiedName_bind {α β : Type} {same : List Nat → α → β → Prop}
    {f : Option String × String → Parser α} {g : Option String × String → Parser β}
    (next : ∀ name, Follows values bounds false (fun _ => True) (f name) (g name) same) :
    Follows values bounds free stands (qualifiedName >>= f) (qualifiedName >>= g) same := by
  simp only [qualifiedName, bind_assoc]
  apply follows_identifier_bind
  intro first
  apply follows_accept_bind (guarded_of_ne _ (by simp) (by simp)) (by simp) rfl
  · simp only [↓reduceIte, bind_assoc, pure_bind]
    apply follows_identifier_bind
    intro second
    exact next (some first, second)
  · exact next (none, first)

theorem follows_name :
    Follows values bounds free stands (do return some (← identifier))
      (do return some (← identifier)) (Plain ((· = ·) : Option String → Option String → Prop)) := by
  apply follows_identifier_bind
  intro name
  exact follows_pure ⟨rfl, rfl⟩

theorem keeps_tableLabel : Keeps values bounds tableLabel tableLabel (Plain (· = ·)) := by
  intro free
  apply follows_acceptKeyword_if follows_name
  exact follows_atIdentifier_if follows_name (follows_pure ⟨rfl, rfl⟩)

theorem keeps_itemLabel : Keeps values bounds itemLabel itemLabel (Plain (· = ·)) := by
  intro free
  apply follows_acceptKeyword_if
  · apply follows_currentKind_bind
    · intro k _ _
      cases k with
      | string label =>
          apply follows_advance_bind (by simp) (by simp)
          exact follows_pure ⟨rfl, rfl⟩
      | _ => exact follows_name
    · rintro _ (rfl | rfl)
      · exact follows_name
      · exact follows_name
  · exact follows_atIdentifier_if follows_name (follows_pure ⟨rfl, rfl⟩)

/-! ## Types -/

theorem keeps_typeWords (n n' : Nat) :
    Keeps values (n, n') (typeWords n) (typeWords n') (Plain (· = ·)) := by
  refine keeps_bounded (fun _ : Unit => typeWords) (fun _ => typeWords) (fun _ => Plain (· = ·))
    (fun _ => ⟨rfl, rfl⟩) (fun _ n _ ended => typeWords_at_end ended n)
    (fun _ n _ ended => typeWords_at_end ended n) ?_ n n' ()
  intro n n' ih i free
  have word (w : String) {k : TokenKind} (other : k ≠ .symbol .question) (inside : k ≠ .eof) :
      Follows values (n + 1, n' + 1) free (· = k) (do advance; return w :: (← typeWords n))
        (do advance; return w :: (← typeWords n')) (Plain (· = ·)) := by
    apply follows_advance_near (near_succ n n') other inside
    apply (ih () _).bind
    rintro _ words _ ⟨rfl, rfl⟩ free'
    exact follows_pure ⟨rfl, rfl⟩
  apply follows_currentKind_bind
  · intro k _ _
    cases k with
    | identifier name => exact word (upperAscii name) (by simp) (by simp)
    | keyword reserved => exact word reserved.spelling (by simp) (by simp)
    | _ => exact follows_pure ⟨rfl, rfl⟩
  · rintro _ (rfl | rfl)
    · exact follows_pure ⟨rfl, rfl⟩
    · exact follows_pure ⟨rfl, rfl⟩

theorem opens_typeSize : Opens values bounds typeSize typeSize (Plain (· = ·)) := by
  apply follows_currentKind_bind
  · intro k _ _
    cases k with
    | integer n =>
        apply follows_advance_bind (by simp) (by simp)
        exact follows_pure ⟨rfl, rfl⟩
    | _ => exact follows_unexpected
  · intro _ _
    exact follows_unexpected

theorem eq_of_each_plain {α : Type} {ns : List Nat} {as bs : List α}
    (each : Each (Plain (· = ·)) ns as bs) : ns = [] ∧ as = bs := by
  induction each with
  | nil => exact ⟨rfl, rfl⟩
  | cons first _ ih =>
      obtain ⟨rfl, rfl⟩ := first
      obtain ⟨rfl, rfl⟩ := ih
      exact ⟨rfl, rfl⟩

/-- Behind the words of a type, what goes on fails at a question mark. -/
theorem follows_typeName_bind {α β : Type} {same : List Nat → α → β → Prop}
    {f : String → Parser α} {g : String → Parser β} (blocked : ∀ name, Blocked (f name))
    (next : ∀ bounds name, Keeps values bounds (f name) (g name) same) :
    Keeps values bounds (typeName >>= f) (typeName >>= g) same := by
  intro free
  simp only [typeName, bind_assoc]
  apply follows_remaining_bind
  intro n n'
  apply (keeps_typeWords n n' free).bind
  rintro _ words _ ⟨rfl, rfl⟩ free'
  cases words with
  | nil => exact follows_unexpected_bind
  | cons word words =>
      simp only [List.isEmpty_cons, Bool.false_eq_true, ↓reduceIte, bind_assoc]
      apply follows_accept_bind (guarded_of_blocked (by simp) (blocked _)) (by simp) rfl
      · simp only [↓reduceIte, bind_assoc, pure_bind]
        apply (opens_commaList fun _ => opens_typeSize).bind
        rintro _ sizes _ each free''
        obtain ⟨rfl, rfl⟩ := eq_of_each_plain each
        apply follows_expectSymbol_bind (by simp)
        exact next _ _ true
      · exact next _ _ free'

/-! ## Expressions -/

section Expressions

variable {nested nested' : Nested} (keeps : NestedKeeps values nested nested')
include keeps

theorem opens_anyExpression :
    Opens values bounds (anyExpression nested) (anyExpression nested') (SameExpr values) :=
  keeps.expression bounds 0

theorem opens_expressionList :
    Opens values bounds (expressionList nested) (expressionList nested') (SameList values) :=
  (opens_commaList fun _ => opens_anyExpression keeps).imp fun _ _ _ => .of_each

theorem keeps_optional (word : Keyword) :
    Keeps values bounds (afterKeyword word (anyExpression nested))
      (afterKeyword word (anyExpression nested')) (SameOption values) :=
  fun free => (keeps_afterKeyword (opens_anyExpression keeps) free).imp fun _ _ _ => .of_optional

theorem opens_argumentsOf (function : String) (distinct : Bool) :
    Opens values bounds (argumentsOf nested function distinct)
      (argumentsOf nested' function distinct) (SameExpr values) := by
  have closing {bounds : Nat × Nat} {ms : List Nat} {args args' : List Expr}
      (related : SameList values ms args args') :
      Keeps values bounds (do expectSymbol .rightParen; return .call function args distinct)
        (do expectSymbol .rightParen; return .call function args' distinct)
        fun ns => SameExpr values (ms ++ ns) := by
    intro free
    apply follows_expectSymbol_bind (by simp)
    apply follows_pure
    rw [List.append_nil]
    exact ⟨related.taken, congrArg (Expr.call function · distinct) related.same⟩
  have none_read : SameList values [] [] [] := ⟨.nil, rfl⟩
  have all_read : SameList values [] [.wildcard none] [.wildcard none] := ⟨.nil, rfl⟩
  apply follows_isAt_bind (guarded_of_ne _ (by simp) (by simp))
  · apply follows_accept_bind (guarded_of_ne _ (by simp) (by simp)) (by simp) rfl
    · exact closing none_read true
    · exact .of_keeps (closing none_read)
  · apply follows_accept_bind (guarded_of_ne _ (by simp) (by simp)) (by simp) rfl
    · exact closing all_read true
    · apply Follows.of_opens
      apply (opens_expressionList keeps).bind
      intro ms args args' related
      exact closing related

theorem follows_callOf (function : String) :
    Follows values bounds free stands (callOf nested function) (callOf nested' function)
      (SameExpr values) := by
  apply follows_expectSymbol_bind (by simp)
  exact follows_acceptKeyword_bind (opens_argumentsOf keeps function true)
    (opens_argumentsOf keeps function false)

theorem follows_castBody :
    Follows values bounds free stands (castBody nested) (castBody nested') (SameExpr values) := by
  apply follows_expectSymbol_bind (by simp)
  apply (opens_anyExpression keeps).bind
  intro ms operand operand' operands free'
  apply follows_expectKeyword_bind
  apply follows_typeName_bind
  · intro target s a t mark read
    have fails : acceptSymbol .rightParen s = .ok false s := accept_of_ne (by simp [mark])
    rw [expectSymbol, bind_assoc, bind_ok fails] at read
    cases read
  · intro bounds' target free''
    apply follows_expectSymbol_bind (by simp)
    apply follows_pure
    rw [List.append_nil]
    exact ⟨operands.taken, congrArg (Expr.cast · target) operands.same⟩

theorem keeps_branches (n n' : Nat) :
    Keeps values (n, n') (branches nested n) (branches nested' n')
      (Same branchOrdinals filledBranches values) := by
  have none_read : Same branchOrdinals filledBranches values [] [] [] := ⟨.nil, rfl⟩
  refine keeps_bounded (fun _ : Unit => branches nested) (fun _ => branches nested')
    (fun _ => Same branchOrdinals filledBranches values) (fun _ => none_read)
    (fun _ n _ ended => branches_at_end ended nested n)
    (fun _ n _ ended => branches_at_end ended nested' n) ?_ n n' ()
  intro n n' ih i free
  refine follows_accept_near (near_succ n n') (guarded_keyword _ _) (by simp) rfl ?_
    (follows_pure none_read)
  apply (opens_anyExpression keeps).bind
  intro cs condition condition' conditions _
  apply follows_expectKeyword_bind
  apply (opens_anyExpression keeps).bind
  intro rs result result' results free'
  apply (ih () free').bind
  intro ns others others' related _
  apply follows_pure
  constructor
  · simp only [branchOrdinals, List.append_nil]
    exact conditions.taken.append (results.taken.append related.taken)
  · simp only [filledBranches, conditions.same, results.same, related.same]

theorem keeps_choiceOf {ms : List Nat} {subject subject' : Option Expr}
    (subjects : SameOption values ms subject subject') :
    Keeps values bounds (choiceOf nested subject) (choiceOf nested' subject')
      fun ns => SameExpr values (ms ++ ns) := by
  intro free
  apply follows_remaining_bind
  intro n n'
  apply (keeps_branches keeps n n' free).bind
  intro bs whens whens' choices free'
  have empty : whens'.isEmpty = whens.isEmpty := by
    rw [← isEmpty_filledBranches [], choices.same, isEmpty_filledBranches]
  rw [empty]
  apply follows_if
  · intro _
    exact follows_unexpected
  · intro _
    apply (keeps_optional keeps _ free').bind
    intro os otherwise otherwise' alternatives _
    apply follows_expectKeyword_bind
    apply follows_pure
    constructor
    · simp only [Expr.ordinals, List.append_nil]
      exact subjects.taken.append (choices.taken.append alternatives.taken)
    · simp only [Expr.filled, subjects.same, choices.same, alternatives.same]

theorem opens_caseBody :
    Opens values bounds (caseBody nested) (caseBody nested') (SameExpr values) := by
  have no_subject : SameOption values [] none none := ⟨.nil, rfl⟩
  apply follows_isAt_bind (guarded_keyword _ _)
  · exact .of_keeps (keeps_choiceOf keeps no_subject)
  · have subject : Opens values bounds (some <$> anyExpression nested)
        (some <$> anyExpression nested') (Optional (SameExpr values)) :=
      (opens_anyExpression keeps).map fun _ _ _ related => .some related
    apply subject.of_opens.bind
    intro ms subject subject' subjects
    exact keeps_choiceOf keeps (.of_optional subjects)

/-- Behind a name a question mark is no parenthesis, so that no call begins there. -/
theorem follows_afterName (name : String) (span span' : Span) :
    Follows values bounds false stands (afterName nested name span) (afterName nested' name span')
      (SameExpr values) := by
  apply follows_isAt_if (guarded_behind _ (by simp)) (follows_callOf keeps name)
  apply follows_acceptSymbol_if (guarded_of_ne _ (by simp) (by simp))
  · apply follows_acceptSymbol_if (guarded_of_ne _ (by simp) (by simp))
    · exact follows_pure ⟨.nil, rfl⟩
    · apply follows_current_bind
      intro token token' _ _
      apply follows_identifier_bind
      intro column
      exact follows_pure ⟨.nil, rfl⟩
  · exact follows_pure ⟨.nil, rfl⟩

theorem opens_callOfKeyword (word : Keyword) (span span' : Span) :
    Opens values bounds (callOfKeyword nested word span) (callOfKeyword nested' word span')
      (SameExpr values) := by
  have fails (span : Span) (s : TokenStream) (a : Expr) (t : TokenStream) :
      (throw (.unexpected .expression (.keyword word) span) : Parser Expr) s ≠ .ok a t :=
    fun read => nomatch read
  apply follows_isAt_if (guarded_of_blocked (by simp) fun s a t _ => fails span s a t)
  · exact follows_callOf keeps word.spelling
  · exact follows_of_fails fun s a t _ => fails span s a t

theorem opens_afterParen :
    Opens values bounds (afterParen nested) (afterParen nested') (SameExpr values) := by
  have closing {ms : List Nat} {e e' : Expr} (related : SameExpr values ms e e') :
      Keeps values bounds (do expectSymbol .rightParen; return e)
        (do expectSymbol .rightParen; return e') fun ns => SameExpr values (ms ++ ns) := by
    intro free
    apply follows_expectSymbol_bind (by simp)
    apply follows_pure
    rwa [List.append_nil]
  have query : Opens values bounds (Expr.subquery <$> nested.select)
      (Expr.subquery <$> nested'.select) (SameExpr values) :=
    (keeps.select bounds).map fun _ _ _ related =>
      ⟨related.taken, congrArg Expr.subquery related.same⟩
  have inner : Opens values bounds (Expr.paren <$> anyExpression nested)
      (Expr.paren <$> anyExpression nested') (SameExpr values) :=
    (opens_anyExpression keeps).map fun _ _ _ related =>
      ⟨related.taken, congrArg Expr.paren related.same⟩
  apply follows_isAt_bind (guarded_keyword _ _)
  · exact query.of_opens.bind fun _ _ _ related => closing related
  · exact inner.of_opens.bind fun _ _ _ related => closing related

omit keeps in
/-- A reader follows if it follows both at a question mark and elsewhere. -/
theorem follows_of_cases {α β : Type} {same : List Nat → α → β → Prop} {p : Parser α}
    {q : Parser β} (mark : Follows values bounds free (· = .symbol .question) p q same)
    (other : Follows values bounds free (· ≠ .symbol .question) p q same) :
    Follows values bounds free stands p q same := by
  intro marks s s' a t filled _ read
  by_cases question : s.current.kind = .symbol .question
  · exact mark marks s s' a t filled question read
  · exact other marks s s' a t filled question read

/-- A question mark takes the next ordinal; where it stood, the second stream has the value with
this ordinal. -/
theorem follows_primary_mark :
    Follows values bounds true (· = .symbol .question) (primary nested) (primary nested')
      (SameExpr values) := by
  intro marks s s' a t filled mark read
  obtain ⟨value, rest, found, ahead, ahead'⟩ := filled.value mark
  obtain ⟨kinds, all, open_marks, clear, short, short', finish, finish'⟩ := filled
  have nonempty : values ≠ [] := by
    rintro rfl
    cases found
  obtain ⟨t', read', left', ends⟩ := keeps.number nonempty value _ s' ahead'
  obtain ⟨token, u, looked, read⟩ := read_of_bind read
  cases looked
  rw [mark] at read
  cases read
  have left : kindsOf s.rest = rest := by rw [kindsOf_rest, ahead, List.tail_cons]
  rw [ahead, allMarks_mark] at all
  rw [ahead, freeMarks_mark] at open_marks
  rw [ahead] at clear
  rw [ahead, List.length_cons] at short
  rw [ahead', List.length_append, ← left'] at short'
  -- The first stream passes one token, the second those of a number in parentheses.
  refine ⟨_, t', true, 1, read', ⟨.refl _, ?_⟩, ?_, rfl⟩
  · change _ = Expr.filled values (.placeholder (.positional s.ordinal))
    simp only [Expr.filled, Placeholder.filled, found]
  · constructor
    · exact left'.trans (by rw [← left]; rfl)
    · change s.ordinal + 1 + allMarks (kindsOf s.rest) = _
      rw [left]
      omega
    · change s.ordinal + 1 + freeMarks true (kindsOf s.rest) = _
      rw [left]
      omega
    · change _ ∉ kindsOf s.rest
      rw [left]
      exact fun member => clear (List.mem_cons_of_mem _ member)
    · change (kindsOf s.rest).length ≤ _
      rw [left]
      omega
    · omega
    · exact finish
    · rw [ends]
      exact finish'

theorem follows_primary_other :
    Follows values bounds true (· ≠ .symbol .question) (primary nested) (primary nested')
      (SameExpr values) := by
  apply follows_current_bind
  rintro ⟨k, span⟩ ⟨k', span'⟩ head other
  rw [filledHead_of_ne other] at head
  change k' = k at head
  subst head
  have literal (value : Literal) (inside : k' ≠ .eof) :
      Follows values bounds true (· = k') (literalOf value) (literalOf value) (SameExpr values) := by
    apply follows_advance_bind other inside
    exact follows_pure ⟨.nil, rfl⟩
  -- No other token takes an ordinal itself, so that both streams pass the same one.
  cases k' with
  | identifier name =>
      exact follows_advance_bind other (by simp) (follows_afterName keeps name span span')
  | integer n => exact literal _ (by simp)
  | float x => exact literal _ (by simp)
  | string text => exact literal _ (by simp)
  | blob bytes => exact literal _ (by simp)
  | eof => exact follows_unexpected
  | error reason => exact follows_unexpected
  | symbol mark =>
      cases mark with
      | question => exact absurd rfl other
      | colon =>
          apply follows_advance_bind other (by simp)
          apply follows_identifier_bind
          intro name
          exact follows_pure ⟨.nil, rfl⟩
      | star =>
          apply follows_advance_bind other (by simp)
          exact follows_pure ⟨.nil, rfl⟩
      | leftParen => exact follows_advance_bind other (by simp) (opens_afterParen keeps)
      | _ => exact follows_unexpected
  | keyword word =>
      cases word with
      | TRUE => exact literal _ (by simp)
      | FALSE => exact literal _ (by simp)
      | NULL => exact literal _ (by simp)
      | CASE => exact follows_advance_bind other (by simp) (opens_caseBody keeps)
      | CAST => exact follows_advance_bind other (by simp) (follows_castBody keeps)
      | EXISTS =>
          apply follows_advance_bind other (by simp)
          apply (keeps_parenthesized (keeps.select bounds) _).bind
          intro ms query query' queries _
          apply follows_pure
          rw [List.append_nil]
          exact ⟨queries.taken, congrArg (Expr.existence · false) queries.same⟩
      | LEFT => exact follows_advance_bind other (by simp) (opens_callOfKeyword keeps _ span span')
      | RIGHT => exact follows_advance_bind other (by simp) (opens_callOfKeyword keeps _ span span')
      | _ => exact follows_unexpected

theorem opens_signed :
    Opens values bounds (signed nested) (signed nested') (SameExpr values) := by
  have operand : Opens values bounds (primary nested) (primary nested') (SameExpr values) :=
    follows_of_cases (follows_primary_mark keeps) (follows_primary_other keeps)
  apply follows_currentKind_bind
  · intro k other _
    cases signs : sign? k with
    | none => exact operand.of_opens
    | some found =>
        obtain ⟨level, sign⟩ := found
        obtain ⟨inside, unnamed⟩ := unnamed_of_some rfl (fun _ => rfl) signs
        apply follows_advance_bind other inside
        rw [unnamed]
        apply (keeps.expression bounds level).bind
        intro ms e e' related _
        apply follows_pure
        rw [List.append_nil]
        constructor
        · rw [ordinals_apply]
          exact related.taken
        · rw [filled_apply, filled_apply, related.same]
  · rintro _ (rfl | rfl)
    · exact operand.of_opens
    · exact operand.of_opens

section Operands

variable {ms : List Nat} {operand operand' : Expr} (operands : SameExpr values ms operand operand')
include operands

theorem follows_membership (negated : Bool) :
    Follows values bounds free stands (membership nested operand negated)
      (membership nested' operand' negated) fun ns => SameExpr values (ms ++ ns) := by
  have closing {is : List Nat} {items items' : List Expr} (related : SameList values is items items') :
      Keeps values bounds (do expectSymbol .rightParen; return .inList operand items negated)
        (do expectSymbol .rightParen; return .inList operand' items' negated)
        fun ns => SameExpr values (ms ++ (is ++ ns)) := by
    intro free
    apply follows_expectSymbol_bind (by simp)
    apply follows_pure
    rw [List.append_nil]
    exact ⟨operands.taken.append related.taken,
      by simp only [Expr.filled, operands.same, related.same]⟩
  have query : Opens values bounds ((fun query => [Expr.subquery query]) <$> nested.select)
      ((fun query => [Expr.subquery query]) <$> nested'.select) (SameList values) := by
    apply (keeps.select bounds).map
    intro is query query' related
    constructor
    · simpa only [listOrdinals, Expr.ordinals, List.append_nil] using related.taken
    · simp only [filledList, Expr.filled, related.same]
  apply follows_expectSymbol_bind (by simp)
  apply follows_isAt_bind (guarded_keyword _ _)
  · exact query.of_opens.bind fun _ _ _ related => closing related
  · exact (opens_expressionList keeps).of_opens.bind fun _ _ _ related => closing related

theorem opens_range (negated : Bool) (level : Nat) :
    Opens values bounds (range nested operand negated level)
      (range nested' operand' negated level) fun ns => SameExpr values (ms ++ ns) := by
  apply (keeps.expression bounds level).bind
  intro ls low low' lows _
  apply follows_expectKeyword_bind
  apply (keeps.expression bounds level).bind
  intro hs high high' highs _
  apply follows_pure
  rw [List.append_nil]
  exact ⟨operands.taken.append (lows.taken.append highs.taken),
    by simp only [Expr.filled, operands.same, lows.same, highs.same]⟩

theorem opens_binary (op : BinaryOp) (level : Nat) :
    Opens values bounds (do return .binary operand op (← nested.expression level))
      (do return .binary operand' op (← nested'.expression level))
      fun ns => SameExpr values (ms ++ ns) := by
  apply (keeps.expression bounds level).bind
  intro rs right right' rights _
  apply follows_pure
  rw [List.append_nil]
  exact ⟨operands.taken.append rights.taken,
    by simp only [Expr.filled, operands.same, rights.same]⟩

theorem opens_negatedPredicate (level : Nat) :
    Opens values bounds (negatedPredicate nested operand level)
      (negatedPredicate nested' operand' level) fun ns => SameExpr values (ms ++ ns) := by
  apply follows_currentKind_bind
  · intro k other _
    cases k with
    | keyword word =>
        cases word with
        | IN => exact follows_advance_bind other (by simp) (follows_membership keeps operands true)
        | BETWEEN => exact follows_advance_bind other (by simp) (opens_range keeps operands true level)
        | LIKE => exact follows_advance_bind other (by simp) (opens_binary keeps operands .notLike level)
        | _ => exact follows_unexpected
    | _ => exact follows_unexpected
  · intro _ _
    exact follows_unexpected

theorem opens_extend (level : Nat) (form : Continuation) :
    Opens values bounds (extend nested operand level form) (extend nested' operand' level form)
      fun ns => SameExpr values (ms ++ ns) := by
  have tested (negated : Bool) :
      Opens values bounds (do expectKeyword .NULL; return .isNull operand negated)
        (do expectKeyword .NULL; return .isNull operand' negated)
        fun ns => SameExpr values (ms ++ ns) := by
    apply follows_expectKeyword_bind
    apply follows_pure
    rw [List.append_nil]
    exact ⟨operands.taken, congrArg (Expr.isNull · negated) operands.same⟩
  cases form with
  | nullTest => exact follows_acceptKeyword_bind (tested true) (tested false)
  | negation => exact opens_negatedPredicate keeps operands level
  | membership => exact follows_membership keeps operands false
  | range => exact opens_range keeps operands false level
  | operator op => exact opens_binary keeps operands op level

end Operands

/-- What has been read so far is the operand of what comes next, with its ordinals before. -/
theorem keeps_continued (least n n' : Nat) {ms : List Nat} {operand operand' : Expr}
    (operands : SameExpr values ms operand operand') :
    Keeps values (n, n') (continued nested least n operand) (continued nested' least n' operand')
      fun ns => SameExpr values (ms ++ ns) := by
  -- The operand grows from round to round, so that the rounds are told apart by what was read
  -- before.
  refine keeps_bounded
    (fun (i : { x : List Nat × Expr × Expr // SameExpr values x.1 x.2.1 x.2.2 }) n =>
      continued nested least n i.1.2.1)
    (fun i n => continued nested' least n i.1.2.2) (fun i ns => SameExpr values (i.1.1 ++ ns))
    (fun i => ?_) (fun _ n _ ended => continued_at_end ended _ least n _)
    (fun _ n _ ended => continued_at_end ended _ least n _) ?_ n n' ⟨(ms, operand, operand'), operands⟩
  · rw [List.append_nil]
    exact i.2
  rintro n n' ih ⟨⟨ms, operand, operand'⟩, operands⟩ free
  -- Where nothing goes on, the operand is the answer.
  have stop {stands : TokenKind → Prop} :
      Follows values (n + 1, n' + 1) free stands (pure operand) (pure operand')
        fun ns => SameExpr values (ms ++ ns) := by
    apply follows_pure
    rw [List.append_nil]
    exact operands
  apply follows_currentKind_bind
  · intro k other _
    cases found : continuation? k with
    | none => exact stop
    | some next =>
        obtain ⟨level, form⟩ := next
        obtain ⟨inside, unnamed⟩ := unnamed_of_some rfl (fun _ => rfl) found
        by_cases loose : level < least
        · simp only [if_pos loose]
          exact stop
        · simp only [if_neg loose]
          apply follows_advance_near (near_succ n n') other inside
          rw [unnamed]
          apply (opens_extend keeps operands (level + 1) form).bind
          intro ns larger larger' related free'
          exact (ih ⟨(ms ++ ns, larger, larger'), related⟩ free').imp fun _ _ _ same => by
            rwa [List.append_assoc] at same
  · rintro _ (rfl | rfl)
    · exact stop
    · exact stop

theorem opens_expression (least : Nat) :
    Opens values bounds (expression nested least) (expression nested' least)
      (SameExpr values) := by
  apply (opens_signed keeps).bind
  intro ms operand operand' operands free'
  apply follows_remaining_bind
  intro n n'
  exact keeps_continued keeps least n n' operands free'

/-! ## Tables -/

omit keeps in
theorem blocked_qualifiedName : Blocked qualifiedName :=
  blocked_identifier.bind

omit keeps in
theorem keeps_namedTable :
    Keeps values bounds namedTable namedTable (SameTables values) := by
  intro free
  apply follows_qualifiedName_bind
  intro name
  apply (keeps_tableLabel false).bind
  rintro _ label _ ⟨rfl, rfl⟩ _
  exact follows_pure ⟨.nil, rfl⟩

theorem follows_tableFactor :
    Follows values bounds free stands (tableFactor nested) (tableFactor nested')
      (SameTables values) := by
  apply follows_acceptSymbol_if (guarded_of_blocked (by simp) blocked_qualifiedName.bind)
  · apply follows_isAt_if (guarded_keyword _ _)
    · apply (keeps.select bounds).of_opens.bind
      intro ms query query' queries _
      apply follows_expectSymbol_bind (by simp)
      apply (keeps_tableLabel true).bind
      rintro _ label _ ⟨rfl, rfl⟩ _
      apply follows_pure
      simp only [List.append_nil]
      exact ⟨queries.taken, congrArg (TableRef.derived · label) queries.same⟩
    · apply (keeps.tables bounds).of_opens.bind
      intro ms inner inner' inners _
      apply follows_expectSymbol_bind (by simp)
      apply follows_pure
      rwa [List.append_nil]
  · exact .of_keeps keeps_namedTable

omit keeps in
/-- Behind the words of a join a token has been passed that is no name. -/
theorem follows_joinWords_near {low : Nat × Nat} (near : Near low bounds) {α β : Type}
    {same : List Nat → α → β → Prop} {f : Option JoinKind → Parser α}
    {g : Option JoinKind → Parser β}
    (stop : Keeps values bounds (f none) (g none) same)
    (next : ∀ kind, Opens values low (f (some kind)) (g (some kind)) same) :
    Keeps values bounds (joinWords >>= f) (joinWords >>= g) same := by
  intro free
  have closing (join : JoinKind) :
      Opens values low (do expectKeyword .JOIN; f (some join)) (do expectKeyword .JOIN; g (some join))
        same :=
    follows_expectKeyword_bind (next join)
  rw [joinWords_bind, joinWords_bind]
  apply follows_currentKind_bind
  · intro k other _
    cases found : joinKind? k with
    | none => exact .of_keeps stop
    | some join =>
        obtain ⟨inside, unnamed⟩ := unnamed_of_some rfl (fun _ => rfl) found
        apply follows_advance_near near other inside
        rw [unnamed]
        refine follows_if (fun _ => next join) fun _ => follows_if (fun _ => ?_) fun _ => closing join
        exact follows_discardKeyword_bind (closing join) (closing join)
  · rintro _ (rfl | rfl)
    · exact .of_keeps stop
    · exact .of_keeps stop

theorem keeps_joinCondition (kind : JoinKind) :
    Keeps values bounds (joinCondition nested kind) (joinCondition nested' kind) fun ns on on' =>
      SameOption values ns on.1 on'.1 ∧ on'.2 = on.2 := by
  intro free
  apply follows_if
  · intro _
    exact follows_pure ⟨⟨.nil, rfl⟩, rfl⟩
  intro _
  apply follows_acceptKeyword_if
  · apply (opens_anyExpression keeps).bind
    intro ns condition condition' conditions _
    apply follows_pure
    rw [List.append_nil]
    exact ⟨.of_optional (.some conditions), rfl⟩
  · apply follows_acceptKeyword_if
    · apply (keeps_parenthesized (opens_commaList fun _ => keeps_identifier true) true).bind
      intro ns shared shared' each _
      obtain ⟨rfl, rfl⟩ := eq_of_each_plain each
      exact follows_pure ⟨⟨.nil, rfl⟩, rfl⟩
    · exact follows_unexpected

theorem keeps_joins (n n' : Nat) {ms : List Nat} {left left' : TableRef}
    (lefts : SameTables values ms left left') :
    Keeps values (n, n') (joins nested n left) (joins nested' n' left')
      fun ns => SameTables values (ms ++ ns) := by
  -- As for operands, the rounds are told apart by the tables on the left.
  refine keeps_bounded
    (fun (i : { x : List Nat × TableRef × TableRef // SameTables values x.1 x.2.1 x.2.2 }) n =>
      joins nested n i.1.2.1)
    (fun i n => joins nested' n i.1.2.2) (fun i ns => SameTables values (i.1.1 ++ ns))
    (fun i => ?_) (fun _ n _ ended => joins_at_end ended nested n _)
    (fun _ n _ ended => joins_at_end ended nested' n _) ?_ n n' ⟨(ms, left, left'), lefts⟩
  · rw [List.append_nil]
    exact i.2
  rintro n n' ih ⟨⟨ms, left, left'⟩, lefts⟩
  apply follows_joinWords_near (near_succ n n')
  · intro free
    apply follows_pure
    rw [List.append_nil]
    exact lefts
  · intro kind
    apply (follows_tableFactor keeps).bind
    intro rs right right' rights free'
    apply (keeps_joinCondition keeps kind free').bind
    rintro cs ⟨condition, _⟩ ⟨condition', shared⟩ ⟨conditions, rfl⟩ free''
    have joined : SameTables values (ms ++ (rs ++ cs))
        (.join left kind right condition shared) (.join left' kind right' condition' shared) :=
      ⟨lefts.taken.append (rights.taken.append conditions.taken),
        by simp only [TableRef.filled, lefts.same, rights.same, conditions.same]⟩
    refine (ih ⟨(_, _, _), joined⟩ free'').imp fun ns _ _ same => ?_
    rwa [List.append_assoc, List.append_assoc] at same

theorem opens_joinedTable :
    Opens values bounds (joinedTable nested) (joinedTable nested') (SameTables values) := by
  apply (follows_tableFactor keeps).bind
  intro ms first first' firsts free
  apply follows_remaining_bind
  intro n n'
  exact keeps_joins keeps n n' firsts free

omit keeps in
/-- The list after `FROM` is joined from the left. -/
theorem same_crossed {ms ns : List Nat} {first first' : TableRef} {others others' : List TableRef}
    (firsts : SameTables values ms first first') (each : Each (SameTables values) ns others others') :
    SameTables values (ms ++ ns)
      (others.foldl (fun left right => .join left .cross right none []) first)
      (others'.foldl (fun left right => .join left .cross right none []) first') := by
  induction each generalizing ms first first' with
  | nil =>
      rw [List.append_nil]
      exact firsts
  | @cons rs ns right right' others others' rights _ ih =>
      have joined : SameTables values (ms ++ rs) (.join first .cross right none [])
          (.join first' .cross right' none []) := by
        constructor
        · simpa only [TableRef.ordinals, optionOrdinals, List.append_nil] using
            firsts.taken.append rights.taken
        · simp only [TableRef.filled, filledOption, firsts.same, rights.same]
      rw [← List.append_assoc]
      exact ih joined

theorem opens_tables :
    Opens values bounds (tables nested) (tables nested') (SameTables values) := by
  apply (opens_commaList fun _ => opens_joinedTable keeps).bind
  intro ns all all' each free
  cases each with
  | nil => exact follows_unexpected
  | cons firsts others =>
      apply follows_pure
      rw [List.append_nil]
      exact same_crossed firsts others

/-! ## Queries -/

theorem opens_selectItem :
    Opens values bounds (selectItem nested) (selectItem nested')
      (Same (·.expr.ordinals) SelectItem.filled values) := by
  apply (opens_anyExpression keeps).bind
  intro ms e e' related free
  apply (keeps_itemLabel free).bind
  rintro _ label _ ⟨rfl, rfl⟩ _
  apply follows_pure
  simp only [List.append_nil]
  exact ⟨related.taken, congrArg (SelectItem.mk · label) related.same⟩

theorem opens_orderItem :
    Opens values bounds (orderItem nested) (orderItem nested')
      (Same (·.expr.ordinals) OrderItem.filled values) := by
  apply (opens_anyExpression keeps).bind
  intro ms e e' related free
  have directed {free : Bool} {stands : TokenKind → Prop} (direction : Direction) :
      Follows values bounds free stands (pure ⟨e, direction⟩) (pure ⟨e', direction⟩) fun ns =>
        Same (·.expr.ordinals) OrderItem.filled values (ms ++ ns) := by
    apply follows_pure
    rw [List.append_nil]
    exact ⟨related.taken, congrArg (OrderItem.mk · direction) related.same⟩
  apply follows_acceptKeyword_if (directed .descending)
  exact follows_discardKeyword_bind (directed .ascending) (directed .ascending)

omit keeps in
theorem keeps_listBy {α β : Type} {same : List Nat → α → β → Prop} {item : Parser α}
    {item' : Parser β} (word : Keyword) (opens : ∀ bounds, Opens values bounds item item' same) :
    Keeps values bounds (listBy word item) (listBy word item') (Each same) := by
  intro free
  apply follows_acceptKeyword_if
  · apply follows_expectKeyword_bind
    exact opens_commaList opens
  · exact follows_pure .nil

/-- The offset may be written, and its placeholders numbered, before the limit. -/
theorem keeps_window :
    Keeps values bounds (window nested) (window nested')
      (Same (fun pages => optionOrdinals pages.1 ++ optionOrdinals pages.2)
        (fun values pages => (filledOption values pages.1, filledOption values pages.2)) values) := by
  intro free
  have offset {free : Bool} {stands : TokenKind → Prop} {ms : List Nat}
      {limit limit' : Option Expr} (limits : SameOption values ms limit limit') :
      Follows values bounds free stands
        (do return (limit, ← afterKeyword .OFFSET (anyExpression nested)))
        (do return (limit', ← afterKeyword .OFFSET (anyExpression nested')))
        fun ns => Same (fun pages => optionOrdinals pages.1 ++ optionOrdinals pages.2)
          (fun values pages => (filledOption values pages.1, filledOption values pages.2)) values
          (ms ++ ns) := by
    apply (Follows.of_keeps (keeps_optional keeps _)).bind
    intro os offset offset' offsets _
    apply follows_pure
    rw [List.append_nil]
    exact ⟨limits.taken.append offsets.taken, by rw [limits.same, offsets.same]⟩
  have none_read : SameOption values [] none none := ⟨.nil, rfl⟩
  apply follows_acceptKeyword_if
  · apply (opens_anyExpression keeps).bind
    intro ms first first' firsts free'
    apply follows_acceptSymbol_if (guarded_of_ne _ (by simp) (by simp))
    · apply (opens_anyExpression keeps).bind
      intro cs count count' counts _
      apply follows_pure
      rw [List.append_nil]
      constructor
      · exact (counts.taken.append firsts.taken).trans List.perm_append_comm
      · simp only [filledOption, counts.same, firsts.same]
    · exact offset (.of_optional (.some firsts))
  · exact offset none_read

theorem keeps_source :
    Keeps values bounds (afterKeyword .FROM (tables nested)) (afterKeyword .FROM (tables nested'))
      (Same sourceOrdinals filledSource values) := by
  intro free
  apply (keeps_afterKeyword (opens_tables keeps) free).imp
  intro ns source source' optional
  cases optional with
  | none => exact ⟨.nil, rfl⟩
  | some related => exact ⟨related.taken, congrArg some related.same⟩

theorem opens_selectBody (distinct : Bool) :
    Opens values bounds (selectBody nested distinct) (selectBody nested' distinct)
      (SameSelect values) := by
  apply (opens_commaList fun _ => opens_selectItem keeps).bind
  intro is items items' same_items free
  apply (keeps_source keeps free).bind
  intro ss source source' sources free
  apply (keeps_optional keeps _ free).bind
  intro cs condition condition' conditions free
  apply (keeps_listBy _ (fun _ => opens_anyExpression keeps) free).bind
  intro gs groups groups' same_groups free
  apply (keeps_optional keeps _ free).bind
  intro hs having having' havings free
  apply (keeps_listBy _ (fun _ => opens_orderItem keeps) free).bind
  intro os order order' orders free
  apply (keeps_window keeps free).bind
  rintro ws ⟨limit, offset⟩ ⟨limit', offset'⟩ pages _
  apply follows_pure
  simp only [List.append_nil]
  -- All clauses are read; it is left to put their ordinals one behind the other.
  have group_list := SameList.of_each same_groups
  obtain ⟨items_taken, items_same⟩ := same_items.flatMap
  obtain ⟨order_taken, order_same⟩ := orders.flatMap
  rw [← itemOrdinals_eq_flatMap] at items_taken
  rw [← orderOrdinals_eq_flatMap] at order_taken
  rw [← filledItems_eq_map, ← filledItems_eq_map] at items_same
  rw [← filledOrder_eq_map, ← filledOrder_eq_map] at order_same
  obtain ⟨limits_same, offsets_same⟩ := Prod.mk.inj pages.same
  constructor
  · exact items_taken.append (sources.taken.append (conditions.taken.append
      (group_list.taken.append (havings.taken.append (order_taken.append pages.taken)))))
  · simp only [Select.filled, items_same, sources.same, conditions.same, group_list.same,
      havings.same, order_same, limits_same, offsets_same]

theorem follows_select :
    Follows values bounds free stands (select nested) (select nested') (SameSelect values) := by
  -- `DISTINCT` and `ALL` stand before the same body.
  apply follows_expectKeyword_bind
  apply follows_acceptKeyword_bind
  · exact opens_selectBody keeps true
  · exact follows_discardKeyword_bind (opens_selectBody keeps false) (opens_selectBody keeps false)

/-! ## Statements that change rows -/

theorem opens_assignment :
    Opens values bounds (assignment nested) (assignment nested')
      (Same (·.value.ordinals) Assignment.filled values) := by
  apply follows_qualifiedName_bind
  intro name
  apply follows_expectSymbol_bind (by simp)
  apply (opens_anyExpression keeps).bind
  intro ms value value' related _
  apply follows_pure
  rw [List.append_nil]
  exact ⟨related.taken, congrArg (Assignment.mk name.1 name.2) related.same⟩

theorem opens_assignments :
    Opens values bounds (commaList (assignment nested)) (commaList (assignment nested'))
      (Same assignmentOrdinals (fun values => List.map (Assignment.filled values)) values) :=
  (opens_commaList fun _ => opens_assignment keeps).imp fun _ _ _ each =>
    ⟨each.flatMap.1, each.flatMap.2⟩

theorem follows_valueRow :
    Follows values bounds free stands (valueRow nested) (valueRow nested') (SameList values) := by
  have closing {ms : List Nat} {row row' : List Expr} (rows : SameList values ms row row') :
      Keeps values bounds (do expectSymbol .rightParen; return row)
        (do expectSymbol .rightParen; return row') fun ns => SameList values (ms ++ ns) := by
    intro free
    apply follows_expectSymbol_bind (by simp)
    apply follows_pure
    rwa [List.append_nil]
  have none_read : SameList values [] [] [] := ⟨.nil, rfl⟩
  apply follows_expectSymbol_bind (by simp)
  apply follows_isAt_bind (guarded_of_ne _ (by simp) (by simp))
  · exact .of_keeps (closing none_read)
  · exact (opens_expressionList keeps).of_opens.bind fun _ _ _ rows => closing rows

omit keeps in
/-- Behind the name of a table a question mark opens no list of columns. -/
theorem follows_columnList :
    Follows values bounds false stands columnList columnList (Plain (· = ·)) := by
  have none_read : Keeps values bounds (pure []) (pure [])
      (Plain ((· = ·) : List String → List String → Prop)) :=
    fun _ => follows_pure ⟨rfl, rfl⟩
  have listed : Keeps values bounds (parenthesized (commaList identifier))
      (parenthesized (commaList identifier)) (Plain (· = ·)) :=
    fun free => (keeps_parenthesized (opens_commaList fun _ => keeps_identifier true) free).imp
      fun _ _ _ => eq_of_each_plain
  apply follows_isAt_bind (guarded_behind _ (by simp))
  · have opening : Follows values bounds false (· = .symbol .leftParen)
        (do
          if true && (← followingKind) != .keyword .SELECT then parenthesized (commaList identifier)
          else return [])
        (do
          if true && (← followingKind) != .keyword .SELECT then parenthesized (commaList identifier)
          else return []) (Plain (· = ·)) := by
      apply follows_followingKind_bind (by simp) (by simp)
      intro k k' same
      have differs : (k' != .keyword .SELECT) = (k != .keyword .SELECT) := by
        rw [Bool.eq_iff_iff, bne_iff_ne, bne_iff_ne, ne_eq, ne_eq, same]
      rw [differs]
      exact follows_if (fun _ => .of_keeps listed) fun _ => .of_keeps none_read
    exact opening.weaken fun _ here => here.2
  · intro marks s s' columns t filled here read
    exact none_read false marks s s' columns t filled trivial read

theorem keeps_insertSource :
    Keeps values bounds (insertSource nested) (insertSource nested')
      (Same InsertSource.ordinals InsertSource.filled values) := by
  intro free
  apply follows_acceptKeyword_if
  · apply (opens_commaList fun _ => follows_valueRow keeps).bind
    intro ns rows rows' each _
    obtain ⟨taken, same⟩ := each.flatMap
    apply follows_pure
    rw [List.append_nil]
    exact ⟨taken, congrArg InsertSource.values same⟩
  apply follows_isAt_if (guarded_keyword _ _)
  · apply (follows_select keeps).bind
    intro ns query query' queries _
    apply follows_pure
    rw [List.append_nil]
    exact ⟨queries.taken, congrArg InsertSource.query queries.same⟩
  apply follows_acceptSymbol_if
  -- A parenthesis may stand in the second stream only, where the first has a question mark; then no
  -- source is read from the first.
  · apply guarded_of_blocked (by simp)
    intro s a t mark read
    have no_word : acceptKeyword .DEFAULT s = .ok false s := accept_of_ne (by simp [mark])
    rw [bind_ok no_word] at read
    cases read
  · apply (follows_select keeps).bind
    intro ns query query' queries _
    apply follows_expectSymbol_bind (by simp)
    apply follows_pure
    rw [List.append_nil]
    exact ⟨queries.taken, congrArg InsertSource.query queries.same⟩
  · apply follows_acceptKeyword_if
    · apply follows_expectKeyword_bind
      exact follows_pure ⟨.nil, rfl⟩
    · exact follows_unexpected

theorem keeps_onDuplicate :
    Keeps values bounds (onDuplicate nested) (onDuplicate nested')
      (Same assignmentOrdinals (fun values => List.map (Assignment.filled values)) values) := by
  intro free
  apply follows_acceptKeyword_if
  · apply (keeps_expectWord _ true).bind
    rintro _ _ _ ⟨rfl, _⟩ free'
    apply (keeps_expectWord _ free').bind
    rintro _ _ _ ⟨rfl, _⟩ free''
    apply follows_expectKeyword_bind
    exact opens_assignments keeps
  · exact follows_pure ⟨.nil, rfl⟩

theorem follows_insertBody :
    Follows values bounds free stands (insertBody nested) (insertBody nested')
      fun ns s s' => Same Statement.ordinals Statement.filled values ns (.insert s) (.insert s') := by
  apply follows_qualifiedName_bind
  rintro ⟨schema, table⟩
  apply follows_columnList.bind
  rintro _ columns _ ⟨rfl, rfl⟩ free'
  apply (keeps_insertSource keeps free').bind
  intro ss source source' sources free''
  apply (keeps_onDuplicate keeps free'').bind
  intro ds duplicates duplicates' assignments _
  apply follows_pure
  simp only [List.append_nil, List.nil_append]
  constructor
  · exact sources.taken.append assignments.taken
  · have assigned := assignments.same
    simp only [Statement.filled, Insert.filled, sources.same, assigned]

theorem opens_insert :
    Opens values bounds (insert nested) (insert nested') fun ns s s' =>
      Same Statement.ordinals Statement.filled values ns (.insert s) (.insert s') := by
  have ignored : Keeps values bounds (discard (acceptWord "IGNORE"))
      (discard (acceptWord "IGNORE")) (Plain fun _ _ => True) :=
    fun free => (keeps_acceptWord _ free).map fun _ _ _ accepted => ⟨accepted.1, trivial⟩
  apply follows_expectKeyword_bind
  apply (ignored true).bind
  rintro _ _ _ ⟨rfl, _⟩ free'
  exact follows_discardKeyword_bind (follows_insertBody keeps) (follows_insertBody keeps)

theorem opens_update :
    Opens values bounds (update nested) (update nested') fun ns s s' =>
      Same Statement.ordinals Statement.filled values ns (.update s) (.update s') := by
  apply follows_expectKeyword_bind
  apply follows_qualifiedName_bind
  rintro ⟨schema, table⟩
  apply (keeps_tableLabel false).bind
  rintro _ label _ ⟨rfl, rfl⟩ free
  apply follows_expectKeyword_bind
  apply (opens_assignments keeps).bind
  intro ns assignments assignments' related free'
  apply (keeps_optional keeps _ free').bind
  intro cs condition condition' conditions _
  apply follows_pure
  simp only [List.append_nil, List.nil_append]
  constructor
  · exact related.taken.append conditions.taken
  · have assigned : List.map (Assignment.filled []) assignments' = _ := related.same
    simp only [Statement.filled, conditions.same, assigned]

theorem opens_delete :
    Opens values bounds (delete nested) (delete nested') fun ns s s' =>
      Same Statement.ordinals Statement.filled values ns (.delete s) (.delete s') := by
  apply follows_expectKeyword_bind
  apply follows_expectKeyword_bind
  apply follows_qualifiedName_bind
  rintro ⟨schema, table⟩
  apply (keeps_tableLabel false).bind
  rintro _ label _ ⟨rfl, rfl⟩ free
  apply (keeps_optional keeps _ free).bind
  intro cs condition condition' conditions _
  apply follows_pure
  simp only [List.append_nil, List.nil_append]
  exact ⟨conditions.taken, by simp only [Statement.filled, conditions.same]⟩

theorem opens_statementBody :
    Opens values bounds (statementBody nested) (statementBody nested')
      (Same Statement.ordinals Statement.filled values) := by
  apply follows_currentKind_bind
  · intro k _ _
    cases k with
    | keyword word =>
        cases word with
        | SELECT =>
            apply (follows_select keeps).bind
            intro ns query query' queries _
            apply follows_pure
            rw [List.append_nil]
            exact ⟨queries.taken, congrArg Statement.select queries.same⟩
        | INSERT =>
            apply (opens_insert keeps).of_opens.bind
            intro ns s s' same _
            apply follows_pure
            rwa [List.append_nil]
        | UPDATE =>
            apply (opens_update keeps).of_opens.bind
            intro ns s s' same _
            apply follows_pure
            rwa [List.append_nil]
        | DELETE =>
            apply (opens_delete keeps).of_opens.bind
            intro ns s s' same _
            apply follows_pure
            rwa [List.append_nil]
        | SET => exact follows_unsupported
        | WITH => exact follows_unsupported
        | DESC => exact follows_unsupported
        | _ => exact follows_unexpected
    | identifier word =>
        apply follows_of_fails
        intro s a t _ read
        by_cases opens : unsupportedOpenings.any (sameWord · word) <;>
          simp only [opens] at read <;> cases read
    | _ => exact follows_unexpected
  · intro _ _
    exact follows_unexpected

omit keeps in
theorem keeps_statementEnd :
    Keeps values bounds statementEnd statementEnd (Plain fun _ _ => True) := by
  intro free
  apply follows_remaining_bind
  intro n n'
  apply (keeps_skipAll (by simp) (by simp) n n' free).bind
  rintro _ _ _ ⟨rfl, _⟩ free'
  apply follows_currentKind_bind
  · intro k _ _
    cases k with
    | eof => exact follows_pure ⟨rfl, trivial⟩
    | keyword word =>
        cases word with
        | UNION => exact follows_unsupported
        | INTERSECT => exact follows_unsupported
        | EXCEPT => exact follows_unsupported
        | _ => exact follows_unexpected
    | _ => exact follows_unexpected
  · intro _ _
    exact follows_unexpected

theorem opens_statement :
    Opens values bounds (statement nested) (statement nested')
      (Same Statement.ordinals Statement.filled values) := by
  apply (opens_statementBody keeps).bind
  intro ns s s' same free
  apply (keeps_statementEnd free).bind
  rintro _ _ _ ⟨rfl, _⟩ _
  apply follows_pure
  simpa only [List.append_nil] using same

end Expressions

/-! ## Numbers in parentheses -/

section Numbers

variable {nested : Nested} {s : TokenStream}

theorem current_kind_of_kindsOf {kind : TokenKind} {rest : List TokenKind}
    (ahead : kindsOf s = kind :: rest) : s.current.kind = kind := by
  rw [current_kind, ahead, List.headD_cons]

theorem kindsOf_rest_of_cons {kind : TokenKind} {rest : List TokenKind}
    (ahead : kindsOf s = kind :: rest) : kindsOf s.rest = rest := by
  rw [kindsOf_rest, ahead, List.tail_cons]

/-- A number is read before a token that goes on with no operand. -/
theorem expression_integer (least : Nat) {n : Int64} {rest : List TokenKind}
    (ahead : kindsOf s = .integer n :: rest)
    (stops : continuation? (rest.headD s.finish.kind) = none) :
    expression nested least s = .ok (.literal (.integer n)) s.rest := by
  have here := current_kind_of_kindsOf ahead
  have behind : continuation? s.rest.current.kind = none := by
    rwa [current_kind, kindsOf_rest_of_cons ahead]
  have operand : primary nested s = .ok (.literal (.integer n)) s.rest := by
    rw [primary, current_bind, here]
    rfl
  have unsigned : signed nested s = .ok (.literal (.integer n)) s.rest :=
    (signed_eq_primary (by rw [here]; rfl)).trans operand
  rw [expression_of_signed unsigned, continued_stops (by simp [behind])]

/-- A minus sign is read into the number behind it. -/
theorem expression_minus (depth least : Nat) {n : Int64} {rest : List TokenKind}
    (ahead : kindsOf s = .symbol .minus :: .integer n :: rest)
    (stops : continuation? (rest.headD s.finish.kind) = none) :
    expression (nestedTo (depth + 1)) least s = .ok (.literal (.integer (-n))) s.rest.rest := by
  have here := current_kind_of_kindsOf ahead
  have ahead_number := kindsOf_rest_of_cons ahead
  have behind : continuation? s.rest.rest.current.kind = none := by
    rwa [current_kind, kindsOf_rest_of_cons ahead_number]
  have signs : sign? s.current.kind = some (17, .op .neg) := by
    rw [here]
    rfl
  have number : (nestedTo (depth + 1)).expression 17 s.rest =
      .ok (.literal (.integer n)) s.rest.rest :=
    expression_integer 17 ahead_number stops
  have negative : signed (nestedTo (depth + 1)) s = .ok (.literal (.integer (-n))) s.rest.rest :=
    signed_of_sign signs number
  rw [expression_of_signed negative, continued_stops (by simp [behind])]

/-- A number in parentheses is read two levels deep. -/
theorem primary_number {depth : Nat} (room : 2 ≤ depth) (value : Int64) {rest : List TokenKind}
    (ahead : kindsOf s = numberKinds value ++ rest) :
    ∃ t, primary (nestedTo depth) s = .ok (.paren (.literal (.integer value))) t ∧
      kindsOf t = rest ∧ t.finish = s.finish := by
  obtain ⟨depth, rfl⟩ := Nat.exists_eq_add_of_le' room
  have inside {inner : Expr} {u : TokenStream} (here : s.current.kind = .symbol .leftParen)
      (no_query : s.rest.current.kind ≠ .keyword .SELECT)
      (read : expression (nestedTo (depth + 1)) 0 s.rest = .ok inner u)
      (behind : kindsOf u = .symbol .rightParen :: rest) :
      primary (nestedTo (depth + 2)) s = .ok (.paren inner) u.rest :=
    (primary_paren here).trans <| (afterParen_eq_ok no_query).mpr
      ⟨inner, u, read, current_kind_of_kindsOf behind, rfl, rfl⟩
  unfold numberKinds at ahead
  split at ahead
  -- A negative number is read from its minus sign on, which takes the second level.
  · have ahead_minus := kindsOf_rest_of_cons ahead
    have no_query : s.rest.current.kind ≠ .keyword .SELECT := by
      simp [current_kind_of_kindsOf ahead_minus]
    have read := expression_minus depth 0 ahead_minus rfl
    rw [Int64.neg_neg] at read
    have behind := kindsOf_rest_of_cons (kindsOf_rest_of_cons ahead_minus)
    exact ⟨_, inside (current_kind_of_kindsOf ahead) no_query read behind,
      kindsOf_rest_of_cons behind, rfl⟩
  · have ahead_number := kindsOf_rest_of_cons ahead
    have no_query : s.rest.current.kind ≠ .keyword .SELECT := by
      simp [current_kind_of_kindsOf ahead_number]
    have behind := kindsOf_rest_of_cons ahead_number
    exact ⟨_, inside (current_kind_of_kindsOf ahead) no_query
      (expression_integer 0 ahead_number rfl) behind, kindsOf_rest_of_cons behind, rfl⟩

end Numbers

/-- Rules that nest deeper by two levels have room for a number where there was a question mark. -/
theorem keeps_nestedTo {depth depth' : Nat} (deeper : depth ≤ depth')
    (room : values ≠ [] → depth + 2 ≤ depth') :
    NestedKeeps values (nestedTo depth) (nestedTo depth') := by
  have number {depth depth' : Nat} (room : values ≠ [] → depth + 2 ≤ depth') (filled : values ≠ [])
      (value : Int64) (rest : List TokenKind) (s : TokenStream)
      (ahead : kindsOf s = numberKinds value ++ rest) :=
    primary_number (Nat.le_trans (Nat.le_add_left 2 depth) (room filled)) value ahead
  induction depth generalizing depth' with
  | zero =>
      exact ⟨number room, fun _ _ => follows_unexpected, fun _ => follows_unexpected,
        fun _ => follows_unexpected⟩
  | succ depth ih =>
      cases depth' with
      | zero => omega
      | succ depth' =>
          have inner : NestedKeeps values (nestedTo depth) (nestedTo depth') := by
            apply ih
            · omega
            · intro filled
              have deep := room filled
              omega
          exact ⟨number room, fun _ level => opens_expression inner level,
            fun _ => follows_select inner, fun _ => opens_tables inner⟩

/-! ## Whole texts -/

section Texts

variable {text text' : String} {parsed : Statement}

/-- Reading a statement passes every question mark, each where an operand may stand. -/
theorem statement_filled {s' : TokenStream} {depth' : Nat}
    (read : Statement.parse text = .ok parsed) (enough : allMarks (tokenKinds text) = values.length)
    (kinds : kindsOf s' = guardedKinds true values (tokenKinds text))
    (finish' : s'.finish.kind = .eof) (deeper : (tokenKinds text).length + 1 ≤ depth')
    (room : values ≠ [] → (tokenKinds text).length + 1 + 2 ≤ depth') :
    parsed.ordinals.Perm (List.range values.length) ∧
      freeMarks true (tokenKinds text) = values.length ∧
      ∃ parsed' t', statement (nestedTo depth') s' = .ok parsed' t' ∧
        parsed'.filled [] = parsed.filled values := by
  obtain ⟨t, read⟩ := parse_eq_ok.mp read
  have length : (tokenKinds text).length = (textTokens text).length := List.length_map _
  have filled : Filled values (freeMarks true (tokenKinds text))
      ((tokenKinds text).length, (kindsOf s').length) true (.ofText text) s' := by
    constructor
    · exact kinds
    · exact (Nat.zero_add _).trans enough
    · exact Nat.zero_add _
    · change .eof ∉ tokenKinds text
      rw [tokenKinds_eq]
      exact eof_not_mem_kindsIn text.toList
    · exact Nat.le_refl _
    · exact Nat.le_refl _
    · rfl
    · exact finish'
  rw [length] at deeper room
  obtain ⟨parsed', t', free', n, read', same, behind, counted⟩ :=
    opens_statement (keeps_nestedTo deeper room) _ _ _ _ _ filled trivial read
  obtain ⟨body, u, _, ending⟩ := read_of_bind read
  obtain ⟨_, u', ended, ending⟩ := read_of_bind ending
  cases ending
  -- Behind the statement no token is left, so that all question marks have been passed.
  have nothing := behind.kindsOf_eq_nil (statementEnd_ended ended).2
  have all := behind.all
  have free := behind.free
  rw [nothing] at all free
  change t.ordinal + 0 = _ at all
  change t.ordinal + 0 = _ at free
  change t.ordinal = 0 + n at counted
  have count : n = values.length := by omega
  refine ⟨?_, by omega, parsed', t', read', same.same⟩
  rw [← count, List.range_eq_range']
  exact same.taken

/-- No question mark of a statement stands behind a name. -/
theorem freeMarks_of_parse (read : Statement.parse text = .ok parsed) :
    freeMarks true (tokenKinds text) = allMarks (tokenKinds text) ∧
      parsed.ordinals.Perm (List.range (allMarks (tokenKinds text))) := by
  have enough : allMarks (tokenKinds text) =
      (List.replicate (allMarks (tokenKinds text)) (0 : Int64)).length := List.length_replicate.symm
  have kinds (ks : List TokenKind) :
      kindsOf ⟨ks.map (⟨·, .point 0⟩), ⟨.eof, .point 0⟩, 0⟩ = ks := by
    simp [kindsOf, Function.comp_def]
  obtain ⟨taken, clean, _⟩ :=
    statement_filled read enough (kinds _) rfl (Nat.le_add_right _ 2) fun _ => Nat.le_refl _
  rw [List.length_replicate] at taken clean
  exact ⟨clean, taken⟩

/-- A text whose tokens are those of a statement, but for numbers in parentheses in the places of
the question marks, is the statement with these numbers in the places of its placeholders. -/
theorem parse_filled (read : Statement.parse text = .ok parsed)
    (enough : allMarks (tokenKinds text) = values.length)
    (kinds : tokenKinds text' = filledKinds values (tokenKinds text)) :
    ∃ parsed', Statement.parse text' = .ok parsed' ∧
      parsed'.filled [] = parsed.filled values := by
  have clean := (freeMarks_of_parse read).1
  rw [← guardedKinds_of_freeMarks clean] at kinds
  have longer : _ ≤ (guardedKinds true values _).length :=
    length_guardedKinds (Nat.le_of_eq (clean.trans enough))
  have length : (tokenKinds text').length = (textTokens text').length := List.length_map _
  rw [← kinds, clean, enough, length] at longer
  have deeper : (tokenKinds text).length + 1 ≤ (textTokens text').length + 1 := by omega
  have room (filled : values ≠ []) :
      (tokenKinds text).length + 1 + 2 ≤ (textTokens text').length + 1 := by
    have some_value := List.length_pos_iff.mpr filled
    omega
  have stream : kindsOf (.ofText text') = guardedKinds true values (tokenKinds text) := kinds
  obtain ⟨_, _, parsed', t', read', same⟩ :=
    statement_filled read enough stream rfl deeper room
  exact ⟨parsed', parse_eq_ok.mpr ⟨t', read'⟩, same⟩

end Texts

end Rules

end ShardedSql.Sql.Filling
