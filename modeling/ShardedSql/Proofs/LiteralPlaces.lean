import ShardedSql.Proofs.FilledTokens
import ShardedSql.Proofs.RespelledStatement

/-!
Where literals stand in a statement. Every rule of the grammar passes a name only where no literal
follows directly. Main statement: in the text of a statement no number, string or blob stands right
behind a name.
-/

namespace ShardedSql.Sql

open Numeric Text ShardedSql.Sql.Parser Grammar
open Filling (isName kindsOf kindsOf_rest)

/-- Numbers, strings and blobs. -/
def isLiteral : TokenKind → Bool
  | .integer _ | .float _ | .string _ | .blob _ => true
  | _ => false

/-- No literal stands right behind a name; `named` says that a name stands before the first kind. -/
def Spaced : Bool → List TokenKind → Prop
  | _, [] => True
  | named, kind :: rest => ¬ (named = true ∧ isLiteral kind = true) ∧ Spaced (isName kind) rest

theorem Spaced.weaken {named : Bool} {kinds : List TokenKind} (spaced : Spaced true kinds) :
    Spaced named kinds := by
  cases kinds with
  | nil => trivial
  | cons kind rest => exact ⟨fun close => spaced.1 ⟨rfl, close.2⟩, spaced.2⟩

/-- Where the tokens left behind a reader are spaced, so are those before it. `named` and `after`
say that a name may stand before the reader and may be the last token it passes. -/
def Spaces {α : Type} (named : Bool) (stands : TokenKind → Prop) (p : Parser α) (after : Bool) :
    Prop :=
  ∀ s a t, stands s.current.kind → p s = .ok a t → Spaced after (kindsOf t) →
    Spaced named (kindsOf s)

/-- A reader of something that may start with a literal. -/
abbrev SpacesOperand {α : Type} (p : Parser α) : Prop :=
  Spaces false (fun _ => True) p true

/-- A reader that may stand behind a name. -/
abbrev SpacesAnywhere {α : Type} (p : Parser α) : Prop :=
  Spaces true (fun _ => True) p true

/-! ## Reading one after the other -/

section Combinators

variable {α β : Type} {named between after : Bool} {stands : TokenKind → Prop}

theorem spaces_pure {a : α} : Spaces named stands (pure a) named := by
  intro s a' t _ read spaced
  cases read
  exact spaced

theorem Spaces.weaken {p : Parser α} (spaces : Spaces true stands p between) :
    Spaces named stands p between :=
  fun s a t here read spaced => (spaces s a t here read spaced).weaken

theorem Spaces.loosen {p : Parser α} (spaces : Spaces named stands p false) :
    Spaces named stands p between := by
  cases between with
  | false => exact spaces
  | true => exact fun s a t here read spaced => spaces s a t here read spaced.weaken

theorem Spaces.at {p : Parser α} (spaces : Spaces named (fun _ => True) p after) :
    Spaces named stands p after :=
  fun s a t _ read spaced => spaces s a t trivial read spaced

theorem Spaces.bind {p : Parser α} {f : α → Parser β} (first : Spaces named stands p between)
    (second : ∀ a, Spaces between (fun _ => True) (f a) after) :
    Spaces named stands (p >>= f) after := by
  intro s b u here read spaced
  obtain ⟨a, t, read_first, read_second⟩ := read_of_bind read
  exact first s a t here read_first (second a t b u trivial read_second spaced)

theorem Spaces.map {p : Parser α} {f : α → β} (spaces : Spaces named stands p after) :
    Spaces named stands (f <$> p) after := by
  rw [← bind_pure_comp]
  exact spaces.bind fun _ => spaces_pure

theorem spaces_if {c : Prop} [Decidable c] {p q : Parser α} (yes : Spaces named stands p after)
    (no : Spaces named stands q after) : Spaces named stands (if c then p else q) after := by
  by_cases h : c
  · rwa [if_pos h]
  · rwa [if_neg h]

theorem spaces_unexpected {expected : Expectation} :
    Spaces named stands (unexpected expected : Parser α) after :=
  fun _ _ _ _ read => nomatch read

theorem spaces_unsupported {kind : Unsupported} :
    Spaces named stands (unsupported kind : Parser α) after :=
  fun _ _ _ _ read => nomatch read

theorem spaces_current_bind {f : Token → Parser α}
    (next : ∀ token : Token, stands token.kind → Spaces named (· = token.kind) (f token) after) :
    Spaces named stands (current >>= f) after :=
  fun s a t here read spaced => next s.current here s a t rfl read spaced

theorem spaces_currentKind_bind {f : TokenKind → Parser α}
    (next : ∀ kind, stands kind → Spaces named (· = kind) (f kind) after) :
    Spaces named stands (currentKind >>= f) after :=
  fun s a t here read spaced => next s.current.kind here s a t rfl read spaced

/-- Looking at the stream or counting what is read leaves the tokens where they are. -/
theorem spaces_look_bind {p : Parser α} {f : α → Parser β}
    (looks : ∀ s a t, p s = .ok a t → kindsOf t = kindsOf s)
    (next : ∀ a, Spaces named (fun _ => True) (f a) after) :
    Spaces named stands (p >>= f) after := by
  intro s b u here read spaced
  obtain ⟨a, t, read_first, read_second⟩ := read_of_bind read
  rw [← looks s a t read_first]
  exact next a t b u trivial read_second spaced

theorem spaces_remaining_bind {f : Nat → Parser α}
    (next : ∀ n, Spaces named (fun _ => True) (f n) after) :
    Spaces named stands (remaining >>= f) after :=
  spaces_look_bind (fun s a t read => by cases read; rfl) next

theorem spaces_isAt_bind {kind : TokenKind} {f : Bool → Parser α}
    (next : ∀ here, Spaces named (fun _ => True) (f here) after) :
    Spaces named stands (isAt kind >>= f) after :=
  spaces_look_bind (fun s a t read => by cases read; rfl) next

/-- A token is passed that is a literal only where no name stands before it. -/
theorem spaces_advance_bind {f : Unit → Parser α}
    (fits : ∀ kind, stands kind → ¬ (named = true ∧ isLiteral kind = true))
    (next : ∀ kind, stands kind → Spaces (isName kind) (fun _ => True) (f ()) after) :
    Spaces named stands (advance >>= f) after := by
  intro s b u here read spaced
  rw [advance_bind] at read
  have later := next _ here s.rest b u trivial read spaced
  rw [kindsOf_rest] at later
  cases ahead : s.ahead with
  | nil => simp [kindsOf, ahead, Spaced]
  | cons token tail =>
      have current : s.current.kind = token.kind := by simp [TokenStream.current, ahead]
      rw [current] at here later
      simp only [kindsOf, ahead, List.map_cons, List.tail_cons] at later ⊢
      exact ⟨fits _ here, later⟩

/-- A token of a known kind is passed where no name stands before it. -/
theorem spaces_pass_bind {kind : TokenKind} {f : Unit → Parser α}
    (next : Spaces (isName kind) (fun _ => True) (f ()) after) :
    Spaces false (· = kind) (advance >>= f) after := by
  refine spaces_advance_bind (by simp) ?_
  rintro _ rfl
  exact next

theorem spaces_nextOrdinal_bind {f : Nat → Parser α}
    (next : ∀ n, Spaces named (fun _ => True) (f n) after) :
    Spaces named stands (nextOrdinal >>= f) after :=
  spaces_look_bind (fun s a t read => by cases read; rfl) next

/-- Marks and reserved words. -/
def isPlain (kind : TokenKind) : Prop :=
  isName kind = false ∧ isLiteral kind = false

theorem spaces_accept_bind {kind : TokenKind} (plain : isPlain kind) {f : Bool → Parser α}
    (yes : Spaces false (fun _ => True) (f true) after)
    (no : Spaces named (fun _ => True) (f false) after) :
    Spaces named stands (accept kind >>= f) after := by
  intro s b u here read spaced
  by_cases at_kind : s.current.kind = kind
  · have advanced : Spaces named (· = kind) (advance >>= fun _ => f true) after := by
      refine spaces_advance_bind ?_ ?_
      · rintro _ rfl close
        exact Bool.false_ne_true (plain.2.symm.trans close.2)
      · rintro _ rfl
        rw [plain.1]
        exact yes
    rw [bind_ok (accept_of_eq at_kind)] at read
    exact advanced s b u at_kind read spaced
  · rw [bind_ok (accept_of_ne at_kind)] at read
    exact no s b u trivial read spaced

theorem spaces_acceptKeyword_bind {word : Keyword} {f : Bool → Parser α}
    (yes : Spaces false (fun _ => True) (f true) after)
    (no : Spaces named (fun _ => True) (f false) after) :
    Spaces named stands (acceptKeyword word >>= f) after :=
  spaces_accept_bind ⟨rfl, rfl⟩ yes no

theorem spaces_acceptSymbol_bind {mark : Symbol} {f : Bool → Parser α}
    (yes : Spaces false (fun _ => True) (f true) after)
    (no : Spaces named (fun _ => True) (f false) after) :
    Spaces named stands (acceptSymbol mark >>= f) after :=
  spaces_accept_bind ⟨rfl, rfl⟩ yes no

theorem spaces_expect {accepting : Parser Bool} {expected : Expectation}
    (accepts : ∀ {f : Bool → Parser Unit}, Spaces false (fun _ => True) (f true) false →
      Spaces named (fun _ => True) (f false) false →
      Spaces named stands (accepting >>= f) false) :
    Spaces named stands (do if !(← accepting) then unexpected expected) false :=
  accepts spaces_pure spaces_unexpected

theorem spaces_expectKeyword (word : Keyword) :
    Spaces named stands (expectKeyword word) false :=
  spaces_expect spaces_acceptKeyword_bind

theorem spaces_expectSymbol (mark : Symbol) : Spaces named stands (expectSymbol mark) false :=
  spaces_expect spaces_acceptSymbol_bind

theorem spaces_acceptKeyword (word : Keyword) : Spaces named stands (acceptKeyword word) named := by
  rw [← bind_pure (acceptKeyword word)]
  exact spaces_acceptKeyword_bind spaces_pure.loosen spaces_pure

theorem spaces_discard {p : Parser α} (spaces : Spaces named stands p after) :
    Spaces named stands (discard p) after :=
  spaces.map

theorem spaces_identifier : Spaces named stands identifier true := by
  refine spaces_currentKind_bind fun kind _ => ?_
  cases kind with
  | identifier name =>
      refine spaces_advance_bind ?_ ?_ <;> rintro _ rfl
      · simp [isLiteral]
      · exact spaces_pure
  | _ => exact spaces_unexpected

theorem spaces_atIdentifier_bind {f : Bool → Parser α}
    (next : ∀ here, Spaces named (fun _ => True) (f here) after) :
    Spaces named stands (atIdentifier >>= f) after := by
  refine spaces_look_bind (fun s a t read => ?_) next
  obtain ⟨kind, u, looked, read⟩ := read_of_bind read
  cases looked
  cases found : s.current.kind <;> rw [found] at read <;> cases read <;> rfl

theorem spaces_acceptWord (word : String) : SpacesAnywhere (acceptWord word) := by
  refine spaces_currentKind_bind fun kind _ => ?_
  cases kind with
  | identifier name =>
      refine spaces_if ?_ spaces_pure
      refine spaces_advance_bind ?_ ?_ <;> rintro _ rfl
      · simp [isLiteral]
      · exact spaces_pure
  | _ => exact spaces_pure

theorem spaces_expectWord (word : String) : SpacesAnywhere (expectWord word) := by
  refine (spaces_acceptWord word).bind fun passed => ?_
  cases passed with
  | true => exact spaces_pure
  | false => exact spaces_unexpected

/-! ## Lists and parentheses -/

theorem spaces_commaRest {item : Parser α} (spaces : SpacesOperand item) (bound : Nat) :
    SpacesAnywhere (commaRest item bound) := by
  induction bound with
  | zero => exact spaces_pure
  | succ bound ih =>
      refine spaces_acceptSymbol_bind ?_ spaces_pure
      refine spaces.bind fun next => ?_
      exact ih.bind fun others => spaces_pure

theorem spaces_commaList {item : Parser α} (spaces : Spaces named stands item true)
    (others : SpacesOperand item) : Spaces named stands (commaList item) true := by
  refine spaces.bind fun first => ?_
  refine spaces_remaining_bind fun bound => ?_
  exact (spaces_commaRest others bound).bind fun rest => spaces_pure

theorem spaces_afterKeyword (word : Keyword) {item : Parser α} (spaces : SpacesOperand item) :
    SpacesAnywhere (afterKeyword word item) := by
  refine spaces_acceptKeyword_bind ?_ spaces_pure
  exact spaces.bind fun found => spaces_pure

theorem spaces_parenthesized {item : Parser α} (spaces : SpacesOperand item) :
    Spaces named stands (parenthesized item) false := by
  refine (spaces_expectSymbol .leftParen).bind fun _ => ?_
  refine spaces.bind fun inner => ?_
  exact (spaces_expectSymbol .rightParen).bind fun _ => spaces_pure

theorem spaces_skipAll (mark : Symbol) (bound : Nat) : SpacesAnywhere (skipAll mark bound) := by
  induction bound with
  | zero => exact spaces_pure
  | succ bound ih => exact spaces_acceptSymbol_bind ih.weaken spaces_pure

end Combinators

/-! ## Names, labels and types -/

section Names

variable {named : Bool} {stands : TokenKind → Prop}

theorem spaces_qualifiedName : Spaces named stands qualifiedName true := by
  refine spaces_identifier.bind fun first => ?_
  refine spaces_acceptSymbol_bind ?_ spaces_pure
  exact spaces_identifier.bind fun second => spaces_pure

/-- The label of a table or an item, once it is known to be a name. -/
theorem spaces_someIdentifier :
    Spaces named stands (do return some (← identifier)) true :=
  spaces_identifier.map

theorem spaces_tableLabel : SpacesAnywhere tableLabel := by
  refine spaces_acceptKeyword_bind spaces_someIdentifier ?_
  refine spaces_atIdentifier_bind fun here => ?_
  exact spaces_if spaces_someIdentifier spaces_pure

/-- A string may be a label, but only behind the word `AS`. -/
theorem spaces_itemLabel : SpacesAnywhere itemLabel := by
  refine spaces_acceptKeyword_bind ?_ ?_
  · refine spaces_currentKind_bind fun kind _ => ?_
    cases kind with
    | string text =>
        exact spaces_pass_bind spaces_pure.weaken
    | _ => exact spaces_someIdentifier
  · refine spaces_atIdentifier_bind fun here => ?_
    exact spaces_if spaces_someIdentifier spaces_pure

theorem spaces_typeWords (bound : Nat) : SpacesAnywhere (typeWords bound) := by
  induction bound with
  | zero => exact spaces_pure
  | succ bound ih =>
      refine spaces_currentKind_bind fun kind _ => ?_
      cases kind with
      | identifier name =>
          refine spaces_advance_bind ?_ ?_ <;> rintro _ rfl
          · simp [isLiteral]
          · exact ih.bind fun words => spaces_pure
      | keyword word =>
          refine spaces_advance_bind ?_ ?_ <;> rintro _ rfl
          · simp [isLiteral]
          · exact ih.weaken.bind fun words => spaces_pure
      | _ => exact spaces_pure

theorem spaces_typeSize : SpacesOperand typeSize := by
  refine spaces_currentKind_bind fun kind _ => ?_
  cases kind with
  | integer n =>
      exact spaces_pass_bind spaces_pure.weaken
  | _ => exact spaces_unexpected

theorem spaces_typeName : SpacesAnywhere typeName := by
  refine spaces_remaining_bind fun bound => ?_
  refine (spaces_typeWords bound).bind fun words => ?_
  refine spaces_if spaces_unexpected ?_
  refine spaces_acceptSymbol_bind ?_ spaces_pure
  refine (spaces_commaList spaces_typeSize spaces_typeSize).bind fun sizes => ?_
  exact (spaces_expectSymbol .rightParen).bind fun _ => spaces_pure.loosen

end Names

theorem plain_of_continuation {kind : TokenKind} {found : Nat × Continuation}
    (continues : continuation? kind = some found) :
    isPlain kind := by
  cases kind <;> first | exact ⟨rfl, rfl⟩ | cases continues

theorem plain_of_sign {kind : TokenKind} {found : Nat × Sign} (signs : sign? kind = some found) :
    isPlain kind := by
  cases kind <;> first | exact ⟨rfl, rfl⟩ | cases signs

theorem plain_of_joinKind {kind : TokenKind} {found : JoinKind}
    (joins : joinKind? kind = some found) : isPlain kind := by
  cases kind <;> first | exact ⟨rfl, rfl⟩ | cases joins

theorem spaces_joinWords : SpacesAnywhere joinWords := by
  refine spaces_currentKind_bind fun kind _ => ?_
  cases joins : joinKind? kind with
  | none => exact spaces_pure
  | some join =>
      obtain ⟨no_name, no_literal⟩ := plain_of_joinKind joins
      have closing {named : Bool} : Spaces named (fun _ => True)
          (do expectKeyword .JOIN; return some join) true :=
        (spaces_expectKeyword .JOIN).bind fun _ => spaces_pure.loosen
      refine spaces_advance_bind ?_ ?_ <;> rintro _ rfl
      · simp [no_literal]
      · rw [no_name]
        refine spaces_if spaces_pure.loosen ?_
        refine spaces_if ?_ closing
        exact (spaces_discard (spaces_acceptKeyword .OUTER)).bind fun _ => closing

/-! ## Rules that nest -/

/-- The nested rules keep literals away from names. -/
structure NestedSpaces (nested : Nested) : Prop where
  expression : ∀ level, SpacesOperand (nested.expression level)
  select : SpacesAnywhere nested.select
  tables : SpacesAnywhere nested.tables

section Rules

variable {nested : Nested} (spaces : NestedSpaces nested) {named : Bool}
  {stands : TokenKind → Prop}
include spaces

theorem spaces_anyExpression : SpacesOperand (anyExpression nested) :=
  spaces.expression 0

theorem spaces_expressionList : SpacesOperand (expressionList nested) :=
  spaces_commaList (spaces_anyExpression spaces) (spaces_anyExpression spaces)

theorem spaces_argumentsOf (function : String) (distinct : Bool) :
    Spaces false (fun _ => True) (argumentsOf nested function distinct) false := by
  have closing (args : List Expr) {named : Bool} :
      Spaces named (fun _ => True)
        (do expectSymbol .rightParen; return Expr.call function args distinct) false :=
    (spaces_expectSymbol .rightParen).bind fun _ => spaces_pure
  refine spaces_isAt_bind fun here => ?_
  refine spaces_acceptSymbol_bind ?_ ?_
  · exact spaces_if (closing []) (closing [Expr.wildcard none])
  · refine spaces_if (closing []) ?_
    exact (spaces_expressionList spaces).bind fun args => closing args

theorem spaces_callOf (function : String) :
    Spaces named stands (callOf nested function) false := by
  refine (spaces_expectSymbol .leftParen).bind fun _ => ?_
  have arguments := spaces_argumentsOf spaces function
  exact spaces_acceptKeyword_bind (arguments true) (arguments false)

theorem spaces_castBody : Spaces named stands (castBody nested) false := by
  refine (spaces_expectSymbol .leftParen).bind fun _ => ?_
  refine (spaces_anyExpression spaces).bind fun operand => ?_
  refine (spaces_expectKeyword .AS).bind fun _ => ?_
  refine spaces_typeName.weaken.bind fun target => ?_
  exact (spaces_expectSymbol .rightParen).bind fun _ => spaces_pure

theorem spaces_branches (bound : Nat) : SpacesAnywhere (branches nested bound) := by
  induction bound with
  | zero => exact spaces_pure
  | succ bound ih =>
      refine spaces_acceptKeyword_bind ?_ spaces_pure
      refine (spaces_anyExpression spaces).bind fun condition => ?_
      refine (spaces_expectKeyword .THEN).bind fun _ => ?_
      refine (spaces_anyExpression spaces).bind fun result => ?_
      exact ih.bind fun others => spaces_pure

theorem spaces_choiceOf (subject : Option Expr) :
    Spaces named (fun _ => True) (choiceOf nested subject) true := by
  refine spaces_remaining_bind fun bound => ?_
  refine (spaces_branches spaces bound).weaken.bind fun whens => ?_
  refine spaces_if spaces_unexpected ?_
  refine (spaces_afterKeyword .ELSE (spaces_anyExpression spaces)).bind fun otherwise => ?_
  exact (spaces_expectKeyword .END).bind fun _ => spaces_pure.loosen

theorem spaces_caseBody : SpacesOperand (caseBody nested) := by
  refine spaces_isAt_bind fun here => ?_
  refine spaces_if (spaces_choiceOf spaces none) ?_
  exact (spaces_anyExpression spaces).map.bind (spaces_choiceOf spaces)

theorem spaces_afterName (name : String) (span : Span) :
    SpacesAnywhere (afterName nested name span) := by
  refine spaces_isAt_bind fun here => ?_
  refine spaces_if (spaces_callOf spaces name).loosen ?_
  refine spaces_acceptSymbol_bind ?_ spaces_pure
  refine spaces_acceptSymbol_bind spaces_pure.loosen ?_
  refine spaces_current_bind fun token _ => ?_
  exact spaces_identifier.bind fun column => spaces_pure

theorem spaces_callOfKeyword (word : Keyword) (span : Span) :
    SpacesAnywhere (callOfKeyword nested word span) := by
  refine spaces_isAt_bind fun here => ?_
  refine spaces_if (spaces_callOf spaces word.spelling).loosen ?_
  exact fun _ _ _ _ read => nomatch read

theorem spaces_afterParen : SpacesOperand (afterParen nested) := by
  have closing (inner : Expr) : SpacesAnywhere (do expectSymbol .rightParen; return inner) :=
    (spaces_expectSymbol .rightParen).bind fun _ => spaces_pure.loosen
  refine spaces_isAt_bind fun here => ?_
  refine spaces_if (spaces.select.weaken.map.bind closing) ?_
  exact (spaces_anyExpression spaces).map.bind closing

/-- The only rule that passes a literal as an operand; what stands before it is no name. -/
theorem spaces_primary : SpacesOperand (primary nested) := by
  refine spaces_current_bind ?_
  rintro ⟨kind, span⟩ -
  have literal (value : Literal) : Spaces false (· = kind) (literalOf value) true :=
    spaces_pass_bind spaces_pure.weaken
  cases kind with
  | integer n => exact literal (.integer n)
  | float x => exact literal (.float x)
  | string text => exact literal (.string text)
  | blob bytes => exact literal (.blob bytes)
  | identifier name => exact spaces_pass_bind (spaces_afterName spaces name span)
  | symbol mark =>
      cases mark with
      | question => exact spaces_pass_bind (spaces_nextOrdinal_bind fun n => spaces_pure.weaken)
      | colon => exact spaces_pass_bind (spaces_identifier.bind fun name => spaces_pure)
      | star => exact spaces_pass_bind spaces_pure.weaken
      | leftParen => exact spaces_pass_bind (spaces_afterParen spaces)
      | _ => exact spaces_unexpected
  | keyword word =>
      cases word with
      | TRUE => exact literal (.boolean true)
      | FALSE => exact literal (.boolean false)
      | NULL => exact literal .null
      | CASE => exact spaces_pass_bind (spaces_caseBody spaces)
      | CAST => exact spaces_pass_bind (spaces_castBody spaces).loosen
      | EXISTS =>
          exact spaces_pass_bind
            ((spaces_parenthesized spaces.select.weaken).bind fun query => spaces_pure.loosen)
      | LEFT => exact spaces_pass_bind (spaces_callOfKeyword spaces .LEFT span).weaken
      | RIGHT => exact spaces_pass_bind (spaces_callOfKeyword spaces .RIGHT span).weaken
      | _ => exact spaces_unexpected
  | eof => exact spaces_unexpected
  | error reason => exact spaces_unexpected

theorem spaces_signed : SpacesOperand (signed nested) := by
  refine spaces_currentKind_bind fun kind _ => ?_
  cases found : sign? kind with
  | none => exact (spaces_primary spaces).at
  | some sign =>
      refine spaces_pass_bind ?_
      rw [(plain_of_sign found).1]
      exact (spaces.expression sign.1).bind fun operand => spaces_pure

theorem spaces_membership (operand : Expr) (negated : Bool) :
    Spaces named stands (membership nested operand negated) false := by
  have closing (items : List Expr) : Spaces true (fun _ => True)
      (do expectSymbol .rightParen; return Expr.inList operand items negated) false :=
    (spaces_expectSymbol .rightParen).bind fun _ => spaces_pure
  refine (spaces_expectSymbol .leftParen).bind fun _ => ?_
  refine spaces_isAt_bind fun here => ?_
  refine spaces_if (spaces.select.weaken.map.bind closing) ?_
  exact (spaces_expressionList spaces).bind closing

theorem spaces_range (operand : Expr) (negated : Bool) (level : Nat) :
    SpacesOperand (range nested operand negated level) := by
  refine (spaces.expression level).bind fun low => ?_
  refine (spaces_expectKeyword .AND).bind fun _ => ?_
  exact (spaces.expression level).bind fun high => spaces_pure

theorem spaces_negatedPredicate (operand : Expr) (level : Nat) :
    SpacesOperand (negatedPredicate nested operand level) := by
  refine spaces_currentKind_bind fun kind _ => ?_
  cases kind with
  | keyword word =>
      cases word with
      | IN => exact spaces_pass_bind (spaces_membership spaces operand true).loosen
      | BETWEEN => exact spaces_pass_bind (spaces_range spaces operand true level)
      | LIKE => exact spaces_pass_bind ((spaces.expression level).bind fun right => spaces_pure)
      | _ => exact spaces_unexpected
  | _ => exact spaces_unexpected

theorem spaces_extend (operand : Expr) (level : Nat) (form : Continuation) :
    SpacesOperand (extend nested operand level form) := by
  cases form with
  | nullTest =>
      have closing (negated : Bool) : SpacesOperand
          (do expectKeyword .NULL; return Expr.isNull operand negated) :=
        (spaces_expectKeyword .NULL).bind fun _ => spaces_pure.loosen
      exact spaces_acceptKeyword_bind (closing true) (closing false)
  | negation => exact spaces_negatedPredicate spaces operand level
  | membership => exact (spaces_membership spaces operand false).loosen
  | range => exact spaces_range spaces operand false level
  | operator op => exact (spaces.expression level).bind fun right => spaces_pure

theorem spaces_continued (least bound : Nat) (operand : Expr) :
    SpacesAnywhere (continued nested least bound operand) := by
  induction bound generalizing operand with
  | zero => exact spaces_pure
  | succ bound ih =>
      refine spaces_currentKind_bind fun kind _ => ?_
      cases continues : continuation? kind with
      | none => exact spaces_pure
      | some found =>
          obtain ⟨no_name, no_literal⟩ := plain_of_continuation continues
          obtain ⟨level, form⟩ := found
          refine spaces_if spaces_pure ?_
          refine spaces_advance_bind ?_ ?_ <;> rintro _ rfl
          · simp [no_literal]
          · rw [no_name]
            exact (spaces_extend spaces operand (level + 1) form).bind fun extended => ih extended

theorem spaces_expression (least : Nat) : SpacesOperand (expression nested least) := by
  refine (spaces_signed spaces).bind fun operand => ?_
  exact spaces_remaining_bind fun bound => spaces_continued spaces least bound operand

/-! ## Tables -/

theorem spaces_tableFactor : SpacesAnywhere (tableFactor nested) := by
  refine spaces_acceptSymbol_bind ?_ ?_
  · refine spaces_isAt_bind fun here => ?_
    refine spaces_if ?_ ?_
    · refine spaces.select.weaken.bind fun query => ?_
      refine (spaces_expectSymbol .rightParen).bind fun _ => ?_
      exact spaces_tableLabel.weaken.bind fun label => spaces_pure
    · refine spaces.tables.weaken.bind fun inner => ?_
      exact (spaces_expectSymbol .rightParen).bind fun _ => spaces_pure.loosen
  · refine spaces_qualifiedName.bind fun name => ?_
    exact spaces_tableLabel.bind fun label => spaces_pure

theorem spaces_joinCondition (kind : JoinKind) : SpacesAnywhere (joinCondition nested kind) := by
  refine spaces_if spaces_pure ?_
  refine spaces_acceptKeyword_bind ?_ ?_
  · exact (spaces_anyExpression spaces).bind fun condition => spaces_pure
  · refine spaces_acceptKeyword_bind ?_ spaces_unexpected
    have columns : SpacesOperand (commaList identifier) :=
      spaces_commaList spaces_identifier spaces_identifier
    exact (spaces_parenthesized columns).bind fun shared => spaces_pure.loosen

theorem spaces_joins (bound : Nat) (left : TableRef) :
    SpacesAnywhere (joins nested bound left) := by
  induction bound generalizing left with
  | zero => exact spaces_pure
  | succ bound ih =>
      refine spaces_joinWords.bind fun join => ?_
      cases join with
      | none => exact spaces_pure
      | some kind =>
          refine (spaces_tableFactor spaces).bind fun right => ?_
          refine (spaces_joinCondition spaces kind).bind fun matching => ?_
          exact ih _

theorem spaces_joinedTable : SpacesAnywhere (joinedTable nested) := by
  refine (spaces_tableFactor spaces).bind fun first => ?_
  exact spaces_remaining_bind fun bound => spaces_joins spaces bound first

theorem spaces_tables : SpacesAnywhere (tables nested) := by
  have joined := spaces_joinedTable spaces
  refine (spaces_commaList joined joined.weaken).bind fun all => ?_
  cases all with
  | nil => exact spaces_unexpected
  | cons first others => exact spaces_pure

/-! ## Queries -/

theorem spaces_selectItem : SpacesOperand (selectItem nested) := by
  refine (spaces_anyExpression spaces).bind fun item => ?_
  exact spaces_itemLabel.bind fun label => spaces_pure

theorem spaces_orderItem : SpacesOperand (orderItem nested) := by
  refine (spaces_anyExpression spaces).bind fun item => ?_
  refine spaces_acceptKeyword_bind spaces_pure.loosen ?_
  exact (spaces_discard (spaces_acceptKeyword .ASC)).bind fun _ => spaces_pure

omit spaces in
theorem spaces_listBy {α : Type} (word : Keyword) {item : Parser α} (items : SpacesOperand item) :
    SpacesAnywhere (listBy word item) := by
  refine spaces_acceptKeyword_bind ?_ spaces_pure
  refine (spaces_expectKeyword .BY).bind fun _ => ?_
  exact spaces_commaList items items

theorem spaces_window : SpacesAnywhere (window nested) := by
  have number := spaces_anyExpression spaces
  have offset := spaces_afterKeyword .OFFSET number
  refine spaces_acceptKeyword_bind ?_ (offset.bind fun skipped => spaces_pure)
  refine number.bind fun first => ?_
  refine spaces_acceptSymbol_bind ?_ (offset.bind fun skipped => spaces_pure)
  exact number.bind fun count => spaces_pure

theorem spaces_whereClause : SpacesAnywhere (whereClause nested) :=
  spaces_afterKeyword .WHERE (spaces_anyExpression spaces)

theorem spaces_selectBody (distinct : Bool) : SpacesOperand (selectBody nested distinct) := by
  have expression := spaces_anyExpression spaces
  have item := spaces_selectItem spaces
  refine (spaces_commaList item item).bind fun items => ?_
  refine (spaces_afterKeyword .FROM (spaces_tables spaces).weaken).bind fun source => ?_
  refine (spaces_whereClause spaces).bind fun condition => ?_
  refine (spaces_listBy .GROUP expression).bind fun groups => ?_
  refine (spaces_afterKeyword .HAVING expression).bind fun having => ?_
  refine (spaces_listBy .ORDER (spaces_orderItem spaces)).bind fun order => ?_
  exact (spaces_window spaces).bind fun pages => spaces_pure

theorem spaces_select : SpacesAnywhere (select nested) := by
  refine (spaces_expectKeyword .SELECT).bind fun _ => ?_
  refine (spaces_acceptKeyword .DISTINCT).bind fun distinct => ?_
  have body := spaces_selectBody spaces distinct
  refine spaces_if ?_ body
  exact (spaces_discard (spaces_acceptKeyword .ALL)).bind fun _ => body

/-! ## Statements that change rows -/

theorem spaces_assignment : SpacesAnywhere (assignment nested) := by
  refine spaces_qualifiedName.bind fun name => ?_
  refine (spaces_expectSymbol .eq).bind fun _ => ?_
  exact (spaces_anyExpression spaces).bind fun value => spaces_pure

theorem spaces_assignments : SpacesAnywhere (commaList (assignment nested)) :=
  spaces_commaList (spaces_assignment spaces) (spaces_assignment spaces).weaken

theorem spaces_valueRow : SpacesAnywhere (valueRow nested) := by
  have closing (row : List Expr) {named : Bool} :
      Spaces named (fun _ => True) (do expectSymbol .rightParen; return row) true :=
    (spaces_expectSymbol .rightParen).bind fun _ => spaces_pure.loosen
  refine (spaces_expectSymbol .leftParen).bind fun _ => ?_
  refine spaces_isAt_bind fun here => ?_
  refine spaces_if (closing []) ?_
  exact (spaces_expressionList spaces).bind fun row => closing row

omit spaces in
theorem spaces_columnList : SpacesAnywhere columnList := by
  have columns : SpacesOperand (commaList identifier) :=
    spaces_commaList spaces_identifier spaces_identifier
  refine spaces_isAt_bind fun here => ?_
  refine spaces_look_bind (fun s a t read => by cases read; rfl) fun following => ?_
  exact spaces_if (spaces_parenthesized columns).loosen spaces_pure

theorem spaces_insertSource : SpacesAnywhere (insertSource nested) := by
  have row := spaces_valueRow spaces
  have query := spaces_select spaces
  refine spaces_acceptKeyword_bind ?_ ?_
  · exact (spaces_commaList row.weaken row.weaken).bind fun rows => spaces_pure
  refine spaces_isAt_bind fun here => ?_
  refine spaces_if (query.bind fun found => spaces_pure) ?_
  refine spaces_acceptSymbol_bind ?_ ?_
  · refine query.weaken.bind fun found => ?_
    exact (spaces_expectSymbol .rightParen).bind fun _ => spaces_pure.loosen
  · refine spaces_acceptKeyword_bind ?_ spaces_unexpected
    exact (spaces_expectKeyword .VALUES).bind fun _ => spaces_pure.loosen

theorem spaces_onDuplicate : SpacesAnywhere (onDuplicate nested) := by
  refine spaces_acceptKeyword_bind ?_ spaces_pure
  refine (spaces_expectWord "DUPLICATE").weaken.bind fun _ => ?_
  refine (spaces_expectWord "KEY").bind fun _ => ?_
  refine (spaces_expectKeyword .UPDATE).bind fun _ => ?_
  exact (spaces_assignments spaces).weaken

theorem spaces_insert : SpacesAnywhere (insert nested) := by
  refine (spaces_expectKeyword .INSERT).bind fun _ => ?_
  refine (spaces_discard (spaces_acceptWord "IGNORE")).weaken.bind fun _ => ?_
  refine (spaces_discard (spaces_acceptKeyword .INTO)).bind fun _ => ?_
  refine spaces_qualifiedName.bind fun name => ?_
  refine spaces_columnList.bind fun columns => ?_
  refine (spaces_insertSource spaces).bind fun source => ?_
  exact (spaces_onDuplicate spaces).bind fun updates => spaces_pure

theorem spaces_update : SpacesAnywhere (update nested) := by
  refine (spaces_expectKeyword .UPDATE).bind fun _ => ?_
  refine spaces_qualifiedName.bind fun name => ?_
  refine spaces_tableLabel.bind fun label => ?_
  refine (spaces_expectKeyword .SET).bind fun _ => ?_
  refine (spaces_assignments spaces).weaken.bind fun assignments => ?_
  exact (spaces_whereClause spaces).bind fun condition => spaces_pure

theorem spaces_delete : SpacesAnywhere (delete nested) := by
  refine (spaces_expectKeyword .DELETE).bind fun _ => ?_
  refine (spaces_expectKeyword .FROM).bind fun _ => ?_
  refine spaces_qualifiedName.bind fun name => ?_
  refine spaces_tableLabel.bind fun label => ?_
  exact (spaces_whereClause spaces).bind fun condition => spaces_pure

/-! ## Whole statements -/

theorem spaces_statementBody : SpacesAnywhere (statementBody nested) := by
  refine spaces_currentKind_bind fun kind _ => ?_
  cases kind with
  | keyword word =>
      cases word with
      | SELECT => exact ((spaces_select spaces).bind fun query => spaces_pure).at
      | INSERT => exact ((spaces_insert spaces).bind fun s => spaces_pure).at
      | UPDATE => exact ((spaces_update spaces).bind fun s => spaces_pure).at
      | DELETE => exact ((spaces_delete spaces).bind fun s => spaces_pure).at
      | SET => exact spaces_unsupported
      | WITH => exact spaces_unsupported
      | DESC => exact spaces_unsupported
      | _ => exact spaces_unexpected
  | identifier name => exact spaces_if spaces_unsupported spaces_unexpected
  | _ => exact spaces_unexpected

end Rules

theorem nestedSpaces_nestedTo (depth : Nat) : NestedSpaces (nestedTo depth) := by
  induction depth with
  | zero => exact ⟨fun _ => spaces_unexpected, spaces_unexpected, spaces_unexpected⟩
  | succ depth ih => exact ⟨spaces_expression ih, spaces_select ih, spaces_tables ih⟩

theorem spaces_statementEnd : SpacesAnywhere statementEnd := by
  refine spaces_remaining_bind fun bound => ?_
  refine (spaces_skipAll .semicolon bound).bind fun _ => ?_
  refine spaces_currentKind_bind fun kind _ => ?_
  cases kind with
  | eof => exact spaces_pure
  | keyword word =>
      cases word with
      | UNION => exact spaces_unsupported
      | INTERSECT => exact spaces_unsupported
      | EXCEPT => exact spaces_unsupported
      | _ => exact spaces_unexpected
  | _ => exact spaces_unexpected

/-- In the text of a statement no literal stands right behind a name. -/
theorem spaced_tokenKinds {text : String} {statement : Statement}
    (parsed : Statement.parse text = .ok statement) : Spaced false (tokenKinds text) := by
  obtain ⟨t, read⟩ := parse_eq_ok.mp parsed
  have behind : Spaced true (kindsOf t) := by simp [kindsOf, (passes_text read).1, Spaced]
  obtain ⟨_, s, read_body, read⟩ := read_of_bind read
  obtain ⟨_, s', read_end, read⟩ := read_of_bind read
  cases read
  have body := spaces_statementBody (nestedSpaces_nestedTo ((textTokens text).length + 1))
  have before_end := spaces_statementEnd s () t trivial read_end behind
  exact (body (.ofText text) statement s trivial read_body before_end).weaken

end ShardedSql.Sql
