import ShardedSql.Proofs.Lexing
import ShardedSql.Proofs.Respelling

/-!
Every rule of the grammar keeps up with names that are spelled differently: what it reads is what it
read before, with each name mapped by its part. Main statement: a text whose tokens are those of a
statement but for names is a statement again, the same but for names.
-/

namespace ShardedSql.Sql

open Numeric Text ShardedSql.Sql.Parser Grammar

/-! ## The same but for names -/

theorem namedList_eq_map (f : NameMap) (es : List Expr) : namedList f es = es.map (·.named f) := by
  induction es with
  | nil => rfl
  | cons e rest ih => simp [namedList, ih]

def SelectItem.named (f : NameMap) (item : SelectItem) : SelectItem :=
  ⟨item.expr.named f, item.label.map (f .other)⟩

def OrderItem.named (f : NameMap) (item : OrderItem) : OrderItem :=
  ⟨item.expr.named f, item.direction⟩

theorem namedItems_eq_map (f : NameMap) (items : List SelectItem) :
    namedItems f items = items.map (·.named f) := by
  induction items with
  | nil => rfl
  | cons item rest ih =>
      obtain ⟨e, label⟩ := item
      simp [namedItems, SelectItem.named, ih]

theorem namedOrder_eq_map (f : NameMap) (order : List OrderItem) :
    namedOrder f order = order.map (·.named f) := by
  induction order with
  | nil => rfl
  | cons item rest ih =>
      obtain ⟨e, direction⟩ := item
      simp [namedOrder, OrderItem.named, ih]

theorem map_eq_of_forall₂ {α β γ : Type} {f : α → γ} {g : β → γ} {as : List α} {bs : List β}
    (related : List.Forall₂ (fun a b => g b = f a) as bs) : bs.map g = as.map f := by
  induction related with
  | nil => rfl
  | cons first _ ih => rw [List.map_cons, List.map_cons, first, ih]

section Rules

variable {r : Respelling}

variable (r) in
def SameExpr (e e' : Expr) : Prop :=
  e'.named .identity = e.named r.names

variable (r) in
def SameList (es es' : List Expr) : Prop :=
  namedList .identity es' = namedList r.names es

variable (r) in
def SameOption (e e' : Option Expr) : Prop :=
  namedOption .identity e' = namedOption r.names e

variable (r) in
def SameSelect (query query' : Select) : Prop :=
  query'.named .identity = query.named r.names

variable (r) in
def SameTables (t t' : TableRef) : Prop :=
  t'.named .identity = t.named r.names

theorem SameList.of_forall₂ {es es' : List Expr} (related : List.Forall₂ (SameExpr r) es es') :
    SameList r es es' := by
  rw [SameList, namedList_eq_map, namedList_eq_map]
  exact map_eq_of_forall₂ related

theorem SameOption.of_rel {e e' : Option Expr} (related : Option.Rel (SameExpr r) e e') :
    SameOption r e e' := by
  cases related with
  | none => rfl
  | some same => exact congrArg some same

/-- The nested rules keep up. -/
structure NestedKeeps (r : Respelling) (nested nested' : Nested) : Prop where
  expression : ∀ level, Keeps r (nested.expression level) (nested'.expression level) (SameExpr r)
  select : Keeps r nested.select nested'.select (SameSelect r)
  tables : Keeps r nested.tables nested'.tables (SameTables r)

/-! ## Names and labels -/

theorem keeps_qualifiedName :
    Keeps r qualifiedName qualifiedName fun name name' => name' = mapTable r.names name := by
  refine keeps_identifier.bind ?_
  rintro first _ rfl
  refine keeps_acceptDot_bind ?_ (follows_pure rfl)
  refine follows_identifier.bind ?_
  rintro name _ rfl
  exact follows_pure rfl

theorem keeps_tableLabel :
    Keeps r tableLabel tableLabel fun label label' => label' = label.map r.name := by
  have named : Keeps r (do return some (← identifier)) (do return some (← identifier))
      fun (label label' : Option String) => label' = label.map r.name := by
    refine keeps_identifier.bind ?_
    rintro name _ rfl
    exact follows_pure rfl
  refine (keeps_acceptKeyword _).bind ?_
  rintro labelled _ rfl
  refine follows_if rfl (fun _ => named) fun _ => ?_
  refine keeps_atIdentifier.bind ?_
  rintro named_next _ rfl
  exact follows_if rfl (fun _ => named) fun _ => follows_pure rfl

theorem keeps_itemLabel :
    Keeps r itemLabel itemLabel fun label label' => label' = label.map r.name := by
  have named {stands : TokenKind → Prop} :
      Follows r false stands (do return some (← identifier)) (do return some (← identifier))
        fun (label label' : Option String) => label' = label.map r.name := by
    refine follows_identifier.bind ?_
    rintro name _ rfl
    exact follows_pure rfl
  refine keeps_acceptAs_bind ?_ ?_
  · refine follows_currentKind_bind fun k kept => ?_
    cases k with
    | string label =>
        refine (follows_advance ?_).bind fun _ _ _ => follows_pure ?_
        · rintro _ rfl
          simp
        · simp [kept label rfl]
    | _ => exact named
  · refine keeps_atIdentifier.bind ?_
    rintro named_next _ rfl
    exact follows_if rfl (fun _ => named) fun _ => follows_pure rfl

/-! ## Types -/

theorem keeps_typeWords (bound : Nat) :
    Keeps r (typeWords bound) (typeWords bound) fun words words' =>
      ∃ names : List String, words = names.map upperAscii ∧
        words' = names.map fun name => upperAscii (r.name name) := by
  induction bound with
  | zero => exact follows_pure ⟨[], rfl, rfl⟩
  | succ bound ih =>
      have word (name : String) {k : TokenKind}
          (clear : k ≠ .symbol .dot ∧ ∀ reason, k ≠ .error reason) :
          Follows r false (· = k) (do advance; return upperAscii name :: (← typeWords bound))
            (do advance; return upperAscii (r.name name) :: (← typeWords bound))
            fun words words' => ∃ names : List String, words = names.map upperAscii ∧
              words' = names.map fun name => upperAscii (r.name name) := by
        refine (follows_advance ?_).bind fun _ _ _ => ih.bind ?_
        · rintro _ rfl
          exact clear
        · rintro words words' ⟨names, rfl, rfl⟩
          exact follows_pure ⟨name :: names, rfl, rfl⟩
      refine follows_currentKind_bind fun k _ => ?_
      cases k with
      | identifier name => exact word name (by simp)
      | keyword reserved =>
          have upper : upperAscii reserved.spelling = reserved.spelling := by
            cases reserved <;> decide
          have same := word reserved.spelling (k := .keyword reserved) (by simp)
          rw [r.reserved, upper] at same
          exact same
      | _ => exact follows_pure ⟨[], rfl, rfl⟩

theorem keeps_typeSize :
    Keeps r typeSize typeSize fun size size' => size' = size ∧ ∃ n, size = intText n := by
  refine follows_currentKind_bind fun k _ => ?_
  cases k with
  | integer n =>
      refine (follows_advance ?_).bind fun _ _ _ => follows_pure ⟨rfl, n.toInt, rfl⟩
      rintro _ rfl
      simp
  | _ => exact follows_unexpected

theorem sizes_eq {sizes sizes' : List String}
    (related : List.Forall₂ (fun size size' : String => size' = size ∧ ∃ n, size = intText n)
      sizes sizes') :
    sizes' = sizes ∧ ∃ ns : List Int, sizes = ns.map intText := by
  induction related with
  | nil => exact ⟨rfl, [], rfl⟩
  | cons first _ ih =>
      obtain ⟨rfl, n, rfl⟩ := first
      obtain ⟨rfl, ns, rfl⟩ := ih
      exact ⟨rfl, n :: ns, rfl⟩

theorem keeps_typeName : Keeps r typeName typeName fun type type' => type' = r.type type := by
  refine keeps_remaining.bind ?_
  rintro bound _ rfl
  refine (keeps_typeWords bound).bind ?_
  rintro _ _ ⟨names, rfl, rfl⟩
  refine follows_if (by simp) (fun _ => follows_unexpected) fun _ => ?_
  dsimp only
  refine (keeps_acceptSymbol (by decide)).bind ?_
  rintro sized _ rfl
  refine follows_if rfl (fun _ => ?_) fun _ => follows_pure (r.types names none).symm
  refine (keeps_commaList keeps_typeSize).bind fun sizes sizes' related => ?_
  obtain ⟨rfl, ns, rfl⟩ := sizes_eq related
  refine (keeps_expectSymbol (by decide)).bind fun _ _ _ => ?_
  exact follows_pure (r.types names (some ns)).symm

/-! ## Expressions -/

section Expressions

variable {nested nested' : Nested} (keeps : NestedKeeps r nested nested')
include keeps

theorem keeps_anyExpression :
    Keeps r (anyExpression nested) (anyExpression nested') (SameExpr r) :=
  keeps.expression 0

theorem keeps_expressionList :
    Keeps r (expressionList nested) (expressionList nested') (SameList r) :=
  (keeps_commaList (keeps_anyExpression keeps)).imp fun _ _ => .of_forall₂

theorem keeps_optional (word : Keyword) :
    Keeps r (afterKeyword word (anyExpression nested)) (afterKeyword word (anyExpression nested'))
      (SameOption r) :=
  (keeps_afterKeyword (keeps_anyExpression keeps)).imp fun _ _ => .of_rel

theorem keeps_callOf {function function' : String} (called : function' = r.name function) :
    Keeps r (callOf nested function) (callOf nested' function') (SameExpr r) := by
  have closing (distinct : Bool) {args args' : List Expr} (related : SameList r args args') :
      Keeps r (do expectSymbol .rightParen; return .call function args distinct)
        (do expectSymbol .rightParen; return .call function' args' distinct) (SameExpr r) := by
    refine (keeps_expectSymbol (by decide)).bind fun _ _ _ => follows_pure ?_
    subst called
    simp only [SameExpr, Expr.named]
    exact congrArg (fun args => Expr.call _ args _) related
  refine (keeps_expectSymbol (by decide)).bind fun _ _ _ => ?_
  refine (keeps_acceptKeyword _).bind ?_
  rintro distinct _ rfl
  refine (keeps_atSymbol _).bind ?_
  rintro empty _ rfl
  refine (keeps_acceptSymbol (by decide)).bind ?_
  rintro star _ rfl
  refine follows_if rfl (fun _ => closing distinct rfl) fun _ => ?_
  refine follows_if rfl (fun _ => closing distinct rfl) fun _ => ?_
  exact (keeps_expressionList keeps).bind fun _ _ related => closing distinct related

theorem keeps_castBody : Keeps r (castBody nested) (castBody nested') (SameExpr r) := by
  refine (keeps_expectSymbol (by decide)).bind fun _ _ _ => ?_
  refine (keeps_anyExpression keeps).bind fun operand operand' related => ?_
  refine (keeps_expectKeyword _).bind fun _ _ _ => keeps_typeName.bind ?_
  rintro target _ rfl
  refine (keeps_expectSymbol (by decide)).bind fun _ _ _ => follows_pure ?_
  simp only [SameExpr, Expr.named]
  exact congrArg (fun operand => Expr.cast operand _) related

theorem keeps_branches (bound : Nat) :
    Keeps r (branches nested bound) (branches nested' bound) fun whens whens' =>
      whens'.isEmpty = whens.isEmpty ∧
        namedBranches .identity whens' = namedBranches r.names whens := by
  induction bound with
  | zero => exact follows_pure ⟨rfl, rfl⟩
  | succ bound ih =>
      refine (keeps_acceptKeyword _).bind ?_
      rintro another _ rfl
      refine follows_if rfl (fun _ => ?_) fun _ => follows_pure ⟨rfl, rfl⟩
      refine (keeps_anyExpression keeps).bind fun condition condition' conditions => ?_
      refine (keeps_expectKeyword _).bind fun _ _ _ => ?_
      refine (keeps_anyExpression keeps).bind fun result result' results => ?_
      refine ih.bind fun others others' related => follows_pure ⟨rfl, ?_⟩
      simp only [namedBranches, related.2, List.cons.injEq, Branch.mk.injEq, and_true]
      exact ⟨conditions, results⟩

theorem keeps_choiceOf {subject subject' : Option Expr} (subjects : SameOption r subject subject') :
    Keeps r (choiceOf nested subject) (choiceOf nested' subject') (SameExpr r) := by
  refine keeps_remaining.bind ?_
  rintro bound _ rfl
  refine (keeps_branches keeps bound).bind fun whens whens' ⟨empty, choices⟩ => ?_
  refine follows_if empty (fun _ => follows_unexpected) fun _ => ?_
  refine (keeps_optional keeps _).bind fun otherwise otherwise' alternatives => ?_
  refine (keeps_expectKeyword _).bind fun _ _ _ => follows_pure ?_
  simp only [SameExpr, Expr.named, Expr.choice.injEq]
  exact ⟨subjects, choices, alternatives⟩

theorem keeps_caseBody : Keeps r (caseBody nested) (caseBody nested') (SameExpr r) := by
  refine (keeps_atKeyword _).bind ?_
  rintro at_once _ rfl
  refine follows_if rfl (fun _ => keeps_choiceOf keeps rfl) fun _ => ?_
  refine Follows.bind ?_ fun _ _ subjects => keeps_choiceOf keeps subjects
  exact (keeps_anyExpression keeps).map fun _ _ related => congrArg some related

theorem keeps_afterName (name : String) (span span' : Span) :
    Keeps r (afterName nested name span) (afterName nested' (r.name name) span') (SameExpr r) := by
  refine (keeps_atSymbol _).bind ?_
  rintro called _ rfl
  refine follows_if rfl (fun _ => keeps_callOf keeps rfl) fun _ => ?_
  refine keeps_acceptDot_bind ?_ (follows_pure rfl)
  refine follows_accept_bind (by simp) (by simp) (by simp) (follows_pure rfl) ?_
  refine follows_current_bind fun token token' _ _ => ?_
  refine follows_identifier.bind ?_
  rintro column _ rfl
  exact follows_pure rfl

theorem keeps_callOfKeyword (word : Keyword) (span span' : Span) :
    Keeps r (callOfKeyword nested word span) (callOfKeyword nested' word span') (SameExpr r) := by
  refine (keeps_atSymbol _).bind ?_
  rintro called _ rfl
  refine follows_if rfl (fun _ => keeps_callOf keeps (r.reserved word).symm) fun _ => ?_
  exact follows_of_fails fun _ _ _ read => nomatch read

theorem keeps_afterParen : Keeps r (afterParen nested) (afterParen nested') (SameExpr r) := by
  have closing {e e' : Expr} (related : SameExpr r e e') :
      Keeps r (do expectSymbol .rightParen; return e) (do expectSymbol .rightParen; return e')
        (SameExpr r) :=
    (keeps_expectSymbol (by decide)).bind fun _ _ _ => follows_pure related
  refine (keeps_atKeyword _).bind ?_
  rintro query _ rfl
  refine follows_if rfl (fun _ => ?_) fun _ => ?_
  · refine Follows.bind ?_ fun _ _ related => closing related
    exact keeps.select.map fun _ _ related => congrArg Expr.subquery related
  · refine Follows.bind ?_ fun _ _ related => closing related
    exact (keeps_anyExpression keeps).map fun _ _ related => congrArg Expr.paren related

omit keeps in
theorem keeps_nextOrdinal : Keeps r nextOrdinal nextOrdinal (· = ·) := by
  intro s s' n t respelled _ read
  cases read
  refine ⟨_, _, rfl, respelled.ordinal.symm, ?_, ⟨⟨[], by simp⟩, rfl⟩⟩
  exact ⟨respelled.ahead, respelled.labels, congrArg (· + 1) respelled.ordinal,
    respelled.finish, respelled.finish'⟩

omit keeps in
theorem follows_advance_bind {k : TokenKind} {α β : Type} {same : α → β → Prop} {p : Parser α}
    {q : Parser β} (follows : Keeps r p q same)
    (clear : k ≠ .symbol .dot ∧ ∀ reason, k ≠ .error reason) :
    Follows r false (· = k) (do advance; p) (do advance; q) same := by
  refine (follows_advance ?_).bind fun _ _ _ => follows
  rintro _ rfl
  exact clear

theorem keeps_primary : Keeps r (primary nested) (primary nested') (SameExpr r) := by
  refine follows_current_bind fun token token' kind _ => ?_
  obtain ⟨k, span⟩ := token
  obtain ⟨k', span'⟩ := token'
  change k' = r.kind false k at kind
  subst kind
  cases k with
  | identifier name =>
      exact follows_advance_bind (keeps_afterName keeps name span span') (by simp)
  | integer n => exact follows_advance_bind (follows_pure rfl) (by simp)
  | float x => exact follows_advance_bind (follows_pure rfl) (by simp)
  | string text => exact follows_advance_bind (follows_pure rfl) (by simp)
  | blob bytes => exact follows_advance_bind (follows_pure rfl) (by simp)
  | eof => exact follows_unexpected
  | error reason => exact follows_unexpected
  | symbol mark =>
      cases mark with
      | question =>
          refine follows_advance_bind (keeps_nextOrdinal.bind ?_) (by simp)
          rintro ordinal _ rfl
          exact follows_pure rfl
      | colon =>
          refine follows_advance_bind (keeps_identifier.bind ?_) (by simp)
          rintro name _ rfl
          exact follows_pure rfl
      | star => exact follows_advance_bind (follows_pure rfl) (by simp)
      | leftParen => exact follows_advance_bind (keeps_afterParen keeps) (by simp)
      | _ => exact follows_unexpected
  | keyword word =>
      cases word with
      | TRUE => exact follows_advance_bind (follows_pure rfl) (by simp)
      | FALSE => exact follows_advance_bind (follows_pure rfl) (by simp)
      | NULL => exact follows_advance_bind (follows_pure rfl) (by simp)
      | CASE => exact follows_advance_bind (keeps_caseBody keeps) (by simp)
      | CAST => exact follows_advance_bind (keeps_castBody keeps) (by simp)
      | EXISTS =>
          refine follows_advance_bind ?_ (by simp)
          refine (keeps_parenthesized keeps.select).bind fun _ _ related => follows_pure ?_
          exact congrArg (fun query => Expr.existence query false) related
      | LEFT => exact follows_advance_bind (keeps_callOfKeyword keeps _ span span') (by simp)
      | RIGHT => exact follows_advance_bind (keeps_callOfKeyword keeps _ span span') (by simp)
      | _ => exact follows_unexpected

omit keeps in
theorem named_apply (f : NameMap) (sign : Sign) (e : Expr) :
    (sign.apply e).named f = sign.apply (e.named f) := by
  cases sign with
  | none => rfl
  | op op =>
      cases op <;> cases e <;> try rfl
      case neg.literal value => cases value <;> rfl
      case neg.column table _ _ => cases table <;> rfl
      case not.column table _ _ => cases table <;> rfl

theorem keeps_signed : Keeps r (signed nested) (signed nested') (SameExpr r) := by
  refine follows_currentKind_bind fun k _ => ?_
  have sign_eq : sign? (r.kind false k) = sign? k := by
    cases k <;> rfl
  rw [sign_eq]
  cases signs : sign? k with
  | none => exact follows_of_keeps (keeps_primary keeps)
  | some found =>
      obtain ⟨level, sign⟩ := found
      refine follows_advance_bind ((keeps.expression level).bind fun e e' related => ?_) ?_
      · refine follows_pure ?_
        rw [SameExpr, named_apply, named_apply]
        exact congrArg sign.apply related
      · constructor
        · rintro rfl
          cases signs
        · rintro reason rfl
          cases signs

theorem keeps_membership {operand operand' : Expr} (operands : SameExpr r operand operand')
    (negated : Bool) :
    Keeps r (membership nested operand negated) (membership nested' operand' negated)
      (SameExpr r) := by
  have closing {items items' : List Expr} (related : SameList r items items') :
      Keeps r (do expectSymbol .rightParen; return .inList operand items negated)
        (do expectSymbol .rightParen; return .inList operand' items' negated) (SameExpr r) := by
    refine (keeps_expectSymbol (by decide)).bind fun _ _ _ => follows_pure ?_
    simp only [SameExpr, Expr.named, Expr.inList.injEq, and_true]
    exact ⟨operands, related⟩
  refine (keeps_expectSymbol (by decide)).bind fun _ _ _ => ?_
  refine (keeps_atKeyword _).bind ?_
  rintro query _ rfl
  refine follows_if rfl (fun _ => ?_) fun _ => ?_
  · refine Follows.bind ?_ fun _ _ related => closing related
    exact keeps.select.map fun _ _ related => congrArg (fun query => [Expr.subquery query]) related
  · exact (keeps_expressionList keeps).bind fun _ _ related => closing related

theorem keeps_range {operand operand' : Expr} (operands : SameExpr r operand operand')
    (negated : Bool) (level : Nat) :
    Keeps r (range nested operand negated level) (range nested' operand' negated level)
      (SameExpr r) := by
  refine (keeps.expression level).bind fun low low' lows => ?_
  refine (keeps_expectKeyword _).bind fun _ _ _ => ?_
  refine (keeps.expression level).bind fun high high' highs => follows_pure ?_
  simp only [SameExpr, Expr.named, Expr.between.injEq, and_true]
  exact ⟨operands, lows, highs⟩

theorem keeps_binary {operand operand' : Expr} (operands : SameExpr r operand operand')
    (op : BinaryOp) (level : Nat) :
    Keeps r (do return .binary operand op (← nested.expression level))
      (do return .binary operand' op (← nested'.expression level)) (SameExpr r) := by
  refine (keeps.expression level).bind fun right right' rights => follows_pure ?_
  simp only [SameExpr, Expr.named, Expr.binary.injEq, true_and]
  exact ⟨operands, rights⟩

theorem keeps_negatedPredicate {operand operand' : Expr} (operands : SameExpr r operand operand')
    (level : Nat) :
    Keeps r (negatedPredicate nested operand level) (negatedPredicate nested' operand' level)
      (SameExpr r) := by
  refine follows_currentKind_bind fun k _ => ?_
  cases k with
  | keyword word =>
      cases word with
      | IN => exact follows_advance_bind (keeps_membership keeps operands true) (by simp)
      | BETWEEN => exact follows_advance_bind (keeps_range keeps operands true level) (by simp)
      | LIKE => exact follows_advance_bind (keeps_binary keeps operands .notLike level) (by simp)
      | _ => exact follows_unexpected
  | _ => exact follows_unexpected

theorem keeps_extend {operand operand' : Expr} (operands : SameExpr r operand operand')
    (level : Nat) (form : Continuation) :
    Keeps r (extend nested operand level form) (extend nested' operand' level form)
      (SameExpr r) := by
  cases form with
  | nullTest =>
      refine (keeps_acceptKeyword _).bind ?_
      rintro negated _ rfl
      refine (keeps_expectKeyword _).bind fun _ _ _ => follows_pure ?_
      simp only [SameExpr, Expr.named, Expr.isNull.injEq, and_true]
      exact operands
  | negation => exact keeps_negatedPredicate keeps operands level
  | membership => exact keeps_membership keeps operands false
  | range => exact keeps_range keeps operands false level
  | operator op => exact keeps_binary keeps operands op level

theorem keeps_continued (least bound : Nat) {operand operand' : Expr}
    (operands : SameExpr r operand operand') :
    Keeps r (continued nested least bound operand) (continued nested' least bound operand')
      (SameExpr r) := by
  induction bound generalizing operand operand' with
  | zero => exact follows_pure operands
  | succ bound ih =>
      refine follows_currentKind_bind fun k _ => ?_
      have continuation_eq : continuation? (r.kind false k) = continuation? k := by
        cases k <;> rfl
      rw [continuation_eq]
      cases found : continuation? k with
      | none => exact follows_pure operands
      | some next =>
          obtain ⟨level, form⟩ := next
          dsimp only
          by_cases loose : level < least
          · rw [if_pos loose, if_pos loose]
            exact follows_pure operands
          · rw [if_neg loose, if_neg loose]
            refine follows_advance_bind ?_ ?_
            · exact (keeps_extend keeps operands _ form).bind fun _ _ related => ih related
            · constructor
              · rintro rfl
                cases found
              · rintro reason rfl
                cases found

theorem keeps_expression (least : Nat) :
    Keeps r (expression nested least) (expression nested' least) (SameExpr r) := by
  refine (keeps_signed keeps).bind fun operand operand' operands => keeps_remaining.bind ?_
  rintro bound _ rfl
  exact keeps_continued keeps least bound operands

/-! ## Tables -/

theorem keeps_tableFactor :
    Keeps r (tableFactor nested) (tableFactor nested') (SameTables r) := by
  refine (keeps_acceptSymbol (by decide)).bind ?_
  rintro nesting _ rfl
  refine follows_if rfl (fun _ => ?_) fun _ => ?_
  · refine (keeps_atKeyword _).bind ?_
    rintro derived _ rfl
    refine follows_if rfl (fun _ => ?_) fun _ => ?_
    · refine keeps.select.bind fun query query' queries => ?_
      refine (keeps_expectSymbol (by decide)).bind fun _ _ _ => keeps_tableLabel.bind ?_
      rintro label _ rfl
      refine follows_pure ?_
      simp only [SameTables, TableRef.named, TableRef.derived.injEq]
      exact ⟨queries, by cases label <;> rfl⟩
    · refine keeps.tables.bind fun inner inner' inners => ?_
      exact (keeps_expectSymbol (by decide)).bind fun _ _ _ => follows_pure inners
  · refine keeps_qualifiedName.bind ?_
    rintro ⟨schema, name⟩ _ rfl
    refine keeps_tableLabel.bind ?_
    rintro label _ rfl
    refine follows_pure ?_
    cases schema <;> cases label <;> rfl

omit keeps in
theorem keeps_joinWords : Keeps r joinWords joinWords (· = ·) := by
  have closing (join : JoinKind) :
      Keeps r (do expectKeyword .JOIN; return some join) (do expectKeyword .JOIN; return some join)
        (· = ·) :=
    (keeps_expectKeyword _).bind fun _ _ _ => follows_pure rfl
  refine follows_currentKind_bind fun k _ => ?_
  have join_eq : joinKind? (r.kind false k) = joinKind? k := by
    cases k <;> rfl
  rw [join_eq]
  cases found : joinKind? k with
  | none => exact follows_pure rfl
  | some join =>
      refine follows_advance_bind ?_ ?_
      · refine follows_if ?_ (fun _ => follows_pure rfl) fun _ => ?_
        · rw [Bool.eq_iff_iff, beq_iff_eq, beq_iff_eq, kind_eq_iff (by simp)]
        · refine follows_if rfl (fun _ => ?_) fun _ => closing join
          exact Follows.bind (keeps_discard (keeps_acceptKeyword _)) fun _ _ _ => closing join
      · constructor
        · rintro rfl
          cases found
        · rintro reason rfl
          cases found

theorem keeps_joinCondition (kind : JoinKind) :
    Keeps r (joinCondition nested kind) (joinCondition nested' kind) fun on on' =>
      SameOption r on.1 on'.1 ∧ on'.2 = on.2.map r.name := by
  refine follows_if rfl (fun _ => follows_pure ⟨rfl, rfl⟩) fun _ => ?_
  refine (keeps_acceptKeyword _).bind ?_
  rintro conditional _ rfl
  refine follows_if rfl (fun _ => ?_) fun _ => ?_
  · refine (keeps_anyExpression keeps).bind fun _ _ related => ?_
    exact follows_pure ⟨congrArg some related, rfl⟩
  · refine (keeps_acceptKeyword _).bind ?_
    rintro shared _ rfl
    refine follows_if rfl (fun _ => ?_) fun _ => follows_unexpected
    refine (keeps_parenthesized (keeps_commaList keeps_identifier)).bind fun _ _ related => ?_
    refine follows_pure ⟨rfl, ?_⟩
    simpa using map_eq_of_forall₂ (g := id) related

theorem keeps_joins (bound : Nat) {left left' : TableRef} (lefts : SameTables r left left') :
    Keeps r (joins nested bound left) (joins nested' bound left') (SameTables r) := by
  -- Joins lean to the left: what has been read so far becomes the left side of the next one.
  induction bound generalizing left left' with
  | zero => exact follows_pure lefts
  | succ bound ih =>
      refine keeps_joinWords.bind ?_
      rintro found _ rfl
      cases found with
      | none => exact follows_pure lefts
      | some kind =>
          refine (keeps_tableFactor keeps).bind fun right right' rights => ?_
          refine (keeps_joinCondition keeps kind).bind ?_
          rintro ⟨condition, shared⟩ ⟨condition', _⟩ ⟨conditions, rfl⟩
          refine ih ?_
          simp only [SameTables, TableRef.named, TableRef.join.injEq, true_and]
          exact ⟨lefts, rights, conditions, by simp [NameMap.identity, Respelling.names]⟩

theorem keeps_joinedTable :
    Keeps r (joinedTable nested) (joinedTable nested') (SameTables r) := by
  refine (keeps_tableFactor keeps).bind fun first first' firsts => keeps_remaining.bind ?_
  rintro bound _ rfl
  exact keeps_joins keeps bound firsts

theorem keeps_tables : Keeps r (tables nested) (tables nested') (SameTables r) := by
  refine (keeps_commaList (keeps_joinedTable keeps)).bind fun all all' related => ?_
  cases related with
  | nil => exact follows_unexpected
  | @cons first first' others others' firsts related =>
      refine follows_pure ?_
      induction related generalizing first first' with
      | nil => exact firsts
      | cons next _ ih =>
          refine ih ?_
          simp only [SameTables, TableRef.named, TableRef.join.injEq, true_and]
          exact ⟨firsts, next, rfl, rfl⟩

/-! ## Queries -/

theorem keeps_selectItem :
    Keeps r (selectItem nested) (selectItem nested') fun item item' =>
      item'.named .identity = item.named r.names := by
  refine (keeps_anyExpression keeps).bind fun e e' related => keeps_itemLabel.bind ?_
  rintro label _ rfl
  refine follows_pure ?_
  simp only [SelectItem.named, SelectItem.mk.injEq]
  exact ⟨related, by cases label <;> rfl⟩

theorem keeps_orderItem :
    Keeps r (orderItem nested) (orderItem nested') fun item item' =>
      item'.named .identity = item.named r.names := by
  refine (keeps_anyExpression keeps).bind fun e e' related => ?_
  have directed (direction : Direction) :
      OrderItem.named .identity ⟨e', direction⟩ = OrderItem.named r.names ⟨e, direction⟩ :=
    congrArg (fun e => OrderItem.mk e direction) related
  refine (keeps_acceptKeyword _).bind ?_
  rintro descending _ rfl
  refine follows_if rfl (fun _ => follows_pure (directed _)) fun _ => ?_
  exact Follows.bind (keeps_discard (keeps_acceptKeyword _)) fun _ _ _ => follows_pure (directed _)

omit keeps in
theorem keeps_listBy {α : Type} {item item' : Parser α} {same : α → α → Prop} (word : Keyword)
    (keeps : Keeps r item item' same) :
    Keeps r (listBy word item) (listBy word item') (List.Forall₂ same) := by
  refine (keeps_acceptKeyword _).bind ?_
  rintro listed _ rfl
  refine follows_if rfl (fun _ => ?_) fun _ => follows_pure .nil
  exact (keeps_expectKeyword _).bind fun _ _ _ => keeps_commaList keeps

theorem keeps_window :
    Keeps r (window nested) (window nested') fun bounds bounds' =>
      SameOption r bounds.1 bounds'.1 ∧ SameOption r bounds.2 bounds'.2 := by
  have offsetOnly {limit limit' : Option Expr} (limits : SameOption r limit limit') :
      Keeps r (do return (limit, ← afterKeyword .OFFSET (anyExpression nested)))
        (do return (limit', ← afterKeyword .OFFSET (anyExpression nested')))
        fun (bounds bounds' : Option Expr × Option Expr) =>
          SameOption r bounds.1 bounds'.1 ∧ SameOption r bounds.2 bounds'.2 :=
    (keeps_optional keeps _).bind fun _ _ offsets => follows_pure ⟨limits, offsets⟩
  refine (keeps_acceptKeyword _).bind ?_
  rintro limited _ rfl
  refine follows_if rfl (fun _ => ?_) fun _ => offsetOnly rfl
  refine (keeps_anyExpression keeps).bind fun first first' firsts => ?_
  refine (keeps_acceptSymbol (by decide)).bind ?_
  rintro comma _ rfl
  refine follows_if rfl (fun _ => ?_) fun _ => offsetOnly (congrArg some firsts)
  refine (keeps_anyExpression keeps).bind fun count count' counts => ?_
  exact follows_pure ⟨congrArg some counts, congrArg some firsts⟩

theorem keeps_source :
    Keeps r (afterKeyword .FROM (tables nested)) (afterKeyword .FROM (tables nested'))
      fun source source' => namedSource .identity source' = namedSource r.names source := by
  refine (keeps_afterKeyword (keeps_tables keeps)).imp fun source source' related => ?_
  cases related with
  | none => rfl
  | some same => exact congrArg some same

variable (r) in
/-- The queries have the given items, and are the same but for these. -/
def SameClauses (items items' : List SelectItem) (query query' : Select) : Prop :=
  query.items = items ∧ query'.items = items' ∧
    SameSelect r { query with items := [] } { query' with items := [] }

theorem keeps_afterItems (distinct : Bool) (items items' : List SelectItem) :
    Keeps r (afterItems nested distinct items) (afterItems nested' distinct items')
      (SameClauses r items items') := by
  refine (keeps_source keeps).bind fun source source' sources => ?_
  refine (keeps_optional keeps _).bind fun condition condition' conditions => ?_
  refine (keeps_listBy _ (keeps_anyExpression keeps)).bind fun groups groups' same_groups => ?_
  refine (keeps_optional keeps _).bind fun having having' havings => ?_
  refine (keeps_listBy _ (keeps_orderItem keeps)).bind fun order order' orders => ?_
  refine (keeps_window keeps).bind ?_
  rintro ⟨limit, offset⟩ ⟨limit', offset'⟩ ⟨limits, offsets⟩
  refine follows_pure ⟨rfl, rfl, ?_⟩
  simp only [SameSelect, Select.named, Select.mk.injEq, true_and]
  refine ⟨rfl, sources, conditions, ?_, havings, ?_, limits, offsets⟩
  · exact SameList.of_forall₂ same_groups
  · rw [namedOrder_eq_map, namedOrder_eq_map]
    exact map_eq_of_forall₂ orders

omit keeps in
theorem SameClauses.sameSelect {items items' : List SelectItem} {query query' : Select}
    (clauses : SameClauses r items items' query query')
    (same_items : namedItems .identity items' = namedItems r.names items) :
    SameSelect r query query' := by
  obtain ⟨rfl, rfl, same⟩ := clauses
  cases query
  cases query'
  simp only [SameSelect, Select.named, Select.mk.injEq] at same same_items ⊢
  exact ⟨same.1, same_items, same.2.2⟩

theorem keeps_selectBody (distinct : Bool) :
    Keeps r (selectBody nested distinct) (selectBody nested' distinct) (SameSelect r) := by
  refine (keeps_commaList (keeps_selectItem keeps)).bind fun items items' same_items => ?_
  refine (keeps_afterItems keeps distinct items items').imp fun query query' clauses => ?_
  apply clauses.sameSelect
  rw [namedItems_eq_map, namedItems_eq_map]
  exact map_eq_of_forall₂ same_items

theorem keeps_select : Keeps r (select nested) (select nested') (SameSelect r) := by
  -- `DISTINCT` and `ALL` stand before the same body.
  refine (keeps_expectKeyword _).bind fun _ _ _ => (keeps_acceptKeyword _).bind ?_
  rintro distinct _ rfl
  have body := keeps_selectBody keeps distinct
  refine follows_if rfl (fun _ => ?_) fun _ => body
  exact Follows.bind (keeps_discard (keeps_acceptKeyword _)) fun _ _ _ => body

/-! ## Statements that change rows -/

theorem keeps_assignment :
    Keeps r (assignment nested) (assignment nested') fun a a' =>
      a'.named .identity = a.named r.names := by
  refine keeps_qualifiedName.bind ?_
  rintro ⟨table, column⟩ _ rfl
  refine (keeps_expectSymbol (by decide)).bind fun _ _ _ => ?_
  refine (keeps_anyExpression keeps).bind fun value value' values => follows_pure ?_
  cases table <;> exact congrArg (Assignment.mk _ _) values

theorem keeps_valueRow : Keeps r (valueRow nested) (valueRow nested') (SameList r) := by
  have closing {row row' : List Expr} (rows : SameList r row row') :
      Keeps r (do expectSymbol .rightParen; return row) (do expectSymbol .rightParen; return row')
        (SameList r) :=
    (keeps_expectSymbol (by decide)).bind fun _ _ _ => follows_pure rows
  refine (keeps_expectSymbol (by decide)).bind fun _ _ _ => (keeps_atSymbol _).bind ?_
  rintro empty _ rfl
  refine follows_if rfl (fun _ => closing rfl) fun _ => ?_
  exact (keeps_expressionList keeps).bind fun _ _ rows => closing rows

omit keeps in
theorem keeps_columnList :
    Keeps r columnList columnList fun columns columns' => columns' = columns.map r.name := by
  refine (keeps_atSymbol _).bind ?_
  rintro opening _ rfl
  refine keeps_followingKind.bind fun k k' same => follows_if ?_ (fun _ => ?_) fun _ => ?_
  · have differs : (k' != .keyword .SELECT) = (k != .keyword .SELECT) := by
      rw [Bool.eq_iff_iff, bne_iff_ne, bne_iff_ne, ne_eq, ne_eq, same]
    rw [differs]
  · refine (keeps_parenthesized (keeps_commaList keeps_identifier)).imp fun _ _ related => ?_
    simpa using map_eq_of_forall₂ (g := id) related
  · exact follows_pure rfl

theorem keeps_insertSource :
    Keeps r (insertSource nested) (insertSource nested') fun source source' =>
      source'.named .identity = source.named r.names := by
  refine (keeps_acceptKeyword _).bind ?_
  rintro values _ rfl
  refine follows_if rfl (fun _ => ?_) fun _ => ?_
  · refine (keeps_commaList (keeps_valueRow keeps)).bind fun rows rows' related => ?_
    exact follows_pure (congrArg InsertSource.values (map_eq_of_forall₂ related))
  refine (keeps_atKeyword _).bind ?_
  rintro query _ rfl
  refine follows_if rfl (fun _ => ?_) fun _ => ?_
  · refine (keeps_select keeps).bind fun query query' queries => ?_
    exact follows_pure (congrArg InsertSource.query queries)
  refine (keeps_acceptSymbol (by decide)).bind ?_
  rintro nesting _ rfl
  refine follows_if rfl (fun _ => ?_) fun _ => ?_
  · refine (keeps_select keeps).bind fun query query' queries => ?_
    refine (keeps_expectSymbol (by decide)).bind fun _ _ _ => ?_
    exact follows_pure (congrArg InsertSource.query queries)
  refine (keeps_acceptKeyword _).bind ?_
  rintro defaults _ rfl
  refine follows_if rfl (fun _ => ?_) fun _ => follows_unexpected
  exact (keeps_expectKeyword _).bind fun _ _ _ => follows_pure rfl

theorem keeps_onDuplicate :
    Keeps r (onDuplicate nested) (onDuplicate nested') fun assignments assignments' =>
      assignments'.map (Assignment.named .identity) =
        assignments.map (Assignment.named r.names) := by
  refine (keeps_acceptKeyword _).bind ?_
  rintro duplicates _ rfl
  refine follows_if rfl (fun _ => ?_) fun _ => follows_pure rfl
  refine (keeps_expectWord (by decide)).bind fun _ _ _ => ?_
  refine (keeps_expectWord (by decide)).bind fun _ _ _ => ?_
  refine (keeps_expectKeyword _).bind fun _ _ _ => ?_
  exact (keeps_commaList (keeps_assignment keeps)).imp fun _ _ => map_eq_of_forall₂

theorem keeps_insert :
    Keeps r (insert nested) (insert nested') fun s s' =>
      Statement.named .identity (.insert s') = Statement.named r.names (.insert s) := by
  refine (keeps_expectKeyword _).bind fun _ _ _ => ?_
  refine Follows.bind (keeps_discard (keeps_acceptWord (by decide))) fun _ _ _ => ?_
  refine Follows.bind (keeps_discard (keeps_acceptKeyword _)) fun _ _ _ => ?_
  refine keeps_qualifiedName.bind ?_
  rintro ⟨schema, table⟩ _ rfl
  refine keeps_columnList.bind ?_
  rintro columns _ rfl
  refine (keeps_insertSource keeps).bind fun source source' sources => ?_
  refine (keeps_onDuplicate keeps).bind fun duplicates duplicates' assignments => ?_
  refine follows_pure ?_
  simp only [Statement.named, Statement.insert.injEq, Insert.mk.injEq, sources, assignments]
  cases schema <;> simp [mapTable, NameMap.identity, Respelling.names]

theorem keeps_update :
    Keeps r (update nested) (update nested') fun s s' =>
      Statement.named .identity (.update s') = Statement.named r.names (.update s) := by
  refine (keeps_expectKeyword _).bind fun _ _ _ => keeps_qualifiedName.bind ?_
  rintro ⟨schema, table⟩ _ rfl
  refine keeps_tableLabel.bind ?_
  rintro label _ rfl
  refine (keeps_expectKeyword _).bind fun _ _ _ => ?_
  refine (keeps_commaList (keeps_assignment keeps)).bind fun _ _ assignments => ?_
  refine (keeps_optional keeps _).bind fun condition condition' conditions => follows_pure ?_
  change namedOption _ _ = namedOption _ _ at conditions
  simp only [Statement.named, Statement.update.injEq, Update.mk.injEq,
    map_eq_of_forall₂ assignments, conditions]
  cases schema <;> cases label <;> simp [mapTable, NameMap.identity, Respelling.names]

theorem keeps_delete :
    Keeps r (delete nested) (delete nested') fun s s' =>
      Statement.named .identity (.delete s') = Statement.named r.names (.delete s) := by
  refine (keeps_expectKeyword _).bind fun _ _ _ => (keeps_expectKeyword _).bind fun _ _ _ => ?_
  refine keeps_qualifiedName.bind ?_
  rintro ⟨schema, table⟩ _ rfl
  refine keeps_tableLabel.bind ?_
  rintro label _ rfl
  refine (keeps_optional keeps _).bind fun condition condition' conditions => follows_pure ?_
  change namedOption _ _ = namedOption _ _ at conditions
  simp only [Statement.named, Statement.delete.injEq, Delete.mk.injEq, conditions]
  cases schema <;> cases label <;> simp [mapTable, NameMap.identity, Respelling.names]

theorem keeps_statementBody :
    Keeps r (statementBody nested) (statementBody nested') fun s s' =>
      s'.named .identity = s.named r.names := by
  refine follows_currentKind_bind fun k _ => ?_
  cases k with
  | keyword word =>
      cases word with
      | SELECT =>
          refine follows_of_keeps ((keeps_select keeps).bind fun _ _ queries => follows_pure ?_)
          exact congrArg Statement.select queries
      | INSERT =>
          exact follows_of_keeps ((keeps_insert keeps).bind fun _ _ same => follows_pure same)
      | UPDATE =>
          exact follows_of_keeps ((keeps_update keeps).bind fun _ _ same => follows_pure same)
      | DELETE =>
          exact follows_of_keeps ((keeps_delete keeps).bind fun _ _ same => follows_pure same)
      | SET => exact follows_unsupported
      | WITH => exact follows_unsupported
      | DESC => exact follows_unsupported
      | _ => exact follows_unexpected
  | identifier word =>
      refine follows_of_fails fun s a t read => ?_
      by_cases opens : unsupportedOpenings.any (sameWord · word) <;>
        simp only [opens] at read <;> cases read
  | _ => exact follows_unexpected

omit keeps in
theorem keeps_statementEnd : Keeps r statementEnd statementEnd fun _ _ => True := by
  refine keeps_remaining.bind ?_
  rintro bound _ rfl
  refine (keeps_skipAll (by decide) bound).bind fun _ _ _ => ?_
  refine follows_currentKind_bind fun k _ => ?_
  cases k with
  | eof => exact follows_pure trivial
  | keyword word =>
      cases word with
      | UNION => exact follows_unsupported
      | INTERSECT => exact follows_unsupported
      | EXCEPT => exact follows_unsupported
      | _ => exact follows_unexpected
  | _ => exact follows_unexpected

theorem keeps_statement :
    Keeps r (statement nested) (statement nested') fun s s' =>
      s'.named .identity = s.named r.names :=
  (keeps_statementBody keeps).bind fun _ _ same =>
    keeps_statementEnd.bind fun _ _ _ => follows_pure same

end Expressions

/-- Rules that nest deeper read what the others do. -/
theorem keeps_nestedTo {depth depth' : Nat} (deeper : depth ≤ depth') :
    NestedKeeps r (nestedTo depth) (nestedTo depth') := by
  induction depth generalizing depth' with
  | zero =>
      exact ⟨fun _ => follows_unexpected, follows_unexpected, follows_unexpected⟩
  | succ depth ih =>
      obtain ⟨depth', rfl⟩ : ∃ d, depth' = d + 1 := Nat.exists_eq_succ_of_ne_zero (by omega)
      have inner : NestedKeeps r (nestedTo depth) (nestedTo depth') := ih (by omega)
      exact ⟨keeps_expression inner, keeps_select inner, keeps_tables inner⟩

/-! ## Whole texts -/

theorem parse_eq (text : String) :
    Statement.parse text =
      match Grammar.statement (nestedTo ((textTokens text).length + 1)) (.ofText text) with
      | .ok statement _ => .ok statement
      | .error e _ => .error e := by
  change (TokenStream.statement _).1 = _
  unfold TokenStream.statement
  change (match Grammar.statement (nestedTo ((textTokens text).length + 1)) _ with
    | .ok parsed rest => (Except.ok parsed, rest)
    | .error reason rest => (.error reason, rest)).1 = _
  split <;> rfl

theorem parse_eq_ok {text : String} {statement : Statement} :
    Statement.parse text = .ok statement ↔
      ∃ t, Grammar.statement (nestedTo ((textTokens text).length + 1)) (.ofText text)
        = .ok statement t := by
  rw [parse_eq]
  cases Grammar.statement (nestedTo ((textTokens text).length + 1)) (.ofText text) <;> simp

/-- A text whose tokens are those of a statement, but for names that are spelled differently, is a
statement again, the same but for names. -/
theorem parse_respelled {text text' : String} {statement : Statement}
    (kinds : tokenKinds text' = r.kinds false (tokenKinds text))
    (labels : KeepsLabels r.name (tokenKinds text))
    (parsed : Statement.parse text = .ok statement) :
    ∃ statement', Statement.parse text' = .ok statement' ∧
      statement'.named .identity = statement.named r.names := by
  obtain ⟨t, read⟩ := parse_eq_ok.mp parsed
  have respelled : Respelled r false (.ofText text) (.ofText text') :=
    ⟨kinds, labels, rfl, rfl, rfl⟩
  obtain ⟨statement', t', read', same, _, _⟩ :=
    keeps_statement (keeps_nestedTo (Nat.le_refl _)) _ _ _ _ respelled trivial read
  refine ⟨statement', parse_eq_ok.mpr ⟨t', ?_⟩, same⟩
  have lengths : (textTokens text').length = (textTokens text).length := respelled.length_eq
  rw [lengths]
  exact read'

end Rules

/-- A statement ends where all semicolons have been passed and nothing is left. -/
theorem statementEnd_ended {s t : TokenStream} {a : Unit} (read : statementEnd s = .ok a t) :
    (∃ bound, skipAll .semicolon bound s = .ok () t) ∧ t.current.kind = .eof := by
  obtain ⟨bound, s₁, counted, read⟩ := read_of_bind read
  obtain ⟨_, s₂, skipped, read⟩ := read_of_bind read
  obtain ⟨k, s₃, looked, read⟩ := read_of_bind read
  cases counted
  cases looked
  generalize at_end : s₂.current.kind = k at read
  cases k with
  | eof =>
      cases read
      exact ⟨⟨_, skipped⟩, at_end⟩
  | keyword word => cases word <;> cases read
  | _ => cases read

/-- The reading that changes no name. -/
def Respelling.identity : Respelling where
  name := id
  type := id
  reserved _ := rfl
  contextual _ _ _ := rfl
  types _ _ := rfl

theorem Respelling.identity_names : identity.names = .identity := by
  funext role name
  cases role <;> rfl

theorem Respelling.identity_kinds (behind : Bool) (kinds : List TokenKind) :
    identity.kinds behind kinds = kinds := by
  induction kinds generalizing behind with
  | nil => rfl
  | cons k rest ih =>
      have kind : identity.kind behind k = k := by
        cases k <;> simp [Respelling.kind, identity]
      rw [Respelling.kinds, ih, kind]

theorem Respelling.identity_keepsLabels (kinds : List TokenKind) :
    KeepsLabels identity.name kinds := by
  induction kinds with
  | nil => trivial
  | cons k rest ih => exact ⟨fun _ _ => rfl, ih⟩

/-- Reading a statement passes every token of its text, and none of them is an error. -/
theorem passes_text {text : String} {statement : Statement} {t : TokenStream}
    (read : Grammar.statement (nestedTo ((textTokens text).length + 1)) (.ofText text)
      = .ok statement t) :
    t.ahead = [] ∧ ∀ reason, .error reason ∉ tokenKinds text := by
  have respelled : Respelled .identity false (.ofText text) (.ofText text) :=
    ⟨(Respelling.identity_kinds _ _).symm, Respelling.identity_keepsLabels _, rfl, rfl, rfl⟩
  obtain ⟨_, _, _, _, _, passes⟩ :=
    keeps_statement (keeps_nestedTo (Nat.le_refl _)) _ _ _ _ respelled trivial read
  obtain ⟨parsed, s, _, read⟩ := read_of_bind read
  obtain ⟨_, s', ended, read⟩ := read_of_bind read
  cases read
  have at_end := (statementEnd_ended ended).2
  obtain ⟨⟨passed, ahead, clear⟩, finish⟩ := passes
  change textTokens text = passed ++ t.ahead at ahead
  -- What is left would start with the mark of the end, which stands in no text.
  have left : t.ahead = [] := by
    cases left : t.ahead with
    | nil => rfl
    | cons first rest =>
        refine absurd ?_ (eof_not_mem_kindsIn text.toList)
        rw [← tokenKinds_eq]
        refine List.mem_map.mpr ⟨first, ?_, ?_⟩
        · simp [ahead, left]
        · simpa [TokenStream.current, left] using at_end
  refine ⟨left, fun reason member => ?_⟩
  obtain ⟨token, inside, kind⟩ := List.mem_map.mp member
  rw [ahead, left, List.append_nil] at inside
  exact clear token inside reason kind

theorem error_not_mem_tokenKinds {text : String} {statement : Statement}
    (parsed : Statement.parse text = .ok statement) (reason : LexError) :
    .error reason ∉ tokenKinds text := by
  obtain ⟨t, read⟩ := parse_eq_ok.mp parsed
  exact (passes_text read).2 reason

end ShardedSql.Sql
