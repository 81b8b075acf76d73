import ShardedSql.Proofs.FilledStatement

/-!
How operators group. An operator tree is put together from literals and columns by operators and
parentheses. Main statement: from the tokens of such a tree it is read again exactly if it is
*grouped*, each operator binding its left operand at least as tight as itself and its right one
tighter; and whatever is read from such tokens is a grouped tree of just these tokens, exactly if no
sign or star stands where an operand is due and no parenthesis makes a name a call.
-/

namespace ShardedSql.Sql

open Numeric Text ShardedSql.Sql.Parser Grammar
open Filling (kindsOf current_kind current_kind_of_kindsOf kindsOf_rest_of_cons length_kindsOf)

/-! ## Operator trees -/

/-- How tightly an operator binds. -/
def BinaryOp.level : BinaryOp → Nat
  | .or => 1
  | .and => 3
  | .eq | .notEq | .lt | .ltEq | .gt | .gtEq | .like | .notLike => 5
  | .bitOr => 7
  | .bitAnd => 9
  | .leftShift | .rightShift => 11
  | .add | .sub | .concat => 13
  | .mul | .div | .mod => 15

/-- The token of an operator; `NOT LIKE` is written with two. -/
def BinaryOp.token? : BinaryOp → Option TokenKind
  | .add => some (.symbol .plus)
  | .sub => some (.symbol .minus)
  | .mul => some (.symbol .star)
  | .div => some (.symbol .slash)
  | .mod => some (.symbol .percent)
  | .eq => some (.symbol .eq)
  | .notEq => some (.symbol .notEq)
  | .lt => some (.symbol .lt)
  | .ltEq => some (.symbol .ltEq)
  | .gt => some (.symbol .gt)
  | .gtEq => some (.symbol .gtEq)
  | .and => some (.keyword .AND)
  | .or => some (.keyword .OR)
  | .concat => some (.symbol .concat)
  | .like => some (.keyword .LIKE)
  | .notLike => none
  | .bitAnd => some (.symbol .bitAnd)
  | .bitOr => some (.symbol .bitOr)
  | .leftShift => some (.symbol .leftShift)
  | .rightShift => some (.symbol .rightShift)

/-- The token of a literal that has a plain one: neither a negative number, nor a floating-point
number or bytes. -/
def Literal.token? : Literal → Option TokenKind
  | .integer n => if 0 ≤ n then some (.integer n) else none
  | .string text => some (.string text)
  | .boolean true => some (.keyword .TRUE)
  | .boolean false => some (.keyword .FALSE)
  | .null => some (.keyword .NULL)
  | .float _ => none
  | .blob _ => none

/-- Literals and columns put together by operators and parentheses. -/
inductive OperatorTree : Expr → Prop where
  | literal {value : Literal} {kind : TokenKind} (token : value.token? = some kind) :
      OperatorTree (.literal value)
  | column (table : Option String) (name : String) (span : Span) :
      OperatorTree (.column table name span)
  | paren {inner : Expr} (tree : OperatorTree inner) : OperatorTree (.paren inner)
  | binary {left right : Expr} {op : BinaryOp} {kind : TokenKind} (token : op.token? = some kind)
      (lefts : OperatorTree left) (rights : OperatorTree right) :
      OperatorTree (.binary left op right)

/-- The tokens of an operator tree from left to right. -/
def Expr.inorder : Expr → List TokenKind
  | .literal value => value.token?.toList
  | .column none name _ => [.identifier name]
  | .column (some table) name _ => [.identifier table, .symbol .dot, .identifier name]
  | .paren inner => .symbol .leftParen :: (inner.inorder ++ [.symbol .rightParen])
  | .binary left op right => left.inorder ++ (op.token?.toList ++ right.inorder)
  | _ => []

/-- The level of the operator an expression is made with, if it stands in no parentheses. -/
def Expr.headLevel? : Expr → Option Nat
  | .binary _ op _ => some op.level
  | _ => none

/-- Every operator binds its left operand at least as tight as itself, and its right one tighter. -/
def Expr.IsGrouped : Expr → Prop
  | .binary left op right =>
      left.IsGrouped ∧ right.IsGrouped ∧ (∀ level ∈ left.headLevel?, op.level ≤ level) ∧
        ∀ level ∈ right.headLevel?, op.level < level
  | .paren inner => inner.IsGrouped
  | _ => True

/-- The expression without the places of its columns. -/
def Expr.unplaced (e : Expr) : Expr :=
  e.named .identity

@[simp]
theorem unplaced_literal (value : Literal) : (Expr.literal value).unplaced = .literal value := by
  rw [Expr.unplaced, Expr.named]

@[simp]
theorem unplaced_column (table : Option String) (name : String) (span : Span) :
    (Expr.column table name span).unplaced = .column table name (.point 0) := by
  cases table <;> rw [Expr.unplaced, Expr.named] <;> rfl

@[simp]
theorem unplaced_paren (inner : Expr) : (Expr.paren inner).unplaced = .paren inner.unplaced := by
  rw [Expr.unplaced, Expr.named, Expr.unplaced]

@[simp]
theorem unplaced_binary (left right : Expr) (op : BinaryOp) :
    (Expr.binary left op right).unplaced = .binary left.unplaced op right.unplaced := by
  simp only [Expr.unplaced, Expr.named]

/-- The stream is one expression from its first to its last token. -/
def TokenStream.ReadsWhole (s : TokenStream) (e : Expr) : Prop :=
  ∃ t, anyExpression (nestedTo (s.ahead.length + 1)) s = .ok e t ∧ t.ahead = []

/-! ## Tokens of operator trees -/

/-- The tokens that operator trees are written with. -/
def isOperatorToken : TokenKind → Bool
  | .integer n => decide (0 ≤ n)
  | .string _ | .identifier _ => true
  | kind =>
      [.keyword .TRUE, .keyword .FALSE, .keyword .NULL, .symbol .leftParen, .symbol .rightParen,
        .symbol .dot].contains kind || BinaryOp.all.any fun op => op.token? == some kind

/-- Whether an operand is due behind a token. -/
def opensOperand (before : TokenKind) : Bool :=
  before == .symbol .leftParen || BinaryOp.all.any fun op => op.token? == some before

/-- Whether a token is behind another what it is in an operator tree: a sign or a star between
operands, and a parenthesis in front of one. -/
def isPlainBehind (before : TokenKind) : TokenKind → Bool
  | .symbol .plus | .symbol .minus => !opensOperand before
  | .symbol .star => !opensOperand before && before != .symbol .dot
  | .symbol .leftParen =>
      match before with
      | .identifier _ => false
      | _ => true
  | _ => true

def isPlainFrom : TokenKind → List TokenKind → Bool
  | _, [] => true
  | before, kind :: rest => isPlainBehind before kind && isPlainFrom kind rest

/-- Whether all tokens are what they are in an operator tree; the first one starts an operand. -/
def isPlainRun (kinds : List TokenKind) : Bool :=
  isPlainFrom (.symbol .leftParen) kinds

theorem BinaryOp.mem_all (op : BinaryOp) : op ∈ BinaryOp.all := by
  cases op <;> decide

theorem Literal.token?_cases {value : Literal} {kind : TokenKind}
    (token : value.token? = some kind) :
    (∃ n, 0 ≤ n ∧ value = .integer n ∧ kind = .integer n) ∨
      (∃ text, value = .string text ∧ kind = .string text) ∨
      (value = .boolean true ∧ kind = .keyword .TRUE) ∨
      (value = .boolean false ∧ kind = .keyword .FALSE) ∨
      value = .null ∧ kind = .keyword .NULL := by
  cases value with
  | integer n =>
      simp only [Literal.token?, Option.ite_none_right_eq_some, Option.some.injEq] at token
      exact .inl ⟨n, token.1, rfl, token.2.symm⟩
  | boolean b => cases b <;> cases token <;> simp
  | _ => cases token <;> simp

theorem continuation?_token {op : BinaryOp} {kind : TokenKind} (token : op.token? = some kind) :
    continuation? kind = some (op.level, .operator op) := by
  cases op <;> cases token <;> rfl

theorem opensOperand_iff {kind : TokenKind} :
    opensOperand kind = true ↔
      kind = .symbol .leftParen ∨ ∃ op : BinaryOp, op.token? = some kind := by
  simp only [opensOperand, Bool.or_eq_true, List.any_eq_true, beq_iff_eq, BinaryOp.mem_all,
    true_and]

theorem opensOperand_token {op : BinaryOp} {kind : TokenKind} (token : op.token? = some kind) :
    opensOperand kind = true :=
  opensOperand_iff.mpr (.inr ⟨op, token⟩)

/-- What continues an operand in an operator tree is an operator. -/
theorem exists_operator {kind : TokenKind} {level : Nat} {form : Continuation}
    (member : isOperatorToken kind = true) (continues : continuation? kind = some (level, form)) :
    ∃ op : BinaryOp, op.token? = some kind ∧ level = op.level ∧ form = .operator op := by
  cases kind with
  | keyword word =>
      cases word <;> cases continues <;>
        first | exact ⟨_, rfl, rfl, rfl⟩ | exact absurd member (by decide)
  | symbol mark =>
      cases mark <;> cases continues <;> exact ⟨_, rfl, rfl, rfl⟩
  | _ => cases continues

/-! ## Operator trees are written plainly -/

section Written

variable {before : TokenKind} {rest : List TokenKind} {e : Expr}

theorem isOperatorToken_operator {op : BinaryOp} {kind : TokenKind}
    (token : op.token? = some kind) : isOperatorToken kind = true := by
  cases op <;> cases token <;> decide

theorem isOperatorToken_literal {value : Literal} {kind : TokenKind}
    (token : value.token? = some kind) : isOperatorToken kind = true := by
  rcases Literal.token?_cases token with
    ⟨n, nonneg, -, rfl⟩ | ⟨text, -, rfl⟩ | ⟨-, rfl⟩ | ⟨-, rfl⟩ | ⟨-, rfl⟩
  · exact decide_eq_true nonneg
  all_goals rfl

theorem isOperatorToken_inorder (tree : OperatorTree e) :
    ∀ kind ∈ e.inorder, isOperatorToken kind = true := by
  induction tree with
  | literal token =>
      rw [Expr.inorder, token]
      simpa using isOperatorToken_literal token
  | column table name span =>
      cases table with
      | none => exact List.forall_mem_singleton.mpr rfl
      | some table =>
          simp only [Expr.inorder, List.mem_cons, List.not_mem_nil, or_false]
          rintro kind (rfl | rfl | rfl) <;> rfl
  | paren tree inner =>
      simp only [Expr.inorder, List.mem_cons, List.mem_append, List.not_mem_nil, or_false]
      rintro kind (rfl | member | rfl)
      · rfl
      · exact inner kind member
      · rfl
  | binary token lefts rights left right =>
      simp only [Expr.inorder, token, Option.toList_some, List.mem_append, List.mem_singleton]
      rintro kind (member | rfl | member)
      · exact left kind member
      · exact isOperatorToken_operator token
      · exact right kind member

/-- A token that an operand may end with. -/
def closesOperand (last : TokenKind) : Prop :=
  opensOperand last = false ∧ last ≠ .symbol .dot

theorem closesOperand_of_not_operator {last : TokenKind}
    (not_operator : ∀ op : BinaryOp, op.token? ≠ some last) (not_paren : last ≠ .symbol .leftParen)
    (not_dot : last ≠ .symbol .dot) : closesOperand last := by
  refine ⟨Bool.eq_false_iff.mpr fun opens => ?_, not_dot⟩
  rcases opensOperand_iff.mp opens with paren | ⟨op, token⟩
  · exact not_paren paren
  · exact not_operator op token

theorem closesOperand_literal {value : Literal} {kind : TokenKind}
    (token : value.token? = some kind) : closesOperand kind := by
  rcases Literal.token?_cases token with
    ⟨n, -, -, rfl⟩ | ⟨text, -, rfl⟩ | ⟨-, rfl⟩ | ⟨-, rfl⟩ | ⟨-, rfl⟩ <;>
    exact closesOperand_of_not_operator (fun op => by cases op <;> nofun) nofun nofun

theorem closesOperand_identifier (name : String) : closesOperand (.identifier name) :=
  closesOperand_of_not_operator (fun op => by cases op <;> nofun) nofun nofun

theorem isPlainBehind_literal {value : Literal} {kind : TokenKind}
    (token : value.token? = some kind) : isPlainBehind before kind = true := by
  rcases Literal.token?_cases token with
    ⟨n, -, -, rfl⟩ | ⟨text, -, rfl⟩ | ⟨-, rfl⟩ | ⟨-, rfl⟩ | ⟨-, rfl⟩ <;> rfl

theorem isPlainBehind_operator {op : BinaryOp} {kind : TokenKind} (token : op.token? = some kind)
    (closes : closesOperand before) : isPlainBehind before kind = true := by
  obtain ⟨closed, no_dot⟩ := closes
  cases op <;> cases token <;> simp [isPlainBehind, closed, no_dot]

theorem isPlainBehind_leftParen (opens : opensOperand before = true) :
    isPlainBehind before (.symbol .leftParen) = true := by
  cases before with
  | identifier name => exact absurd opens (Bool.not_eq_true _ ▸ (closesOperand_identifier name).1)
  | _ => rfl

theorem isPlainFrom_inorder (tree : OperatorTree e) (opens : opensOperand before = true)
    (plain : ∀ last, closesOperand last → isPlainFrom last rest = true) :
    isPlainFrom before (e.inorder ++ rest) = true := by
  induction tree generalizing before rest with
  | @literal value kind token =>
      have closes : isPlainFrom kind rest = true := plain kind (closesOperand_literal token)
      simp [Expr.inorder, token, isPlainFrom, isPlainBehind_literal token, closes]
  | column table name span =>
      have closes : isPlainFrom (.identifier name) rest = true :=
        plain _ (closesOperand_identifier name)
      cases table <;> simp [Expr.inorder, isPlainFrom, isPlainBehind, closes]
  | paren tree inner =>
      have closes : isPlainFrom (.symbol .rightParen) rest = true :=
        plain _ (closesOperand_of_not_operator (fun op => by cases op <;> nofun) nofun nofun)
      have inside : isPlainFrom (.symbol .leftParen) (_ ++ .symbol .rightParen :: rest) = true :=
        inner (opensOperand_iff.mpr (.inl rfl)) fun last _ => by
          simp [isPlainFrom, isPlainBehind, closes]
      simp [Expr.inorder, isPlainFrom, isPlainBehind_leftParen opens, inside]
  | @binary left right op kind token lefts rights left_plain right_plain =>
      have behind : isPlainFrom kind (right.inorder ++ rest) = true :=
        right_plain (opensOperand_token token) plain
      have whole : isPlainFrom before (left.inorder ++ kind :: (right.inorder ++ rest)) = true :=
        left_plain opens fun last closes => by
          simp [isPlainFrom, isPlainBehind_operator token closes, behind]
      simpa [Expr.inorder, token] using whole

theorem isPlainRun_inorder (tree : OperatorTree e) : isPlainRun e.inorder = true := by
  have plain : isPlainFrom (.symbol .leftParen) (e.inorder ++ []) = true :=
    isPlainFrom_inorder tree (opensOperand_iff.mpr (.inl rfl)) fun _ _ => rfl
  rwa [List.append_nil] at plain

theorem isPlainFrom_of_append {kind : TokenKind} :
    ∀ {before : TokenKind} {written : List TokenKind},
      isPlainFrom before (written ++ kind :: rest) = true → isPlainFrom kind rest = true
  | _, [], plain => (Bool.and_eq_true_iff.mp plain).2
  | _, _ :: _, plain => isPlainFrom_of_append (Bool.and_eq_true_iff.mp plain).2

end Written

/-! ## Operands -/

section Operands

variable {nested : Nested} {s : TokenStream}

theorem primary_literal {value : Literal} (token : value.token? = some s.current.kind) :
    primary nested s = .ok (.literal value) s.rest := by
  unfold primary
  rw [current_bind]
  rcases Literal.token?_cases token with
    ⟨n, -, rfl, here⟩ | ⟨text, rfl, here⟩ | ⟨rfl, here⟩ | ⟨rfl, here⟩ | ⟨rfl, here⟩ <;>
    (simp only [here]; rfl)

theorem primary_name {name : String} (here : s.current.kind = .identifier name) :
    primary nested s = afterName nested name s.current.span s.rest := by
  unfold primary
  rw [current_bind]
  simp only [here]
  rfl

/-- What stands behind a name and a point. -/
def behindPoint (name : String) (span : Span) : Parser Expr := do
  if ← acceptSymbol .star then
    return .wildcard (some name)
  else
    let columnSpan := (← current).span
    let column ← identifier
    return .column (some name) column (span.merge columnSpan)

theorem afterName_eq {name : String} {span : Span} (bare : s.current.kind ≠ .symbol .leftParen) :
    afterName nested name span s =
      if s.current.kind = .symbol .dot then behindPoint name span s.rest
      else .ok (.column none name span) s := by
  unfold afterName
  rw [bind_ok (p := atSymbol .leftParen) (isAt_eq _ s), beq_eq_false_iff_ne.mpr bare]
  by_cases dot : s.current.kind = .symbol .dot
  · rw [if_pos dot, if_neg (by simp)]
    exact bind_ok (accept_of_eq dot)
  · rw [if_neg dot, if_neg (by simp)]
    exact bind_ok (accept_of_ne dot)

theorem behindPoint_eq_ok {name : String} {span : Span} {e : Expr} {t : TokenStream}
    (no_star : s.current.kind ≠ .symbol .star) :
    behindPoint name span s = .ok e t ↔
      ∃ column, s.current.kind = .identifier column ∧
        e = .column (some name) column (span.merge s.current.span) ∧ t = s.rest := by
  unfold behindPoint
  rw [bind_ok (p := acceptSymbol .star) (accept_of_ne no_star)]
  constructor
  · intro read
    obtain ⟨token, u, looked, read⟩ := read_of_bind read
    cases looked
    obtain ⟨column, u, named, read⟩ := read_of_bind read
    obtain ⟨here, rfl⟩ := identifier_eq_ok.mp named
    cases read
    exact ⟨column, here, rfl, rfl⟩
  · rintro ⟨column, here, rfl, rfl⟩
    have named : identifier s = .ok column s.rest := identifier_eq_ok.mpr ⟨here, rfl⟩
    exact bind_ok named

end Operands

/-! ## Operators behind an operand -/

section Behind

variable {nested : Nested} {s : TokenStream} {least bound : Nat} {operand : Expr}

/-- The token continues no operand whose operators have at least the given level. -/
def StopsBelow (least : Nat) (kind : TokenKind) : Prop :=
  ∀ level form, continuation? kind = some (level, form) → level < least

theorem StopsBelow.mono {least' : Nat} {kind : TokenKind} (stops : StopsBelow least kind)
    (larger : least ≤ least') : StopsBelow least' kind :=
  fun level form continues => (stops level form continues).trans_le larger

theorem stopsBelow_of_none {kind : TokenKind} (none : continuation? kind = none) :
    StopsBelow least kind := by
  intro level form continues
  rw [none] at continues
  cases continues

theorem continued_of_stopsBelow (stops : StopsBelow least s.current.kind) :
    continued nested least bound operand s = .ok operand s :=
  continued_stops fun next found => stops next.1 next.2 found

theorem continued_operator {op : BinaryOp} (here : op.token? = some s.current.kind)
    (tight : least ≤ op.level) :
    continued nested least (bound + 1) operand s =
      (do
        let right ← nested.expression (op.level + 1)
        continued nested least bound (.binary operand op right) : Parser Expr) s.rest := by
  rw [continued, currentKind_bind]
  simp only [continuation?_token here]
  rw [if_neg (Nat.not_lt.mpr tight), advance_bind]
  simp only [extend, bind_assoc, pure_bind]

end Behind

/-! ## Grouped trees are read -/

section Completeness

variable {nested : Nested} {s : TokenStream} {rest : List TokenKind} {e : Expr} {room least : Nat}

/-- The token may stand behind an operand: it makes no call and no qualified column of it. -/
def StandsBehind (kind : TokenKind) : Prop :=
  kind ≠ .symbol .leftParen ∧ kind ≠ .symbol .dot

/-- The reader of expressions of a level reads each grouped operator tree that is due, if no more
tokens are ahead than it has room for. -/
def Completes (read : Nat → Parser Expr) (room : Nat) : Prop :=
  ∀ {e : Expr} {s : TokenStream} {rest : List TokenKind} (least : Nat),
    OperatorTree e → e.IsGrouped → kindsOf s = e.inorder ++ rest → s.ahead.length ≤ room →
    (∀ level ∈ e.headLevel?, least ≤ level) → StandsBehind (rest.headD s.finish.kind) →
    StopsBelow least (rest.headD s.finish.kind) →
    ∃ e' t, read least s = .ok e' t ∧ e'.unplaced = e.unplaced ∧ kindsOf t = rest ∧
      t.finish = s.finish

theorem length_ahead {t : TokenStream} (written : List TokenKind)
    (ahead : kindsOf s = written ++ kindsOf t) :
    s.ahead.length = written.length + t.ahead.length := by
  rw [← length_kindsOf, ahead, List.length_append, length_kindsOf]

theorem standsBehind_operator {op : BinaryOp} {kind : TokenKind} (token : op.token? = some kind) :
    StandsBehind kind := by
  cases op <;> cases token <;> exact ⟨nofun, nofun⟩

/-- The first token of an operator tree is no sign and opens no query. -/
theorem exists_inorder_eq_cons (tree : OperatorTree e) :
    ∃ kind others, e.inorder = kind :: others ∧ sign? kind = none ∧ kind ≠ .keyword .SELECT := by
  induction tree with
  | @literal value kind token =>
      refine ⟨kind, [], by simp [Expr.inorder, token], ?_⟩
      rcases Literal.token?_cases token with
        ⟨n, -, -, rfl⟩ | ⟨text, -, rfl⟩ | ⟨-, rfl⟩ | ⟨-, rfl⟩ | ⟨-, rfl⟩ <;> exact ⟨rfl, nofun⟩
  | column table name span => cases table <;> exact ⟨_, _, rfl, rfl, nofun⟩
  | paren tree inner => exact ⟨_, _, rfl, rfl, nofun⟩
  | binary token lefts rights left right =>
      obtain ⟨kind, others, first, unsigned, no_query⟩ := left
      exact ⟨kind, _, by rw [Expr.inorder, first, List.cons_append], unsigned, no_query⟩

/-- An operand without operators of its own is read up to what stands behind it. -/
theorem expression_of_primary {e' : Expr} {t : TokenStream} (unsigned : sign? s.current.kind = none)
    (read : primary nested s = .ok e' t) :
    expression nested least s = continued nested least t.ahead.length e' t :=
  expression_of_signed ((signed_eq_primary unsigned).trans read)

/-- An operand without operators of its own is read as one. -/
theorem primary_of_tree (inner : Completes nested.expression room) (tree : OperatorTree e)
    (single : e.headLevel? = none) (grouped : e.IsGrouped) (ahead : kindsOf s = e.inorder ++ rest)
    (enough : s.ahead.length ≤ room + 1) (behind : StandsBehind (rest.headD s.finish.kind)) :
    ∃ e' t, primary nested s = .ok e' t ∧ e'.unplaced = e.unplaced ∧ kindsOf t = rest ∧
      t.finish = s.finish := by
  cases tree with
  | @literal value kind token =>
      simp only [Expr.inorder, token, Option.toList_some, List.singleton_append] at ahead
      have here : value.token? = some s.current.kind :=
        token.trans (congrArg some (current_kind_of_kindsOf ahead).symm)
      exact ⟨_, s.rest, primary_literal here, rfl, kindsOf_rest_of_cons ahead, rfl⟩
  | column table name span =>
      cases table with
      | none =>
          have here := current_kind_of_kindsOf ahead
          have ahead_behind := kindsOf_rest_of_cons ahead
          have next : s.rest.current.kind = rest.headD s.finish.kind := by
            rw [current_kind, ahead_behind]
            rfl
          refine ⟨.column none name s.current.span, s.rest, ?_, by simp, ahead_behind, rfl⟩
          rw [primary_name here, afterName_eq (next ▸ behind.1), if_neg (next ▸ behind.2)]
      | some table =>
          have here := current_kind_of_kindsOf ahead
          have ahead_dot := kindsOf_rest_of_cons ahead
          have dot := current_kind_of_kindsOf ahead_dot
          have ahead_name := kindsOf_rest_of_cons ahead_dot
          have named := current_kind_of_kindsOf ahead_name
          have no_star : s.rest.rest.current.kind ≠ .symbol .star := by simp [named]
          have read : primary nested s = behindPoint table s.current.span s.rest.rest := by
            rw [primary_name here, afterName_eq (by simp [dot]), if_pos dot]
          exact ⟨_, _, read.trans ((behindPoint_eq_ok no_star).mpr ⟨name, named, rfl, rfl⟩),
            by simp, kindsOf_rest_of_cons ahead_name, rfl⟩
  | @paren inside tree =>
      simp only [Expr.inorder, List.cons_append, List.append_assoc] at ahead
      have here := current_kind_of_kindsOf ahead
      have ahead_inside := kindsOf_rest_of_cons ahead
      obtain ⟨kind, others, first, _, no_query⟩ := exists_inorder_eq_cons tree
      have not_query : s.rest.current.kind ≠ .keyword .SELECT := by
        rw [first] at ahead_inside
        rwa [current_kind_of_kindsOf ahead_inside]
      -- The parenthesis takes one token of the room, so the reader inside can be used.
      have one : s.ahead.length = 1 + s.rest.ahead.length :=
        length_ahead [.symbol .leftParen] (by rw [ahead, ahead_inside]; rfl)
      obtain ⟨inside', t, read, same, ahead_paren, finish⟩ :=
        inner 0 tree grouped ahead_inside (by omega) (fun _ _ => Nat.zero_le _)
          ⟨nofun, nofun⟩ (stopsBelow_of_none rfl)
      refine ⟨.paren inside', t.rest, ?_, by simp [same], kindsOf_rest_of_cons ahead_paren, finish⟩
      rw [primary_paren here, afterParen_eq_ok not_query]
      exact ⟨inside', t, read, current_kind_of_kindsOf ahead_paren, rfl, rfl⟩
  | binary token lefts rights => cases single

/-- Behind an operand without operators of its own the reader goes on with what stands there. -/
theorem expression_single (inner : Completes nested.expression room) (tree : OperatorTree e)
    (single : e.headLevel? = none) (grouped : e.IsGrouped) (ahead : kindsOf s = e.inorder ++ rest)
    (enough : s.ahead.length ≤ room + 1) (behind : StandsBehind (rest.headD s.finish.kind)) :
    ∃ e' t bound, expression nested least s = continued nested least bound e' t ∧
      t.ahead.length ≤ bound ∧ e'.unplaced = e.unplaced ∧ kindsOf t = rest ∧
      t.finish = s.finish := by
  obtain ⟨kind, others, first, unsigned, _⟩ := exists_inorder_eq_cons tree
  have here : s.current.kind = kind := current_kind_of_kindsOf (by rw [ahead, first]; rfl)
  obtain ⟨e', t, read, same⟩ := primary_of_tree inner tree single grouped ahead enough behind
  exact ⟨e', t, _, expression_of_primary (here ▸ unsigned) read, le_rfl, same⟩

/-- Whatever the least level is, the reader takes a grouped tree up and goes on behind it, if what
stands there binds no tighter than the tree's own operator. -/
theorem expression_spine (inner : Completes nested.expression room) (tree : OperatorTree e)
    (grouped : e.IsGrouped) (ahead : kindsOf s = e.inorder ++ rest)
    (enough : s.ahead.length ≤ room + 1) (tight : ∀ level ∈ e.headLevel?, least ≤ level)
    (behind : StandsBehind (rest.headD s.finish.kind))
    (next : ∀ level ∈ e.headLevel?, StopsBelow (level + 1) (rest.headD s.finish.kind)) :
    ∃ e' t bound, expression nested least s = continued nested least bound e' t ∧
      t.ahead.length ≤ bound ∧ e'.unplaced = e.unplaced ∧ kindsOf t = rest ∧
      t.finish = s.finish := by
  -- Along the left operands, which the same run of the reader takes up one after the other; the
  -- right ones are read by a run of their own.
  induction tree generalizing s rest least with
  | literal token => exact expression_single inner (.literal token) rfl grouped ahead enough behind
  | column table name span =>
      exact expression_single inner (.column table name span) rfl grouped ahead enough behind
  | paren tree _ => exact expression_single inner (.paren tree) rfl grouped ahead enough behind
  | @binary left right op kind token lefts rights left_spine _ =>
      obtain ⟨left_grouped, right_grouped, left_tight, right_tight⟩ := grouped
      simp only [Expr.inorder, token, Option.toList_some, List.append_assoc,
        List.singleton_append] at ahead
      have tight_here : least ≤ op.level := tight _ rfl
      have next_left : ∀ level ∈ left.headLevel?, StopsBelow (level + 1) kind := by
        intro level here level' form continues
        cases (continuation?_token token).symm.trans continues
        exact Nat.lt_succ_of_le (left_tight level here)
      obtain ⟨left', t, bound, read, within, same_left, ahead_left, finish⟩ :=
        left_spine left_grouped ahead enough
          (fun level here => tight_here.trans (left_tight level here))
          (standsBehind_operator token) next_left
      have ahead_right := kindsOf_rest_of_cons ahead_left
      have fewer : s.ahead.length = left.inorder.length + t.ahead.length :=
        length_ahead _ (by rw [ahead, ahead_left])
      have one : t.ahead.length = 1 + t.rest.ahead.length :=
        length_ahead [kind] (by rw [ahead_left, ahead_right]; rfl)
      obtain ⟨right', u, read_right, same_right, ahead_behind, finish_right⟩ :=
        inner (op.level + 1) rights right_grouped ahead_right (by omega)
          right_tight (finish ▸ behind) (finish ▸ next _ rfl)
      have shorter : t.rest.ahead.length = right.inorder.length + u.ahead.length :=
        length_ahead _ (by rw [ahead_right, ahead_behind]; rfl)
      obtain ⟨bound, rfl⟩ : ∃ fewer, bound = fewer + 1 := ⟨bound - 1, by omega⟩
      have here : op.token? = some t.current.kind := by
        rw [current_kind_of_kindsOf ahead_left, token]
      refine ⟨.binary left' op right', u, bound, ?_, by omega, ?_, ahead_behind,
        finish_right.trans finish⟩
      · rw [read, continued_operator here tight_here, bind_ok read_right]
      · rw [unplaced_binary, unplaced_binary, same_left, same_right]

theorem completes_expression (inner : Completes nested.expression room) :
    Completes (expression nested) (room + 1) := by
  intro e s rest least tree grouped ahead enough tight behind stops
  have next : ∀ level ∈ e.headLevel?, StopsBelow (level + 1) (rest.headD s.finish.kind) :=
    fun level here => stops.mono ((tight level here).trans (Nat.le_succ level))
  obtain ⟨e', t, bound, read, _, same, ahead_behind, finish⟩ :=
    expression_spine inner tree grouped ahead enough tight behind next
  have stops_here : StopsBelow least t.current.kind := by
    rwa [current_kind, ahead_behind, finish]
  exact ⟨e', t, read.trans (continued_of_stopsBelow stops_here), same, ahead_behind, finish⟩

theorem completes_nestedTo (depth : Nat) : Completes (nestedTo depth).expression depth := by
  induction depth with
  | zero =>
      intro e s rest least tree _ ahead enough
      obtain ⟨kind, others, first, _⟩ := exists_inorder_eq_cons tree
      rw [← length_kindsOf, ahead, first] at enough
      cases enough
  | succ depth inner => exact completes_expression inner

/-- Grouped trees are read from their tokens. -/
theorem exists_readsWhole (tree : OperatorTree e) (grouped : e.IsGrouped)
    (ends : s.finish.kind = .eof) (ahead : kindsOf s = e.inorder) :
    ∃ e', s.ReadsWhole e' ∧ e'.unplaced = e.unplaced := by
  have behind : ([] : List TokenKind).headD s.finish.kind = .eof := ends
  obtain ⟨e', t, read, same, ahead_behind, _⟩ :=
    completes_nestedTo (s.ahead.length + 1) 0 tree grouped
      (ahead.trans (List.append_nil _).symm) (Nat.le_succ _) (fun _ _ => Nat.zero_le _)
      (behind ▸ ⟨nofun, nofun⟩) (behind ▸ stopsBelow_of_none rfl)
  exact ⟨e', ⟨t, read, List.map_eq_nil_iff.mp ahead_behind⟩, same⟩

end Completeness

/-! ## What is read is grouped -/

section Soundness

variable {nested : Nested} {s t : TokenStream} {e : Expr} {least : Nat}

/-- An operand is due, and all tokens that are ahead are what they are in an operator tree. -/
structure StartsPlain (s : TokenStream) : Prop where
  tokens : ∀ kind ∈ kindsOf s, isOperatorToken kind = true
  plain : ∃ before, opensOperand before = true ∧ isPlainFrom before (kindsOf s) = true
  ends : s.finish.kind = .eof

/-- The tokens from the first stream to the second are those of a grouped tree. -/
structure ReadsGrouped (s : TokenStream) (e : Expr) (t : TokenStream) : Prop where
  tree : OperatorTree e
  grouped : e.IsGrouped
  ahead : kindsOf s = e.inorder ++ kindsOf t
  finish : t.finish = s.finish

/-- The reader of expressions of a level reads grouped trees, as far as the level goes. -/
def Sound (read : Nat → Parser Expr) : Prop :=
  ∀ {least : Nat} {s t : TokenStream} {e : Expr}, StartsPlain s → read least s = .ok e t →
    ReadsGrouped s e t ∧ (∀ level ∈ e.headLevel?, least ≤ level) ∧ StopsBelow least t.current.kind

theorem kindsOf_eq_cons (ends : s.finish.kind = .eof) (more : s.current.kind ≠ .eof) :
    kindsOf s = s.current.kind :: kindsOf s.rest := by
  obtain ⟨ahead, finish, ordinal⟩ := s
  cases ahead with
  | nil => exact absurd ends more
  | cons token ahead => rfl

theorem isOperatorToken_cases {kind : TokenKind} (member : isOperatorToken kind = true) :
    (∃ value : Literal, value.token? = some kind) ∨ (∃ name, kind = .identifier name) ∨
      kind = .symbol .leftParen ∨ kind = .symbol .rightParen ∨ kind = .symbol .dot ∨
        ∃ op : BinaryOp, op.token? = some kind := by
  have operator (found : (BinaryOp.all.any fun op => op.token? == some kind) = true) :
      ∃ op : BinaryOp, op.token? = some kind := by
    obtain ⟨op, -, token⟩ := List.any_eq_true.mp found
    exact ⟨op, eq_of_beq token⟩
  unfold isOperatorToken at member
  split at member
  · next n => exact .inl ⟨.integer n, if_pos (of_decide_eq_true member)⟩
  · next text => exact .inl ⟨.string text, rfl⟩
  · next name => exact .inr (.inl ⟨name, rfl⟩)
  · rcases Bool.or_eq_true_iff.mp member with listed | found
    · simp only [List.contains_iff_mem, List.mem_cons, List.not_mem_nil, or_false] at listed
      rcases listed with rfl | rfl | rfl | paren | paren | dot
      · exact .inl ⟨.boolean true, rfl⟩
      · exact .inl ⟨.boolean false, rfl⟩
      · exact .inl ⟨.null, rfl⟩
      · exact .inr (.inr (.inl paren))
      · exact .inr (.inr (.inr (.inl paren)))
      · exact .inr (.inr (.inr (.inr (.inl dot))))
    · exact .inr (.inr (.inr (.inr (.inr (operator found)))))

/-- Behind a token that opens an operand another one is due. -/
theorem StartsPlain.later (starts : StartsPlain s) (written : List TokenKind) {kind : TokenKind}
    (ahead : kindsOf s = written ++ kind :: kindsOf t) (opens : opensOperand kind = true)
    (finish : t.finish = s.finish) : StartsPlain t := by
  obtain ⟨before, _, plain⟩ := starts.plain
  rw [ahead] at plain
  refine ⟨fun other member => ?_, ⟨kind, opens, isPlainFrom_of_append plain⟩,
    finish ▸ starts.ends⟩
  exact starts.tokens other (by simp [ahead, member])

theorem StartsPlain.isPlainBehind (starts : StartsPlain s) (more : s.current.kind ≠ .eof) :
    ∃ before, opensOperand before = true ∧ isPlainBehind before s.current.kind = true := by
  obtain ⟨before, opens, plain⟩ := starts.plain
  rw [kindsOf_eq_cons starts.ends more] at plain
  exact ⟨before, opens, (Bool.and_eq_true_iff.mp plain).1⟩

theorem StartsPlain.behind (starts : StartsPlain s) (written : List TokenKind)
    {kind next : TokenKind} {rest : List TokenKind}
    (ahead : kindsOf s = written ++ kind :: next :: rest) :
    Sql.isPlainBehind kind next = true := by
  obtain ⟨before, -, plain⟩ := starts.plain
  rw [ahead] at plain
  exact (Bool.and_eq_true_iff.mp (isPlainFrom_of_append plain)).1

theorem StartsPlain.isOperatorToken_current (starts : StartsPlain s)
    (more : s.current.kind ≠ .eof) : isOperatorToken s.current.kind = true := by
  refine starts.tokens _ ?_
  rw [kindsOf_eq_cons starts.ends more]
  exact List.mem_cons_self

/-- No operand starts with an operator that may stand where it does. -/
theorem primary_operator {before : TokenKind} {op : BinaryOp}
    (token : op.token? = some s.current.kind) (opens : opensOperand before = true)
    (plain : isPlainBehind before s.current.kind = true) :
    sign? s.current.kind = none ∧ ∀ nested e t, primary nested s ≠ .ok e t := by
  cases op with
  | add | sub | mul =>
      simp only [BinaryOp.token?, Option.some.injEq] at token
      rw [← token] at plain
      simp [isPlainBehind, opens] at plain
  | notLike => cases token
  | _ =>
      have here := Option.some.inj token
      refine ⟨by rw [← here]; rfl, fun nested e t => ?_⟩
      unfold primary
      rw [current_bind, ← here]
      nofun

theorem primary_ne_ok {kind : TokenKind} (here : s.current.kind = kind)
    (member : kind ∈ [.eof, .symbol .rightParen, .symbol .dot]) : primary nested s ≠ .ok e t := by
  unfold primary
  rw [current_bind]
  simp only [List.mem_cons, List.not_mem_nil, or_false] at member
  rcases member with rfl | rfl | rfl <;> (simp only [here]; rintro ⟨⟩)

/-- Where an operand is due, no sign stands, and an operand is a literal or starts with a name or
with a parenthesis. -/
theorem StartsPlain.current_cases (starts : StartsPlain s) :
    sign? s.current.kind = none ∧ ∀ nested e t, primary nested s = .ok e t →
      (∃ value : Literal, value.token? = some s.current.kind) ∨
        (∃ name, s.current.kind = .identifier name) ∨ s.current.kind = .symbol .leftParen := by
  by_cases more : s.current.kind = .eof
  · exact ⟨more ▸ rfl, fun nested e t read => absurd read (primary_ne_ok more (by simp))⟩
  · obtain ⟨before, opens, plain⟩ := starts.isPlainBehind more
    rcases isOperatorToken_cases (starts.isOperatorToken_current more) with
      ⟨value, token⟩ | ⟨name, here⟩ | here | here | here | ⟨op, token⟩
    · refine ⟨?_, fun _ _ _ _ => .inl ⟨value, token⟩⟩
      rcases Literal.token?_cases token with
        ⟨n, -, -, here⟩ | ⟨text, -, here⟩ | ⟨-, here⟩ | ⟨-, here⟩ | ⟨-, here⟩ <;> rw [here] <;> rfl
    · exact ⟨here ▸ rfl, fun _ _ _ _ => .inr (.inl ⟨name, here⟩)⟩
    · exact ⟨here ▸ rfl, fun _ _ _ _ => .inr (.inr here)⟩
    · exact ⟨here ▸ rfl, fun nested e t read => absurd read (primary_ne_ok here (by simp))⟩
    · exact ⟨here ▸ rfl, fun nested e t read => absurd read (primary_ne_ok here (by simp))⟩
    · obtain ⟨unsigned, fails⟩ := primary_operator token opens plain
      exact ⟨unsigned, fun nested e t read => absurd read (fails nested e t)⟩

/-- What starts with a name is a column. -/
theorem readsGrouped_column (starts : StartsPlain s) {name : String}
    (here : s.current.kind = .identifier name) (read : primary nested s = .ok e t) :
    ReadsGrouped s e t ∧ e.headLevel? = none := by
  have ahead := kindsOf_eq_cons (s := s) starts.ends (by simp [here])
  rw [here] at ahead
  have no_call : s.rest.current.kind ≠ .symbol .leftParen := by
    intro paren
    have ahead_paren := kindsOf_eq_cons (s := s.rest) starts.ends (by simp [paren])
    rw [ahead_paren, paren] at ahead
    exact absurd (starts.behind [] ahead) (by simp [isPlainBehind])
  rw [primary_name here, afterName_eq no_call] at read
  split at read
  · next dot =>
      have ahead_dot := kindsOf_eq_cons (s := s.rest) starts.ends (by simp [dot])
      rw [ahead_dot, dot] at ahead
      have no_star : s.rest.rest.current.kind ≠ .symbol .star := by
        intro star
        have ahead_star := kindsOf_eq_cons (s := s.rest.rest) starts.ends (by simp [star])
        rw [ahead_star, star] at ahead
        exact absurd (starts.behind [.identifier name] ahead) (by simp [isPlainBehind])
      obtain ⟨column, named, rfl, rfl⟩ := (behindPoint_eq_ok no_star).mp read
      have ahead_name := kindsOf_eq_cons (s := s.rest.rest) starts.ends (by simp [named])
      rw [ahead_name, named] at ahead
      exact ⟨⟨.column _ _ _, trivial, ahead, rfl⟩, rfl⟩
  · cases read
    exact ⟨⟨.column _ _ _, trivial, ahead, rfl⟩, rfl⟩

theorem readsGrouped_primary (inner : Sound nested.expression) (starts : StartsPlain s)
    (read : primary nested s = .ok e t) : ReadsGrouped s e t ∧ e.headLevel? = none := by
  rcases starts.current_cases.2 nested e t read with ⟨value, token⟩ | ⟨name, here⟩ | here
  · have more : s.current.kind ≠ .eof := by
      intro ends
      rw [ends] at token
      exact absurd (isOperatorToken_literal token) (by decide)
    cases (primary_literal token).symm.trans read
    refine ⟨⟨.literal token, trivial, ?_, rfl⟩, rfl⟩
    rw [kindsOf_eq_cons starts.ends more, Expr.inorder, token]
    rfl
  · exact readsGrouped_column starts here read
  · have ahead := kindsOf_eq_cons starts.ends (s := s) (by simp [here])
    rw [here] at ahead
    have starts_inside : StartsPlain s.rest :=
      starts.later [] ahead (opensOperand_iff.mpr (.inl rfl)) rfl
    have no_query : s.rest.current.kind ≠ .keyword .SELECT := by
      intro query
      have member := starts_inside.isOperatorToken_current (by simp [query])
      exact absurd (query ▸ member) (by decide)
    rw [primary_paren here, afterParen_eq_ok no_query] at read
    obtain ⟨inside, u, read, close, rfl, rfl⟩ := read
    obtain ⟨reads, -, -⟩ := inner starts_inside read
    have ahead_close := kindsOf_eq_cons (s := u) (reads.finish ▸ starts.ends) (by simp [close])
    refine ⟨⟨.paren reads.tree, reads.grouped, ?_, reads.finish⟩, rfl⟩
    rw [ahead, reads.ahead, ahead_close, close]
    simp [Expr.inorder]

/-- What goes on behind an operand goes on with an operator. -/
theorem ReadsGrouped.exists_operator (starts : StartsPlain s) (reads : ReadsGrouped s e t)
    (continues : ¬ StopsBelow least t.current.kind) :
    ∃ op : BinaryOp, op.token? = some t.current.kind ∧ least ≤ op.level ∧
      kindsOf t = t.current.kind :: kindsOf t.rest := by
  unfold StopsBelow at continues
  push Not at continues
  obtain ⟨level, form, found, tight⟩ := continues
  have more : t.current.kind ≠ .eof := by
    intro ends
    rw [ends] at found
    cases found
  have ahead := kindsOf_eq_cons (s := t) (reads.finish ▸ starts.ends) more
  have member : isOperatorToken t.current.kind = true := by
    refine starts.tokens _ ?_
    rw [reads.ahead, ahead]
    simp
  obtain ⟨op, token, rfl, -⟩ := Sql.exists_operator member found
  exact ⟨op, token, tight, ahead⟩

/-- An operand that is grouped stays so with what continues it, if what stands next to it binds no
tighter than its own operator. -/
theorem sound_continued (inner : Sound nested.expression) (starts : StartsPlain s) {bound : Nat}
    {operand : Expr} {u : TokenStream} (reads : ReadsGrouped s operand u)
    (within : u.ahead.length ≤ bound) (tight : ∀ level ∈ operand.headLevel?, least ≤ level)
    (next : ∀ level ∈ operand.headLevel?, StopsBelow (level + 1) u.current.kind)
    (read : continued nested least bound operand u = .ok e t) :
    ReadsGrouped s e t ∧ (∀ level ∈ e.headLevel?, least ≤ level) ∧
      StopsBelow least t.current.kind := by
  -- Each round takes up an operator, and no more of them are ahead than the bound allows.
  induction bound generalizing operand u with
  | zero =>
      by_cases stops : StopsBelow least u.current.kind
      · cases read
        exact ⟨reads, tight, stops⟩
      · obtain ⟨_, _, _, ahead⟩ := reads.exists_operator starts stops
        rw [← length_kindsOf, ahead] at within
        cases within
  | succ bound ih =>
      by_cases stops : StopsBelow least u.current.kind
      · rw [continued_of_stopsBelow stops] at read
        cases read
        exact ⟨reads, tight, stops⟩
      · obtain ⟨op, token, tight_here, ahead⟩ := reads.exists_operator starts stops
        rw [continued_operator token tight_here] at read
        obtain ⟨right, v, read_right, read⟩ := read_of_bind read
        have starts_right : StartsPlain u.rest :=
          starts.later operand.inorder (by rw [reads.ahead, ahead]) (opensOperand_token token)
            reads.finish
        obtain ⟨reads_right, right_tight, stops_right⟩ := inner starts_right read_right
        have left_tight : ∀ level ∈ operand.headLevel?, op.level ≤ level := fun level here =>
          Nat.le_of_lt_succ (next level here _ _ (continuation?_token token))
        refine ih ⟨.binary token reads.tree reads_right.tree,
          ⟨reads.grouped, reads_right.grouped, left_tight, right_tight⟩, ?_,
          reads_right.finish.trans reads.finish⟩ ?_ ?_ ?_ read
        · rw [reads.ahead, ahead, reads_right.ahead]
          simp [Expr.inorder, token]
        · have one : u.ahead.length = 1 + u.rest.ahead.length := length_ahead [_] ahead
          have shorter : u.rest.ahead.length = right.inorder.length + v.ahead.length :=
            length_ahead _ reads_right.ahead
          omega
        · rintro level ⟨⟩
          exact tight_here
        · rintro level ⟨⟩
          exact stops_right

theorem sound_expression (inner : Sound nested.expression) : Sound (expression nested) := by
  intro least s t e starts read
  unfold expression at read
  obtain ⟨operand, u, read_operand, read⟩ := read_of_bind read
  obtain ⟨n, v, left, read⟩ := read_of_bind read
  cases left
  rw [signed_eq_primary starts.current_cases.1] at read_operand
  obtain ⟨reads, single⟩ := readsGrouped_primary inner starts read_operand
  have none_here : ∀ level, level ∉ operand.headLevel? := by simp [single]
  exact sound_continued inner starts reads le_rfl (fun level here => absurd here (none_here level))
    (fun level here => absurd here (none_here level)) read

theorem sound_nestedTo (depth : Nat) : Sound (nestedTo depth).expression := by
  induction depth with
  | zero => exact fun _ => nofun
  | succ depth inner => exact sound_expression inner

/-- What is read to the end from the plain tokens of operator trees is a grouped tree of them. -/
theorem TokenStream.ReadsWhole.readsGrouped (ends : s.finish.kind = .eof)
    (tokens : ∀ kind ∈ kindsOf s, isOperatorToken kind = true)
    (plain : isPlainRun (kindsOf s) = true)
    (reads : s.ReadsWhole e) : OperatorTree e ∧ e.IsGrouped ∧ e.inorder = kindsOf s := by
  obtain ⟨t, read, empty⟩ := reads
  have starts : StartsPlain s := ⟨tokens, ⟨_, opensOperand_iff.mpr (.inl rfl), plain⟩, ends⟩
  obtain ⟨reads, -, -⟩ := sound_nestedTo _ starts read
  refine ⟨reads.tree, reads.grouped, ?_⟩
  have none_left : kindsOf t = [] := List.map_eq_nil_iff.mpr empty
  rw [reads.ahead, none_left, List.append_nil]

end Soundness

/-! ## Reading operator trees -/

theorem headLevel?_unplaced (e : Expr) : e.unplaced.headLevel? = e.headLevel? := by
  cases e with
  | column table name span =>
      rw [unplaced_column]
      rfl
  | _ => simp only [Expr.unplaced, Expr.named, Expr.headLevel?]

theorem OperatorTree.isGrouped_unplaced {e : Expr} (tree : OperatorTree e) :
    e.unplaced.IsGrouped ↔ e.IsGrouped := by
  induction tree with
  | literal token => rw [unplaced_literal]
  | column table name span => simp [Expr.IsGrouped]
  | paren tree inner => simpa [Expr.IsGrouped] using inner
  | binary token lefts rights left right =>
      simp only [unplaced_binary, Expr.IsGrouped, left, right, headLevel?_unplaced]

/-- From the tokens of an operator tree the tree is read again, but for the places of columns,
exactly if it is grouped. What is read from tokens of this kind is a grouped tree of these tokens,
exactly if each of them is what it is in an operator tree. -/
theorem readsWhole_iff_isGrouped (s : TokenStream) (ends : s.finish.kind = .eof) :
    (∀ e, OperatorTree e → kindsOf s = e.inorder →
      ((∃ e', s.ReadsWhole e' ∧ e'.unplaced = e.unplaced) ↔ e.IsGrouped)) ∧
    ∀ e, (∀ kind ∈ kindsOf s, isOperatorToken kind = true) → s.ReadsWhole e →
      ((OperatorTree e ∧ e.IsGrouped ∧ e.inorder = kindsOf s) ↔ isPlainRun (kindsOf s) = true) := by
  refine ⟨fun e tree ahead => ⟨?_, fun grouped => exists_readsWhole tree grouped ends ahead⟩,
    fun e tokens reads => ⟨?_, reads.readsGrouped ends tokens⟩⟩
  · rintro ⟨e', reads, same⟩
    obtain ⟨tree', grouped', -⟩ := reads.readsGrouped ends
      (ahead ▸ isOperatorToken_inorder tree) (ahead ▸ isPlainRun_inorder tree)
    rw [← tree.isGrouped_unplaced, ← same, tree'.isGrouped_unplaced]
    exact grouped'
  · rintro ⟨tree, -, ahead⟩
    exact ahead ▸ isPlainRun_inorder tree

/-- What is left of a difference, less a number. -/
def leftDifference : Expr :=
  .binary (.binary (.literal (.integer 1)) .sub (.bareColumn "a")) .sub (.literal (.integer 2))

/-- A number less a difference. -/
def rightDifference : Expr :=
  .binary (.literal (.integer 1)) .sub (.binary (.bareColumn "a") .sub (.literal (.integer 2)))

/-- Both trees are written alike, and the one that groups to the left is read. -/
theorem readsWhole_difference :
    (TokenStream.ofText "1 - a - 2").finish.kind = .eof ∧
      kindsOf (TokenStream.ofText "1 - a - 2") = leftDifference.inorder ∧
      kindsOf (TokenStream.ofText "1 - a - 2") = rightDifference.inorder ∧
      (∃ e, (TokenStream.ofText "1 - a - 2").ReadsWhole e ∧
        e.unplaced = leftDifference.unplaced ∧ OperatorTree e ∧ e.IsGrouped) ∧
      ¬ ∃ e, (TokenStream.ofText "1 - a - 2").ReadsWhole e ∧
        e.unplaced = rightDifference.unplaced := by
  have ends : (TokenStream.ofText "1 - a - 2").finish.kind = .eof := rfl
  have left : kindsOf (TokenStream.ofText "1 - a - 2") = leftDifference.inorder := by
    decide +kernel
  have right : kindsOf (TokenStream.ofText "1 - a - 2") = rightDifference.inorder := by
    decide +kernel
  have left_tree : OperatorTree leftDifference :=
    .binary rfl (.binary rfl (.literal rfl) (.column ..)) (.literal rfl)
  have right_tree : OperatorTree rightDifference :=
    .binary rfl (.literal rfl) (.binary rfl (.column ..) (.literal rfl))
  obtain ⟨whole, sound⟩ := readsWhole_iff_isGrouped (TokenStream.ofText "1 - a - 2") ends
  have left_grouped : leftDifference.IsGrouped := by
    simp [leftDifference, Expr.IsGrouped, Expr.headLevel?, Expr.bareColumn]
  have right_apart : ¬ rightDifference.IsGrouped := by
    simp [rightDifference, Expr.IsGrouped, Expr.headLevel?, Expr.bareColumn]
  obtain ⟨e, reads, same⟩ := (whole leftDifference left_tree left).mpr left_grouped
  obtain ⟨tree, grouped, -⟩ := (sound e (by decide +kernel) reads).mpr (by decide +kernel)
  exact ⟨ends, left, right, ⟨e, reads, same, tree, grouped⟩,
    (whole rightDifference right_tree right).not.mpr right_apart⟩

/-- A plus sign that stands where an operand is due changes nothing and is forgotten. -/
theorem readsWhole_plus :
    (∀ kind ∈ kindsOf (TokenStream.ofText "+ 1"), isOperatorToken kind = true) ∧
      (TokenStream.ofText "+ 1").ReadsWhole (.literal (.integer 1)) ∧
      (Expr.literal (.integer 1)).inorder ≠ kindsOf (TokenStream.ofText "+ 1") :=
  ⟨by decide +kernel, ⟨_, by with_unfolding_all rfl, by decide +kernel⟩, by decide +kernel⟩

end ShardedSql.Sql
