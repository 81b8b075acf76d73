import ShardedSql.Proofs.GatheredLeaves
import ShardedSql.Proofs.Outcome

/-!
Signs before integers. The lexer checks digits without their sign, and the grammar turns an integer
around for every minus before it, without a check of its own. Reading is watched: an alarm takes
over where a sign is put before an integer without a counterpart, and where an operand is an integer
out of bounds. Main statement: whatever the alarm would do, every text is read as without it, and
the integers of a statement have room on both sides of zero.
-/

namespace ShardedSql.Sql

open Numeric Text ShardedSql.Sql.Parser Grammar

/-! ## Watched reading -/

/-- Whether the sign turns an integer around that has no counterpart. -/
def Sign.overflows : Sign → Expr → Bool
  | .op .neg, .literal (.integer n) => (-n).toInt != -n.toInt
  | _, _ => false

/-- Whether the expression is an integer with less room on one side of zero. -/
def Expr.exceeds : Expr → Bool
  | .literal (.integer n) => decide (n.toInt < -maxInt64 ∨ maxInt64 < n.toInt)
  | _ => false

namespace Grammar

variable (alarm : Parser Expr) (nested : Nested)

/-- A sign with its operand. -/
def watchedSigned : Parser Expr := do
  match sign? (← currentKind) with
  | some (level, sign) =>
      advance
      let operand ← nested.expression level
      if sign.overflows operand then alarm else return sign.apply operand
  | none => primary nested

def watchedOperand : Parser Expr := do
  let operand ← watchedSigned alarm nested
  if operand.exceeds then alarm else return operand

def watchedExpression (least : Nat) : Parser Expr := do
  let operand ← watchedOperand alarm nested
  continued nested least (← remaining) operand

/-- The nested rules with every operand watched, at any depth. -/
def watchedTo : Nat → Nested
  | 0 => nestedTo 0
  | depth + 1 =>
      let inner := watchedTo depth
      ⟨watchedExpression alarm inner, select inner, tables inner⟩

/-- Tokens that no text has would raise the alarm. -/
example (place : Span) : watchedSigned alarm (nestedTo 1)
    ⟨[⟨.symbol .minus, place⟩, ⟨.integer .minValue, place⟩], ⟨.eof, place⟩, 0⟩ =
      alarm ⟨[], ⟨.eof, place⟩, 0⟩ :=
  rfl

end Grammar

/-- The statement a text holds, read under watch. -/
def Statement.parseWatched (alarm : Parser Expr) (text : String) : Except ParseError Statement :=
  match Grammar.statement (watchedTo alarm ((textTokens text).length + 1)) (.ofText text) with
  | .ok statement _ => .ok statement
  | .error e _ => .error e

/-! ## The alarm is never raised -/

section Watch

variable {alarm : Parser Expr} {s t : TokenStream} {nested nested' : Nested} {found : List Leaf}
  {p q : Parser Expr} {e : Expr}

/-- The integers in an expression have room on both sides of zero. -/
def Expr.Bounded (e : Expr) : Prop :=
  ∀ n, .integer n ∈ e.leaves → -maxInt64 ≤ n.toInt ∧ n.toInt ≤ maxInt64

theorem Takes.bounded (takes : Takes s t found) (unsigned : s.Unsigned)
    (perm : found.Perm e.leaves) : e.Bounded :=
  fun _ member => takes.integer_bounds unsigned (perm.mem_iff.mpr member)

theorem Expr.Bounded.overflows_eq (bounded : e.Bounded) (sign : Sign) :
    sign.overflows e = false := by
  unfold Sign.overflows
  split
  · next n =>
    have low := (bounded n (by simp [Expr.leaves, Literal.leaves])).1
    simp [toInt_neg_of_le low]
  · rfl

theorem Expr.Bounded.exceeds_eq (bounded : e.Bounded) : e.exceeds = false := by
  unfold Expr.exceeds
  split
  · next n =>
    have bounds := bounded n (by simp [Expr.leaves, Literal.leaves])
    simpa using bounds
  · rfl

/-- What is watched for in a collected expression makes no difference if no bounded one has it. -/
theorem bind_watched (collects : Collects p q Expr.leaves) (unsigned : s.Unsigned)
    {watch : Expr → Bool} (quiet : ∀ e, e.Bounded → watch e = false) (f : Expr → Parser Expr) :
    (q >>= fun e => if watch e then alarm else f e) s = (p >>= f) s := by
  obtain ⟨same, takes⟩ := collects [] s unsigned trivial
  refine bind_eq_of_same same fun e t read => ?_
  obtain ⟨found, passes, perm⟩ := takes e t read
  rw [quiet e (passes.bounded unsigned perm)]
  rfl

theorem gathers_watchedSigned (gathers : NestedGathers nested nested') :
    Collects (signed nested) (watchedSigned alarm nested') Expr.leaves := by
  refine fun given => gathers_currentKind_bind fun kind => ?_
  cases sign? kind with
  | none => exact gathers_primary gathers given
  | some found =>
      obtain ⟨level, sign⟩ := found
      refine gathers_advance_bind fun s unsigned _ => ?_
      have plain := collects_sign (gathers.expression level) sign given s unsigned trivial
      exact ⟨bind_watched (gathers.expression level) unsigned
        (fun e bounded => bounded.overflows_eq sign) _, plain.2⟩

theorem gathers_watchedOperand (gathers : NestedGathers nested nested') :
    Collects (signed nested) (watchedOperand alarm nested') Expr.leaves := by
  intro given s unsigned _
  have collects : Collects (signed nested) (watchedSigned alarm nested') Expr.leaves :=
    gathers_watchedSigned gathers
  have watched : watchedOperand alarm nested' s = (signed nested >>= pure) s :=
    bind_watched collects unsigned (fun e bounded => bounded.exceeds_eq) pure
  rw [bind_pure] at watched
  exact ⟨watched, (collects given s unsigned trivial).2⟩

theorem gathers_watchedExpression (gathers : NestedGathers nested nested') (least : Nat) :
    Collects (expression nested least) (watchedExpression alarm nested' least) Expr.leaves :=
  fun _ => (gathers_watchedOperand gathers _).bind fun operand =>
    reports_remaining.gathers.bind fun _ => gathers_continued gathers least _ operand

theorem gathers_watchedTo (alarm : Parser Expr) (depth : Nat) :
    NestedGathers (nestedTo depth) (watchedTo alarm depth) := by
  induction depth with
  | zero => exact gathers_nestedTo 0
  | succ depth ih => exact ⟨gathers_watchedExpression ih, gathers_select ih, gathers_tables ih⟩

end Watch

/-- No text raises the alarm: whatever it would do, the text is read as without it. -/
theorem signs_never_overflow (alarm : Parser Expr) (text : String) :
    Statement.parseWatched alarm text = Statement.parse text ∧
      ∀ statement, Statement.parse text = .ok statement →
        ∀ n ∈ statement.integers, -maxInt64 ≤ n.toInt ∧ n.toInt ≤ maxInt64 := by
  have unsigned := unsigned_ofText text
  obtain ⟨same, takes⟩ := gathers_statement
    (gathers_watchedTo alarm ((textTokens text).length + 1)) [] (.ofText text) unsigned trivial
  constructor
  · unfold Statement.parseWatched
    rw [same]
    exact (parse_eq text).symm
  · intro statement parsed n member
    obtain ⟨t, read⟩ := parse_eq_ok.mp parsed
    obtain ⟨found, passes, perm⟩ := takes statement t read
    have inside : .integer n ∈ statement.leaves := Leaf.integer_mem_iff.mp member
    exact passes.integer_bounds unsigned (perm.mem_iff.mpr inside)

/-- The largest number behind three signs, and a number behind three minus signs. -/
theorem signs_never_overflow_largest :
    ∃ statement, Statement.parse "SELECT - + -9223372036854775807 FROM t WHERE a IN (- - -5)" =
        .ok statement ∧
      statement.integers = [9223372036854775807, -5] ∧
      -maxInt64 ≤ (9223372036854775807 : Int64).toInt ∧
      (9223372036854775807 : Int64).toInt ≤ maxInt64 := by
  have read : (Statement.parse "SELECT - + -9223372036854775807 FROM t WHERE a IN (- - -5)").map
      Statement.integers = .ok [9223372036854775807, -5] := by
    decide +kernel
  obtain ⟨statement, parsed, integers⟩ := map_eq_ok.mp read
  have bounds := (signs_never_overflow (unexpected .expression) _).2 statement parsed
    9223372036854775807 (integers ▸ List.mem_cons_self)
  exact ⟨statement, parsed, integers, bounds⟩

end ShardedSql.Sql
