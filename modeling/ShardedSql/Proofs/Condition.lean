import ShardedSql.Parameters
import ShardedSql.Sql.Tables

/-!
What a condition says of a record: truth with three values, equality of values by the numbers they
denote, and the value of an expression on one record of a table. Operators and functions that SQL
leaves to the database are taken from a dialect; the connectives, equality, membership and null
tests mean the same in all of them.
-/

namespace ShardedSql

open Numeric Sql Text

/-! ## Truth -/

/-- True, false, or unknown. -/
abbrev Truth := Option Bool

namespace Truth

def not (t : Truth) : Truth :=
  t.map Bool.not

def and : Truth → Truth → Truth
  | some false, _ => some false
  | _, some false => some false
  | some true, some true => some true
  | _, _ => none

def or : Truth → Truth → Truth
  | some true, _ => some true
  | _, some true => some true
  | some false, some false => some false
  | _, _ => none

def any : List Truth → Truth
  | [] => some false
  | t :: rest => t.or (any rest)

theorem and_eq_true {s t : Truth} : s.and t = some true ↔ s = some true ∧ t = some true := by
  rcases s with _ | _ | _ <;> rcases t with _ | _ | _ <;> simp [and]

theorem or_eq_true {s t : Truth} : s.or t = some true ↔ s = some true ∨ t = some true := by
  rcases s with _ | _ | _ <;> rcases t with _ | _ | _ <;> simp [or]

theorem any_eq_true {ts : List Truth} : any ts = some true ↔ some true ∈ ts := by
  induction ts with
  | nil => simp [any]
  | cons t rest ih => rw [any, or_eq_true, ih, List.mem_cons, eq_comm]

end Truth

/-! ## Equality of values -/

/-- The number `count * base ^ exponent`. -/
def powerMultiple (base : Nat) (count exponent : Int) : Rat :=
  let (up, down) := powerRatio base exponent
  mkRat (count * up) down

def Numeric.Binary.number? {format : BinaryFormat} (x : Binary format) : Option Rat :=
  match x.magnitude with
  | .finite m e => some (powerMultiple 2 (signedCount x.isNegative m) e)
  | _ => none

def Numeric.Decimal.number (d : Decimal) : Rat :=
  powerMultiple 10 d.digits (-d.scale)

namespace Value

/-- The number a value denotes; a text denotes the number it writes. -/
def number? : Value → Option Rat
  | .integer n => some n.val
  | .single x => x.number?
  | .double x => x.number?
  | .decimal d => some d.number
  | .text s =>
      match readInt64? (trimmed s) with
      | some n => some n
      | none => (Decimal.read? (trimmed s)).map Decimal.number
  | _ => none

/-- Whether two values are equal, unknown if one of them is nothing. Two texts are equal as texts,
and a text beside a number is the number it writes. -/
def equalsPlain : Value → Value → Truth
  | .null, _ => none
  | _, .null => none
  | .text s, .text t => some (s == t)
  | a, b =>
      match a.number?, b.number? with
      | some x, some y => some (x == y)
      | _, _ => some (a == b)

mutual

/-- Equality to a value; several values bound to one placeholder stand side by side. -/
def equals (a : Value) : Value → Truth
  | .list items => equalsAny a items
  | b => equalsPlain a b

def equalsAny (a : Value) : List Value → Truth
  | [] => some false
  | b :: rest => (equals a b).or (equalsAny a rest)

end

/-- A truth value as it is stored. -/
def ofTruth : Truth → Value
  | some b => .bool b
  | none => .null

end Value

/-! ## Expressions on a record -/

/-- What the database makes of everything that is not fixed here. -/
structure Dialect where
  operator : BinaryOp → Value → Value → Value
  sign : UnaryOp → Value → Value
  call : String → List Value → Bool → Value
  cast : String → Value → Value
  /-- A value other than a truth value where a condition is due. -/
  condition : Value → Truth
  /-- A column of another table. -/
  foreign : Option String → String → Value
  unbound : Placeholder → Value
  scalar : Select → Value
  hasRow : Select → Bool
  wildcard : Option String → Value

/-- Nothing comes of anything. -/
instance : Inhabited Dialect where
  default := {
    operator := fun _ _ _ => .null
    sign := fun _ _ => .null
    call := fun _ _ _ => .null
    cast := fun _ _ => .null
    condition := fun _ => none
    foreign := fun _ _ => .null
    unbound := fun _ => .null
    scalar := fun _ => .null
    hasRow := fun _ => false
    wildcard := fun _ => .null }

/-- The value in each column of the table, by the column's name in lower case. -/
abbrev Record := String → Option Value

/-- One record of a table, and all that a condition on it is read with. -/
structure Reading where
  dialect : Dialect
  bindings : Bindings
  /-- The tables the statement ranges over. -/
  bound : List BoundTable
  table : String
  record : Record

namespace Reading

variable (reading : Reading)

/-- Whether a column with this qualifier, or with none, may be one of the table. -/
def reaches (qualifier : Option String) : Bool :=
  reading.bound.any fun b => sameWord b.name reading.table && qualifier.all (b.answersTo ·)

def column (qualifier : Option String) (name : String) : Value :=
  if reading.reaches qualifier then
    (reading.record (lowerAscii name)).getD (reading.dialect.foreign qualifier name)
  else reading.dialect.foreign qualifier name

/-- What a value says where a condition is due. -/
def truthOf : Value → Truth
  | .bool b => some b
  | .null => none
  | v => reading.dialect.condition v

/-- The result of the first branch that is chosen. -/
def choose (subject : Option Value) : List (Value × Value) → Option Value
  | [] => none
  | (condition, result) :: rest =>
      let chosen := match subject with
        | some v => v.equals condition
        | none => reading.truthOf condition
      if chosen = some true then some result else choose subject rest

mutual

def value : Expr → Value
  | .literal l => .ofLiteral l
  | .column table name _ => reading.column table name
  | .paren inner => value inner
  | .binary left op right =>
      let l := value left
      let r := value right
      match op with
      | .and => .ofTruth ((reading.truthOf l).and (reading.truthOf r))
      | .or => .ofTruth ((reading.truthOf l).or (reading.truthOf r))
      | .eq => .ofTruth (l.equals r)
      | .notEq => .ofTruth (l.equals r).not
      | _ => reading.dialect.operator op l r
  | .unary op operand =>
      let v := value operand
      match op with
      | .not => .ofTruth (reading.truthOf v).not
      | _ => reading.dialect.sign op v
  | .isNull operand negated => .bool ((value operand).isNull != negated)
  | .inList operand items negated =>
      let found := Truth.any ((values items).map (value operand).equals)
      .ofTruth (if negated then found.not else found)
  | .between operand low high negated =>
      let v := value operand
      let within := (reading.truthOf (reading.dialect.operator .gtEq v (value low))).and
        (reading.truthOf (reading.dialect.operator .ltEq v (value high)))
      .ofTruth (if negated then within.not else within)
  | .choice subject branches otherwise =>
      let subject := match subject with | some e => some (value e) | none => none
      let otherwise := match otherwise with | some e => value e | none => .null
      (reading.choose subject (branchValues branches)).getD otherwise
  | .call function args distinct => reading.dialect.call function (values args) distinct
  | .cast operand typeName => reading.dialect.cast typeName (value operand)
  | .placeholder place =>
      (reading.bindings.placeholder? place).getD (reading.dialect.unbound place)
  | .subquery query => reading.dialect.scalar query
  | .existence query negated => .bool (reading.dialect.hasRow query != negated)
  | .wildcard table => reading.dialect.wildcard table

def values : List Expr → List Value
  | [] => []
  | e :: rest => value e :: values rest

def branchValues : List Branch → List (Value × Value)
  | [] => []
  | ⟨condition, result⟩ :: rest => (value condition, value result) :: branchValues rest

end

/-- The truth of a condition. -/
def truth (e : Expr) : Truth :=
  reading.truthOf (reading.value e)

/-- Whether a statement with this condition works on the record. -/
def Meets : Option Expr → Prop
  | some condition => reading.truth condition = some true
  | none => True

variable {reading}

@[simp]
theorem truthOf_ofTruth (t : Truth) : reading.truthOf (.ofTruth t) = t := by
  rcases t with _ | _ | _ <;> rfl

attribute [local simp] truth value

theorem truth_paren (inner : Expr) : reading.truth (.paren inner) = reading.truth inner := by
  simp

theorem truth_and (left right : Expr) :
    reading.truth (.binary left .and right) = (reading.truth left).and (reading.truth right) := by
  simp

theorem truth_or (left right : Expr) :
    reading.truth (.binary left .or right) = (reading.truth left).or (reading.truth right) := by
  simp

theorem truth_eq (left right : Expr) :
    reading.truth (.binary left .eq right) =
      (reading.value left).equals (reading.value right) := by
  simp

theorem truth_inList (operand : Expr) (items : List Expr) :
    reading.truth (.inList operand items false) =
      Truth.any ((reading.values items).map (reading.value operand).equals) := by
  simp

theorem value_unparenthesized (e : Expr) : reading.value e.unparenthesized = reading.value e := by
  induction e using Expr.unparenthesized.induct with
  | case1 inner ih => simp only [Expr.unparenthesized, value, ih]
  | case2 e other => rw [Expr.unparenthesized.eq_2 e other]

end Reading

end ShardedSql
