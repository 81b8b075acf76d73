import ShardedSql.Sql.Precedence
import ShardedSql.Sql.TokenStream

/-!
The grammar of statements. Each rule is written over `Nested`, the rules for what may stand inside
it: expressions, queries and table lists nest in one another, and every nesting passes at least one
token first. So rules that may nest as deep as there are tokens left may nest as deep as the text
can ask for, and `Statement.parse` ties the knot there.
-/

namespace ShardedSql.Sql

open Numeric Text ShardedSql.Sql.Parser

/-- The rules that nest: an expression whose operators have at least a given level, a query, and the
list of tables after `FROM`. -/
structure Nested where
  expression : Nat → Parser Expr
  select : Parser Select
  tables : Parser TableRef

namespace Grammar

/-! ## Names and labels -/

/-- A name, or a schema and a name. -/
def qualifiedName : Parser (Option String × String) := do
  let first ← identifier
  if ← acceptSymbol .dot then
    return (some first, ← identifier)
  else
    return (none, first)

/-- The label of a table, with or without `AS`. -/
def tableLabel : Parser (Option String) := do
  if ← acceptKeyword .AS then
    return some (← identifier)
  else if ← atIdentifier then
    return some (← identifier)
  else
    return none

/-- The label of a select item; behind `AS` it may be a string. -/
def itemLabel : Parser (Option String) := do
  if ← acceptKeyword .AS then
    match ← currentKind with
    | .string text =>
        advance
        return some text
    | _ => return some (← identifier)
  else if ← atIdentifier then
    return some (← identifier)
  else
    return none

/-! ## Expressions -/

variable (nested : Nested)

/-- An expression whose operators may be of any level. -/
def anyExpression : Parser Expr :=
  nested.expression 0

def expressionList : Parser (List Expr) :=
  commaList (anyExpression nested)

/-- The arguments of a call, with the parentheses around them. -/
def callOf (function : String) : Parser Expr := do
  expectSymbol .leftParen
  let distinct ← acceptKeyword .DISTINCT
  let args ←
    if ← atSymbol .rightParen then pure []
    else if ← acceptSymbol .star then pure [Expr.wildcard none]
    else expressionList nested
  expectSymbol .rightParen
  return .call function args distinct

/-- The words of a type name. -/
def typeWords : Nat → Parser (List String)
  | 0 => return []
  | bound + 1 => do
      match ← currentKind with
      | .identifier name =>
          advance
          return upperAscii name :: (← typeWords bound)
      | .keyword word =>
          advance
          return word.spelling :: (← typeWords bound)
      | _ => return []

def typeSize : Parser String := do
  match ← currentKind with
  | .integer n =>
      advance
      return intText n.toInt
  | _ => unexpected .integer

/-- A type: words in upper case, then perhaps sizes in parentheses. -/
def typeName : Parser String := do
  let words ← typeWords (← remaining)
  if words.isEmpty then
    unexpected .typeName
  else
    let name := joined " " words
    if ← acceptSymbol .leftParen then
      let sizes ← commaList typeSize
      expectSymbol .rightParen
      return name ++ "(" ++ joined "," sizes ++ ")"
    else
      return name

/-- A cast from its parenthesis on: `(… AS type)`. -/
def castBody : Parser Expr := do
  expectSymbol .leftParen
  let operand ← anyExpression nested
  expectKeyword .AS
  let target ← typeName
  expectSymbol .rightParen
  return .cast operand target

/-- The branches of a `CASE` that are still to come. -/
def branches : Nat → Parser (List Branch)
  | 0 => return []
  | bound + 1 => do
      if ← acceptKeyword .WHEN then
        let condition ← anyExpression nested
        expectKeyword .THEN
        let result ← anyExpression nested
        return ⟨condition, result⟩ :: (← branches bound)
      else
        return []

/-- A choice by `CASE` from the second word on: its subject, branches and alternative. -/
def caseBody : Parser Expr := do
  let subject ←
    if ← atKeyword .WHEN then pure none else some <$> anyExpression nested
  let whens ← branches nested (← remaining)
  if whens.isEmpty then
    unexpected (.keyword .WHEN)
  else
    let otherwise ← afterKeyword .ELSE (anyExpression nested)
    expectKeyword .END
    return .choice subject whens otherwise

/-- What a name starts: a call, a column, or all columns of a table. The name has been passed;
`span` is its place. -/
def afterName (name : String) (span : Span) : Parser Expr := do
  if ← atSymbol .leftParen then
    callOf nested name
  else if ← acceptSymbol .dot then
    if ← acceptSymbol .star then
      return .wildcard (some name)
    else
      let columnSpan := (← current).span
      let column ← identifier
      return .column (some name) column (span.merge columnSpan)
  else
    return .column none name span

/-- The words `LEFT` and `RIGHT` may be called like functions. -/
def callOfKeyword (word : Keyword) (span : Span) : Parser Expr := do
  if ← atSymbol .leftParen then
    callOf nested word.spelling
  else
    -- The word itself is out of place, not what follows it.
    throw (.unexpected .expression (.keyword word) span)

/-- A query or an expression in parentheses, from behind the opening one. -/
def afterParen : Parser Expr := do
  let inner ←
    if ← atKeyword .SELECT then Expr.subquery <$> nested.select
    else Expr.paren <$> anyExpression nested
  expectSymbol .rightParen
  return inner

/-- Takes the next number for a positional placeholder. -/
def nextOrdinal : Parser Nat :=
  modifyGet fun stream => (stream.ordinal, { stream with ordinal := stream.ordinal + 1 })

def literalOf (value : Literal) : Parser Expr := do
  advance
  return .literal value

/-- An operand without a sign in front. -/
def primary : Parser Expr := do
  let token ← current
  match token.kind with
  | .integer n => literalOf (.integer n)
  | .float x => literalOf (.float x)
  | .string text => literalOf (.string text)
  | .blob bytes => literalOf (.blob bytes)
  | .keyword .TRUE => literalOf (.boolean true)
  | .keyword .FALSE => literalOf (.boolean false)
  | .keyword .NULL => literalOf .null
  | .symbol .question =>
      advance
      return .placeholder (.positional (← nextOrdinal))
  | .symbol .colon =>
      advance
      return .placeholder (.named (← identifier))
  | .symbol .star =>
      advance
      return .wildcard none
  | .symbol .leftParen =>
      advance
      afterParen nested
  | .keyword .CASE =>
      advance
      caseBody nested
  | .keyword .CAST =>
      advance
      castBody nested
  | .keyword .EXISTS =>
      advance
      return .existence (← parenthesized nested.select) false
  | .keyword .LEFT =>
      advance
      callOfKeyword nested .LEFT token.span
  | .keyword .RIGHT =>
      advance
      callOfKeyword nested .RIGHT token.span
  | .identifier name =>
      advance
      afterName nested name token.span
  | _ => unexpected .expression

/-- An operand with the signs in front of it. -/
def signed : Parser Expr := do
  match sign? (← currentKind) with
  | some (level, sign) =>
      advance
      return sign.apply (← nested.expression level)
  | none => primary nested

def membership (operand : Expr) (negated : Bool) : Parser Expr := do
  expectSymbol .leftParen
  let items ←
    if ← atKeyword .SELECT then (fun query => [Expr.subquery query]) <$> nested.select
    else expressionList nested
  expectSymbol .rightParen
  return .inList operand items negated

def range (operand : Expr) (negated : Bool) (level : Nat) : Parser Expr := do
  let low ← nested.expression level
  expectKeyword .AND
  let high ← nested.expression level
  return .between operand low high negated

/-- What stands behind the `NOT` that follows an operand. -/
def negatedPredicate (operand : Expr) (level : Nat) : Parser Expr := do
  match ← currentKind with
  | .keyword .IN =>
      advance
      membership nested operand true
  | .keyword .BETWEEN =>
      advance
      range nested operand true level
  | .keyword .LIKE =>
      advance
      return .binary operand .notLike (← nested.expression level)
  | _ => unexpected .negatedPredicate

/-- The operand extended by what the passed token starts; operands on the right bind at `level`. -/
def extend (operand : Expr) (level : Nat) : Continuation → Parser Expr
  | .nullTest => do
      let negated ← acceptKeyword .NOT
      expectKeyword .NULL
      return .isNull operand negated
  | .negation => negatedPredicate nested operand level
  | .membership => membership nested operand false
  | .range => range nested operand false level
  | .operator op => do
      return .binary operand op (← nested.expression level)

/-- The operand with everything behind it that binds at `least` or tighter. -/
def continued (least : Nat) : Nat → Expr → Parser Expr
  | 0, operand => return operand
  | bound + 1, operand => do
      match continuation? (← currentKind) with
      | some (level, form) =>
          if level < least then
            return operand
          else
            advance
            -- One level up, so that a second operator of this level groups to the left.
            continued least bound (← extend nested operand (level + 1) form)
      | none => return operand

/-- An expression whose operators have at least the given level. -/
def expression (least : Nat) : Parser Expr := do
  let operand ← signed nested
  continued nested least (← remaining) operand

/-! ## Tables -/

/-- A table, a query in parentheses, or a list of tables in parentheses. -/
def tableFactor : Parser TableRef := do
  if ← acceptSymbol .leftParen then
    if ← atKeyword .SELECT then
      let query ← nested.select
      expectSymbol .rightParen
      return .derived query (← tableLabel)
    else
      let inner ← nested.tables
      expectSymbol .rightParen
      return inner
  else
    let (schema, name) ← qualifiedName
    return .table schema name (← tableLabel)

/-- The kind of join a keyword opens. -/
def joinKind? : TokenKind → Option JoinKind
  | .keyword .JOIN => some .inner
  | .keyword .INNER => some .inner
  | .keyword .CROSS => some .cross
  | .keyword .LEFT => some .left
  | .keyword .RIGHT => some .right
  | .keyword .FULL => some .full
  | _ => none

/-- The words of a join up to the table. -/
def joinWords : Parser (Option JoinKind) := do
  let kind ← currentKind
  match joinKind? kind with
  | none => return none
  | some join =>
      advance
      if kind == .keyword .JOIN then
        return some join
      else
        if join == .left || join == .right || join == .full then
          discard <| acceptKeyword .OUTER
        expectKeyword .JOIN
        return some join

/-- How the rows of a join match: by a condition or by columns of one name. -/
def joinCondition (kind : JoinKind) : Parser (Option Expr × List String) := do
  if kind == .cross then
    return (none, [])
  else if ← acceptKeyword .ON then
    return (some (← anyExpression nested), [])
  else if ← acceptKeyword .USING then
    return (none, ← parenthesized (commaList identifier))
  else
    unexpected .joinCondition

/-- Tables joined to what stands to the left of them. -/
def joins : Nat → TableRef → Parser TableRef
  | 0, left => return left
  | bound + 1, left => do
      match ← joinWords with
      | none => return left
      | some kind =>
          let right ← tableFactor nested
          let (condition, shared) ← joinCondition nested kind
          joins bound (.join left kind right condition shared)

def joinedTable : Parser TableRef := do
  let first ← tableFactor nested
  joins nested (← remaining) first

/-- The list after `FROM`; a comma joins every row with every row. -/
def tables : Parser TableRef := do
  let all ← commaList (joinedTable nested)
  match all with
  | first :: others =>
      return others.foldl (fun left right => .join left .cross right none []) first
  -- Not reached, since a list has an item.
  | [] => unexpected .identifier

/-! ## Queries -/

def selectItem : Parser SelectItem := do
  let expr ← anyExpression nested
  return ⟨expr, ← itemLabel⟩

def orderItem : Parser OrderItem := do
  let expr ← anyExpression nested
  if ← acceptKeyword .DESC then
    return ⟨expr, .descending⟩
  else
    discard <| acceptKeyword .ASC
    return ⟨expr, .ascending⟩

/-- A list behind two keywords, or nothing. -/
def listBy (word : Keyword) (item : Parser α) : Parser (List α) := do
  if ← acceptKeyword word then
    expectKeyword .BY
    commaList item
  else
    return []

/-- The limit and the offset, in either of their two forms. -/
def window : Parser (Option Expr × Option Expr) := do
  if ← acceptKeyword .LIMIT then
    let first ← anyExpression nested
    if ← acceptSymbol .comma then
      -- The offset is written first.
      let count ← anyExpression nested
      return (some count, some first)
    else
      return (some first, ← afterKeyword .OFFSET (anyExpression nested))
  else
    return (none, ← afterKeyword .OFFSET (anyExpression nested))

def whereClause : Parser (Option Expr) :=
  afterKeyword .WHERE (anyExpression nested)

def select : Parser Select := do
  expectKeyword .SELECT
  let distinct ← acceptKeyword .DISTINCT
  if !distinct then
    discard <| acceptKeyword .ALL
  let items ← commaList (selectItem nested)
  let source ← afterKeyword .FROM (tables nested)
  let condition ← whereClause nested
  let groups ← listBy .GROUP (anyExpression nested)
  let having ← afterKeyword .HAVING (anyExpression nested)
  let order ← listBy .ORDER (orderItem nested)
  let (limit, offset) ← window nested
  return { distinct, items, source, condition, groups, having, order, limit, offset }

/-! ## Statements that change rows -/

def assignment : Parser Assignment := do
  let (table, column) ← qualifiedName
  expectSymbol .eq
  return ⟨table, column, ← anyExpression nested⟩

def valueRow : Parser (List Expr) := do
  expectSymbol .leftParen
  let row ← if ← atSymbol .rightParen then pure [] else expressionList nested
  expectSymbol .rightParen
  return row

/-- The columns of an insert; a parenthesis before a query does not open their list. -/
def columnList : Parser (List String) := do
  if (← atSymbol .leftParen) && (← followingKind) != .keyword .SELECT then
    parenthesized (commaList identifier)
  else
    return []

def insertSource : Parser InsertSource := do
  if ← acceptKeyword .VALUES then
    return .values (← commaList (valueRow nested))
  else if ← atKeyword .SELECT then
    return .query (← select nested)
  else if ← acceptSymbol .leftParen then
    let query ← select nested
    expectSymbol .rightParen
    return .query query
  else if ← acceptKeyword .DEFAULT then
    expectKeyword .VALUES
    return .defaults
  else
    unexpected .insertSource

/-- The assignments for rows that exist already. -/
def onDuplicate : Parser (List Assignment) := do
  if ← acceptKeyword .ON then
    expectWord "DUPLICATE"
    expectWord "KEY"
    expectKeyword .UPDATE
    commaList (assignment nested)
  else
    return []

def insert : Parser Insert := do
  expectKeyword .INSERT
  discard <| acceptWord "IGNORE"
  discard <| acceptKeyword .INTO
  let (schema, table) ← qualifiedName
  let columns ← columnList
  let source ← insertSource nested
  return { schema, table, columns, source, onDuplicate := ← onDuplicate nested }

def update : Parser Update := do
  expectKeyword .UPDATE
  let (schema, table) ← qualifiedName
  let label ← tableLabel
  expectKeyword .SET
  let assignments ← commaList (assignment nested)
  return { schema, table, label, assignments, condition := ← whereClause nested }

def delete : Parser Delete := do
  expectKeyword .DELETE
  expectKeyword .FROM
  let (schema, table) ← qualifiedName
  let label ← tableLabel
  return { schema, table, label, condition := ← whereClause nested }

/-- Words that open statements of kinds that are turned away. -/
def unsupportedOpenings : List String :=
  ["ALTER", "ANALYZE", "BEGIN", "CALL", "COMMIT", "CREATE", "DEALLOCATE", "DESCRIBE", "DO", "DROP",
   "EXECUTE", "EXPLAIN", "FLUSH", "GRANT", "HANDLER", "KILL", "LOAD", "LOCK", "MERGE", "OPTIMIZE",
   "PRAGMA", "PREPARE", "RELEASE", "RENAME", "REPLACE", "RESET", "REVOKE", "ROLLBACK", "SAVEPOINT",
   "SHOW", "START", "TRUNCATE", "UNLOCK", "USE", "VACUUM"]

/-- A statement without what may follow it. -/
def statementBody : Parser Statement := do
  match ← currentKind with
  | .keyword .SELECT => return .select (← select nested)
  | .keyword .INSERT => return .insert (← insert nested)
  | .keyword .UPDATE => return .update (← update nested)
  | .keyword .DELETE => return .delete (← delete nested)
  | .keyword .SET => unsupported (.opening Keyword.SET.spelling)
  | .keyword .WITH => unsupported (.opening Keyword.WITH.spelling)
  | .keyword .DESC => unsupported (.opening Keyword.DESC.spelling)
  | .identifier word =>
      if unsupportedOpenings.any (sameWord · word) then
        unsupported (.opening (upperAscii word))
      else
        unexpected .statement
  | _ => unexpected .statement

/-- Semicolons and the end of the text. -/
def statementEnd : Parser Unit := do
  skipAll .semicolon (← remaining)
  match ← currentKind with
  | .eof => return
  | .keyword .UNION => unsupported (.setOperation .UNION)
  | .keyword .INTERSECT => unsupported (.setOperation .INTERSECT)
  | .keyword .EXCEPT => unsupported (.setOperation .EXCEPT)
  | _ => unexpected .endOfStatement

/-- One statement and nothing behind it. -/
def statement : Parser Statement := do
  let parsed ← statementBody nested
  statementEnd
  return parsed

/-- The nested rules for nesting up to the given depth. -/
def nestedTo : Nat → Nested
  -- Not reached, since every nesting passes a token first.
  | 0 => ⟨fun _ => unexpected .expression, unexpected .expression, unexpected .expression⟩
  | depth + 1 =>
      let inner := nestedTo depth
      ⟨expression inner, select inner, tables inner⟩

end Grammar

/-- Reads a statement from the stream, and answers the stream where reading stopped. -/
def TokenStream.statement (stream : TokenStream) : Except ParseError Statement × TokenStream :=
  match Grammar.statement (Grammar.nestedTo (stream.ahead.length + 1)) |>.run stream with
  | .ok parsed rest => (.ok parsed, rest)
  | .error reason rest => (.error reason, rest)

/-- The statement a text holds. -/
def Statement.parse (text : String) : Except ParseError Statement :=
  (TokenStream.ofText text).statement.1

end ShardedSql.Sql
