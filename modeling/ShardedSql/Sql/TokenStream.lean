import ShardedSql.Sql.Lexer
import ShardedSql.Sql.ParseError

/-!
Reading tokens from the front. The stream never runs dry: behind the last token stands the end of
the text, as often as one looks. A reader that fails leaves the stream where it failed.
-/

namespace ShardedSql.Sql

open Text

structure TokenStream where
  ahead : List Token
  finish : Token
  /-- The number of the next positional placeholder. -/
  ordinal : Nat

namespace TokenStream

def ofText (text : String) : TokenStream :=
  ⟨textTokens text, endToken text, 0⟩

def current (stream : TokenStream) : Token :=
  stream.ahead.headD stream.finish

/-- The token after the current one. -/
def following (stream : TokenStream) : Token :=
  stream.ahead.tail.headD stream.finish

def rest (stream : TokenStream) : TokenStream :=
  { stream with ahead := stream.ahead.tail }

end TokenStream

abbrev Parser := EStateM ParseError TokenStream

namespace Parser

def current : Parser Token := do
  return (← get).current

def currentKind : Parser TokenKind := do
  return (← current).kind

def followingKind : Parser TokenKind := do
  return (← get).following.kind

/-- The number of tokens left, which bounds how often anything can still be repeated or nested. -/
def remaining : Parser Nat := do
  return (← get).ahead.length

def advance : Parser Unit :=
  modify TokenStream.rest

/-- Fails at the current token. -/
def unexpected (expected : Expectation) : Parser α := do
  let token ← current
  throw (.unexpected expected token.kind token.span)

def unsupported (kind : Unsupported) : Parser α := do
  let token ← current
  throw (.unsupported kind token.span)

def isAt (kind : TokenKind) : Parser Bool := do
  return (← currentKind) == kind

/-- Passes the current token if it is of this kind. -/
def accept (kind : TokenKind) : Parser Bool := do
  if ← isAt kind then
    advance
    return true
  else
    return false

def atSymbol (mark : Symbol) : Parser Bool :=
  isAt (.symbol mark)

def atKeyword (word : Keyword) : Parser Bool :=
  isAt (.keyword word)

def acceptSymbol (mark : Symbol) : Parser Bool :=
  accept (.symbol mark)

def acceptKeyword (word : Keyword) : Parser Bool :=
  accept (.keyword word)

def expectSymbol (mark : Symbol) : Parser Unit := do
  if !(← acceptSymbol mark) then
    unexpected (.symbol mark)

def expectKeyword (word : Keyword) : Parser Unit := do
  if !(← acceptKeyword word) then
    unexpected (.keyword word)

/-- Passes a name that is this word, in whatever case. -/
def acceptWord (word : String) : Parser Bool := do
  match ← currentKind with
  | .identifier name =>
      if sameWord name word then
        advance
        return true
      else
        return false
  | _ => return false

def expectWord (word : String) : Parser Unit := do
  if !(← acceptWord word) then
    unexpected (.word word)

def identifier : Parser String := do
  match ← currentKind with
  | .identifier name =>
      advance
      return name
  | _ => unexpected .identifier

def atIdentifier : Parser Bool := do
  match ← currentKind with
  | .identifier _ => return true
  | _ => return false

/-- The items after the first one of a list, each behind a comma. -/
def commaRest (item : Parser α) : Nat → Parser (List α)
  | 0 => return []
  | bound + 1 => do
      if ← acceptSymbol .comma then
        let next ← item
        let others ← commaRest item bound
        return next :: others
      else
        return []

/-- One item or more, with commas between. -/
def commaList (item : Parser α) : Parser (List α) := do
  let first ← item
  let others ← commaRest item (← remaining)
  return first :: others

/-- The item, if the keyword stands before it. -/
def afterKeyword (word : Keyword) (item : Parser α) : Parser (Option α) := do
  if ← acceptKeyword word then
    return some (← item)
  else
    return none

/-- What stands between parentheses. -/
def parenthesized (item : Parser α) : Parser α := do
  expectSymbol .leftParen
  let inner ← item
  expectSymbol .rightParen
  return inner

/-- Passes any number of this symbol. -/
def skipAll (mark : Symbol) : Nat → Parser Unit
  | 0 => return
  | bound + 1 => do
      if ← acceptSymbol mark then
        skipAll mark bound

end Parser

end ShardedSql.Sql
