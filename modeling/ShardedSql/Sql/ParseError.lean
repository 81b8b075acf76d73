import ShardedSql.Sql.Token

/-!
Why a text is not a statement that can be handled: a token that does not fit where it stands, or a
kind of statement that is turned away.
-/

namespace ShardedSql.Sql

open Text

/-- What would have fitted. -/
inductive Expectation where
  | statement
  | endOfStatement
  | expression
  | identifier
  | integer
  | typeName
  | insertSource
  | joinCondition
  | negatedPredicate
  | symbol (mark : Symbol)
  | keyword (word : Keyword)
  /-- A word with a meaning only at this place. -/
  | word (spelling : String)
deriving DecidableEq

def Expectation.text : Expectation → String
  | .statement => "SELECT, INSERT, UPDATE or DELETE"
  | .endOfStatement => "end of statement"
  | .expression => "expression"
  | .identifier => "identifier"
  | .integer => "integer"
  | .typeName => "type name"
  | .insertSource => "VALUES, SELECT or DEFAULT VALUES"
  | .joinCondition => "ON or USING"
  | .negatedPredicate => "IN, BETWEEN or LIKE after NOT"
  | .symbol mark => mark.title
  | .keyword k => k.spelling
  | .word spelling => spelling

/-- A kind of statement that is recognised but not handled. -/
inductive Unsupported where
  | opening (word : String)
  | setOperation (word : Keyword)
deriving DecidableEq

def Unsupported.text : Unsupported → String
  | .opening word => word
  | .setOperation word => word.spelling ++ " set operation"

inductive ParseError where
  | unsupported (kind : Unsupported) (span : Span)
  | unexpected (expected : Expectation) (found : TokenKind) (span : Span)
deriving DecidableEq

namespace ParseError

def span : ParseError → Span
  | .unsupported _ span => span
  | .unexpected _ _ span => span

/-- The reason without the place. A stretch of text that is no token speaks for itself. -/
def reason : ParseError → String
  | .unsupported kind _ => "unsupported statement kind: " ++ kind.text
  | .unexpected expected found _ =>
      match found with
      | .eof => "unexpected end of input: expected " ++ expected.text
      | .error reason => reason.message
      | other => "unexpected token: expected " ++ expected.text ++ ", found " ++ other.description

def message (e : ParseError) : String :=
  e.reason ++ " at position " ++ Numeric.natText e.span.start ++ ".." ++ Numeric.natText e.span.stop

end ParseError

end ShardedSql.Sql
