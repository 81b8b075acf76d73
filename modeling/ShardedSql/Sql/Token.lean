import ShardedSql.Numeric.Shortest
import ShardedSql.Sql.Keyword
import ShardedSql.Sql.Span
import ShardedSql.Text.Printable

/-!
Tokens: the words, literals and marks a statement is made of, and the reasons why a stretch of text
is none of these.
-/

namespace ShardedSql.Sql

open Numeric Text

/-- Operators and punctuation. -/
inductive Symbol where
  | plus | minus | star | slash | percent
  | eq | notEq | lt | ltEq | gt | gtEq
  | concat | bitAnd | bitOr | bitNot | leftShift | rightShift
  | leftParen | rightParen | comma | semicolon | dot
  /-- Introduces a named placeholder. -/
  | colon
  /-- A positional placeholder. -/
  | question
deriving DecidableEq, Repr

/-- The name a message gives the symbol. -/
def Symbol.title : Symbol → String
  | .plus => "Plus" | .minus => "Minus" | .star => "Star" | .slash => "Slash"
  | .percent => "Percent" | .eq => "Eq" | .notEq => "NotEq" | .lt => "Lt" | .ltEq => "LtEq"
  | .gt => "Gt" | .gtEq => "GtEq" | .concat => "Concat" | .bitAnd => "BitAnd" | .bitOr => "BitOr"
  | .bitNot => "BitNot" | .leftShift => "LeftShift" | .rightShift => "RightShift"
  | .leftParen => "LeftParen" | .rightParen => "RightParen" | .comma => "Comma"
  | .semicolon => "Semicolon" | .dot => "Dot" | .colon => "Colon" | .question => "Question"

/-- Why a stretch of text is no token. -/
inductive LexError where
  | unterminatedComment
  | unterminatedString
  | unterminatedName
  | unterminatedBlob
  | oddBlobDigits
  | badBlobPair (pair : String)
  | integerTooLarge (digits : String)
  | strayCharacter (c : Char)
deriving DecidableEq, Repr

def LexError.message : LexError → String
  | .unterminatedComment => "unterminated block comment"
  | .unterminatedString => "unterminated string literal"
  | .unterminatedName => "unterminated quoted identifier"
  | .unterminatedBlob => "unterminated blob literal"
  | .oddBlobDigits => "odd number of hex digits in blob literal"
  | .badBlobPair pair => "invalid hex digits '" ++ pair ++ "' in blob literal"
  | .integerTooLarge digits =>
      "invalid integer '" ++ digits ++ "': number too large to fit in target type"
  | .strayCharacter c => "unexpected character '" ++ String.singleton c ++ "'"

inductive TokenKind where
  | integer (n : Int64)
  | float (x : Double)
  /-- A string literal, without its quotes and escapes. -/
  | string (text : String)
  | blob (bytes : List UInt8)
  /-- A bare or quoted name. -/
  | identifier (name : String)
  | keyword (word : Keyword)
  | symbol (mark : Symbol)
  /-- The end of the text. -/
  | eof
  | error (reason : LexError)
deriving DecidableEq

structure Token where
  kind : TokenKind
  span : Span
deriving DecidableEq

/-- Elements in brackets. -/
def listing (items : List String) : String :=
  "[" ++ joined ", " items ++ "]"

/-- The kind of a token as messages spell it, with its content. -/
def TokenKind.description : TokenKind → String
  | .integer n => "Integer(" ++ intText n.toInt ++ ")"
  | .float x => "Float(" ++ x.pointedText ++ ")"
  | .string text => "String(" ++ quoted text ++ ")"
  | .blob bytes => "Blob(" ++ listing (bytes.map fun b => natText b.toNat) ++ ")"
  | .identifier name => "Identifier(" ++ quoted name ++ ")"
  | .keyword word => "Keyword(" ++ word.title ++ ")"
  | .symbol mark => mark.title
  | .eof => "Eof"
  | .error reason => "Error(" ++ quoted reason.message ++ ")"

end ShardedSql.Sql
