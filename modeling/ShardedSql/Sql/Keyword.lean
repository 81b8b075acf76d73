import ShardedSql.Text.Words

/-!
The reserved words. Function names and the words that only open statements which are turned away
are not among them, so they may name tables and columns.
-/

namespace ShardedSql.Sql

open Text

inductive Keyword where
  | SELECT | FROM | WHERE | ORDER | BY | GROUP | HAVING | LIMIT | OFFSET | DISTINCT | ALL
  | JOIN | INNER | LEFT | RIGHT | FULL | OUTER | CROSS | ON | USING
  | UNION | INTERSECT | EXCEPT
  | INSERT | INTO | VALUES | UPDATE | SET | DELETE | DEFAULT
  | AND | OR | NOT | IN | BETWEEN | LIKE | IS | NULL | TRUE | FALSE | EXISTS
  | ASC | DESC | AS | CASE | WHEN | THEN | ELSE | END | CAST | WITH
deriving DecidableEq, Repr

namespace Keyword

def all : List Keyword :=
  [SELECT, FROM, WHERE, ORDER, BY, GROUP, HAVING, LIMIT, OFFSET, DISTINCT, ALL,
   JOIN, INNER, LEFT, RIGHT, FULL, OUTER, CROSS, ON, USING,
   UNION, INTERSECT, EXCEPT,
   INSERT, INTO, VALUES, UPDATE, SET, DELETE, DEFAULT,
   AND, OR, NOT, IN, BETWEEN, LIKE, IS, NULL, TRUE, FALSE, EXISTS,
   ASC, DESC, AS, CASE, WHEN, THEN, ELSE, END, CAST, WITH]

/-- The upper-case spelling. -/
def spelling : Keyword → String
  | SELECT => "SELECT" | FROM => "FROM" | WHERE => "WHERE" | ORDER => "ORDER" | BY => "BY"
  | GROUP => "GROUP" | HAVING => "HAVING" | LIMIT => "LIMIT" | OFFSET => "OFFSET"
  | DISTINCT => "DISTINCT" | ALL => "ALL" | JOIN => "JOIN" | INNER => "INNER" | LEFT => "LEFT"
  | RIGHT => "RIGHT" | FULL => "FULL" | OUTER => "OUTER" | CROSS => "CROSS" | ON => "ON"
  | USING => "USING" | UNION => "UNION" | INTERSECT => "INTERSECT" | EXCEPT => "EXCEPT"
  | INSERT => "INSERT" | INTO => "INTO" | VALUES => "VALUES" | UPDATE => "UPDATE" | SET => "SET"
  | DELETE => "DELETE" | DEFAULT => "DEFAULT" | AND => "AND" | OR => "OR" | NOT => "NOT"
  | IN => "IN" | BETWEEN => "BETWEEN" | LIKE => "LIKE" | IS => "IS" | NULL => "NULL"
  | TRUE => "TRUE" | FALSE => "FALSE" | EXISTS => "EXISTS" | ASC => "ASC" | DESC => "DESC"
  | AS => "AS" | CASE => "CASE" | WHEN => "WHEN" | THEN => "THEN" | ELSE => "ELSE" | END => "END"
  | CAST => "CAST" | WITH => "WITH"

/-- The name a message gives the word: its spelling with only the first letter in upper case. -/
def title (word : Keyword) : String :=
  match word.spelling.toList with
  | first :: rest => String.ofList (first :: foldCase rest)
  | [] => ""

/-- The reserved word spelled so, in whatever case of ASCII letters. -/
def lookup (word : String) : Option Keyword :=
  let upper := upperAscii word
  all.find? fun keyword => keyword.spelling == upper

theorem mem_all (word : Keyword) : word ∈ all := by
  cases word <;> decide

end Keyword

end ShardedSql.Sql
