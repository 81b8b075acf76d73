import ShardedSql.Error
import ShardedSql.HeadComment
import ShardedSql.Sql.Grammar
import ShardedSql.Sql.Tables

/-!
A statement ready to be routed: its head comment, its text without it, and what the text says.
-/

namespace ShardedSql

open Sql

structure PreparedStatement where
  head : HeadComment
  sql : String
  statement : Statement

namespace PreparedStatement

def tableNames (prepared : PreparedStatement) : NameSet :=
  prepared.statement.tableNames

/-- Splits off the head comment and reads the rest. -/
def ofText (text : String) : Except ShardError PreparedStatement :=
  let (head, body) := HeadComment.split text
  match Statement.parse body with
  | .ok statement => .ok ⟨head, body, statement⟩
  | .error cause => .error (.ofParse cause)

theorem ofText_eq_ok {text : String} {prepared : PreparedStatement} :
    ofText text = .ok prepared ↔ HeadComment.split text = (prepared.head, prepared.sql) ∧
      Statement.parse prepared.sql = .ok prepared.statement := by
  unfold ofText
  obtain ⟨head, sql, statement⟩ := prepared
  cases HeadComment.split text with
  | mk front body =>
      simp only [Prod.mk.injEq]
      constructor
      · intro reads
        cases read : Statement.parse body with
        | error cause => simp [read] at reads
        | ok parsed =>
            simp only [read, Except.ok.injEq, mk.injEq] at reads
            obtain ⟨rfl, rfl, rfl⟩ := reads
            exact ⟨⟨rfl, rfl⟩, read⟩
      · rintro ⟨⟨rfl, rfl⟩, read⟩
        rw [read]

end PreparedStatement

end ShardedSql
