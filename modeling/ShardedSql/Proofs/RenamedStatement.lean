import ShardedSql.Proofs.PlainNames
import ShardedSql.Proofs.RenamedTokens
import ShardedSql.Proofs.RespelledStatement
import ShardedSql.Proofs.ShardStatements
import ShardedSql.Proofs.TableUses

/-!
The statement that a renamed text reads as. `Reads` says when the renamer and the grammar agree on
what a text holds. Main statement: then the text for a shard is a statement again, the prepared one
with each name renamed by the part it plays.
-/

namespace ShardedSql

open Numeric Text Sql Segment

/-- What renaming makes of the names of a statement. -/
def shardNames (renamings : List Renaming) : NameMap
  | .schemaTable, name => name
  | .qualifiedColumn, name => name
  | .type, name => renameName (upperNames renamings) name
  | .table, name => renameName renamings name
  | .schema, name => renameName renamings name
  | .qualifier, name => renameName renamings name
  | .other, name => renameName renamings name

theorem names_shardSpelling {renamings : List Renaming} (shards : NamesShards renamings) :
    (shardSpelling shards).names = shardNames renamings := by
  funext role name
  cases role <;> rfl

/-- A renamed text is a statement again. -/
theorem parse_renameWords {renamings : List Renaming} {sql : String} {statement : Statement}
    (shards : NamesShards renamings) (parsed : Statement.parse sql = .ok statement)
    (aligned : Aligned renamings .free (lexemes sql.toList))
    (labels : KeepsLabels (renameName renamings) (tokenKinds sql)) :
    ∃ statement', Statement.parse (renameWords renamings sql) = .ok statement' ∧
      statement'.named .identity = statement.named (shardNames renamings) := by
  have clear (reason : LexError) : .error reason ∉ kindsIn sql.toList := by
    rw [← tokenKinds_eq]
    exact error_not_mem_tokenKinds parsed reason
  have kinds := (kindsIn_renamedAfter shards sql.toList .free aligned clear).2
  rw [← names_shardSpelling shards]
  refine parse_respelled ?_ labels parsed
  rw [tokenKinds_eq, tokenKinds_eq, renameWords_eq, String.toList_ofList]
  exact kinds

/-- A name that means nothing to the grammar: it is no word the grammar looks for, and no digit
stands first. -/
def IsFree (name : String) : Prop :=
  Keyword.lookup name = none ∧
    (∀ word ∈ ["IGNORE", "DUPLICATE", "KEY"], sameWord name word = false) ∧
    ∀ c ∈ name.toList.head?, c.isDigit = false

instance (name : String) : Decidable (IsFree name) :=
  have : Decidable (∀ c ∈ name.toList.head?, c.isDigit = false) := Option.decidableForallMem _
  inferInstanceAs (Decidable (_ ∧ _ ∧ _))

/-- The renamer and the grammar agree on what the prepared text holds, as far as the tables that are
renamed go. -/
structure ShardStatement.Reads (s : ShardStatement) (prepared : PreparedStatement) : Prop where
  free : ∀ entry ∈ s.tables, IsFree entry.1
  plain : ∀ use ∈ prepared.statement.tableUses, listed use ∈ s.tables.map (·.1) → IsPlain use.2
  aligned : Aligned s.renamings .free (lexemes prepared.sql.toList)
  labels : KeepsLabels (renameName s.renamings) (tokenKinds prepared.sql)

theorem ShardStatement.namesShards {s : ShardStatement}
    (numbered : ∀ entry ∈ s.tables, ∃ suffix, IsNumeric suffix ∧
      entry.2 = physicalName entry.1 suffix)
    (free : ∀ entry ∈ s.tables, IsFree entry.1) : NamesShards s.renamings where
  suffix renamed member := by
    obtain ⟨entry, inside, rfl⟩ := List.mem_map.mp member
    obtain ⟨suffix, ⟨nonempty, digit⟩, new⟩ := numbered entry inside
    refine ⟨suffix.toList, nonempty, digit, ?_⟩
    rw [new, physicalName, String.toList_append, String.toList_append, List.append_assoc]
    rfl
  unreserved renamed member := by
    obtain ⟨entry, inside, rfl⟩ := List.mem_map.mp member
    exact (free entry inside).1
  contextual renamed member := by
    obtain ⟨entry, inside, rfl⟩ := List.mem_map.mp member
    exact (free entry inside).2.1
  starts renamed member c first := by
    obtain ⟨entry, inside, rfl⟩ := List.mem_map.mp member
    exact (free entry inside).2.2 c first

section Statements

variable {rewriter : Rewriter} {bindings : Bindings} {text : String}
  {prepared : PreparedStatement} {rewrites : Rewrites} {s : ShardStatement}

/-- The text for a shard is the prepared statement with its names renamed. -/
theorem Rewriter.parse_rewrite (counts : rewriter.routers.Counts)
    (prepares : PreparedStatement.ofText text = .ok prepared)
    (rewritten : rewriter.rewrite bindings prepared = .ok rewrites) (member : s ∈ rewrites.toList)
    (reads : s.Reads prepared) :
    ∃ parsed, Statement.parse s.sql = .ok parsed ∧
      parsed.named .identity = prepared.statement.named (shardNames s.renamings) := by
  obtain ⟨renamed, tables⟩ := mem_rewrite counts rewritten member
  have numbered : ∀ entry ∈ s.tables, ∃ suffix, IsNumeric suffix ∧
      entry.2 = physicalName entry.1 suffix := by
    intro entry inside
    obtain ⟨suffix, ⟨_, numeric⟩, new⟩ := tables entry inside
    exact ⟨suffix, numeric, new⟩
  rw [renamed]
  exact parse_renameWords (ShardStatement.namesShards numbered reads.free)
    (PreparedStatement.ofText_eq_ok.mp prepares).2 reads.aligned reads.labels

end Statements

end ShardedSql
