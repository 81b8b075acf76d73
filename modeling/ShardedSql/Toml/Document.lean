import ShardedSql.Toml.Reader

/-!
Documents as tables: every line goes into the table of the header above it.
-/

namespace ShardedSql.Toml

/-- The table read so far, and the header that the next entries belong to. -/
structure Progress where
  document : Table
  header : List String

namespace Progress

def start : Progress :=
  ⟨.empty .header, []⟩

/-- Takes in one more line. -/
def add (progress : Progress) : Reader.Line → Option Progress
  | .header path key => do
      return ⟨← progress.document.openTable path key, path ++ [key]⟩
  | .repeatedHeader path key => do
      return ⟨← progress.document.openRepeated path key, path ++ [key]⟩
  | .entry path key value => do
      let document ←
        progress.document.changeAt .passed (Table.assign path key value) progress.header
      return { progress with document }

end Progress

/-- The table that a document describes. -/
def Table.ofDocument (document : String) : Option Table := do
  let lines ← readLines document
  let progress ← lines.foldlM Progress.add .start
  return progress.document

end ShardedSql.Toml
