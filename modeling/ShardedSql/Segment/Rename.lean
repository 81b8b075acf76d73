import ShardedSql.Segment

/-!
Tables renamed in the text of a statement. Whole words are replaced, in code and hints, in a single
pass, so a new name is never taken for an old one. A word behind a point is a column, unless another
point follows it.
-/

namespace ShardedSql

open Text

/-- An old name and the new one. -/
structure Renaming where
  old : String
  new : String
deriving DecidableEq

namespace Segment

/-- The characters of words to rename: those of unquoted names and all characters beyond ASCII. -/
def isNameChar (c : Char) : Bool :=
  c.isAlpha || c.isDigit || c == '_' || c == '$' || 0x80 ≤ c.toNat

/-- The new name of a word, if it has one. -/
def renamed (renamings : List Renaming) (word : List Char) : List Char :=
  match renamings.find? fun entry => sameChars entry.old.toList word with
  | some entry => entry.new.toList
  | none => word

/-- The text with its words renamed; `afterPoint` says that a point stands before it. -/
def renameText (renamings : List Renaming) (afterPoint : Bool) : List Char → List Char
  | [] => []
  | c :: rest =>
      if isNameChar c then
        let word := c :: rest.takeWhile isNameChar
        let others := rest.dropWhile isNameChar
        -- Between two points stands a table that a schema qualifies.
        let isColumn := afterPoint && others.head? ≠ some '.'
        (if isColumn then word else renamed renamings word)
          ++ renameText renamings false others
      else c :: renameText renamings (c == '.') rest
termination_by chars => chars.length
decreasing_by
  · have := (List.dropWhile_sublist isNameChar (l := rest)).length_le
    simp only [List.length_cons]
    omega
  · simp only [List.length_cons]
    omega

def rename (renamings : List Renaming) (segment : Segment) : List Char :=
  match segment.kind with
  | .code => renameText renamings false segment.text
  | .hint => renameText renamings false segment.text
  | .literal => segment.text
  | .comment => segment.text

end Segment

/-- The text with every word that is an old name replaced. -/
def renameWords (renamings : List Renaming) (sql : String) : String :=
  String.ofList ((Segment.segments sql.toList).flatMap (Segment.rename renamings))

end ShardedSql
