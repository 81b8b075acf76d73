import ShardedSql.Error
import ShardedSql.Segment
import ShardedSql.Value

/-!
A list bound to one placeholder becomes as many placeholders as it has elements, so that every
placeholder is bound to a single value.
-/

namespace ShardedSql

open Text

/-- A text with the values bound to its placeholders in order. -/
structure Expanded where
  sql : String
  values : List Value

namespace Expanded

def isList : Value → Bool
  | .list _ => true
  | _ => false

/-- The text of a placeholder that is bound to a value, and the values it takes. -/
def placeholderFor : Value → Except ShardError (String × List Value)
  | .list [] => .error (.invalidShardValue "IN list" "empty list")
  | .list items => .ok (joined ", " (items.map fun _ => "?"), items)
  | v => .ok ("?", [v])

/-- A stretch of text after expansion, the values it takes, and the values left over. -/
structure Progress where
  text : List Char
  taken : List Value
  left : List Value

def Progress.after (front : List Char) (taken : List Value) (rest : Progress) : Progress :=
  ⟨front ++ rest.text, taken ++ rest.taken, rest.left⟩

/-- Expands the placeholders of a stretch of code; those beyond the last value stay as they are. -/
def expandCode : List Char → List Value → Except ShardError Progress
  | [], values => .ok ⟨[], [], values⟩
  | c :: rest, [] =>
      (expandCode rest []).map (Progress.after [c] [])
  | c :: rest, v :: values =>
      if c = '?' then do
        let (written, taken) ← placeholderFor v
        let progress ← expandCode rest values
        return progress.after written.toList taken
      else (expandCode rest (v :: values)).map (Progress.after [c] [])

def expandSegments : List Segment → List Value → Except ShardError Progress
  | [], values => .ok ⟨[], [], values⟩
  | segment :: rest, values => do
      let here ←
        if segment.kind = .code then expandCode segment.text values
        else pure ⟨segment.text, [], values⟩
      let others ← expandSegments rest here.left
      return others.after here.text here.taken

end Expanded

/-- Expands the lists among the values. Values without a placeholder follow the others as they are,
and a text whose values hold no list stays as it is. -/
def expandLists (sql : String) (values : List Value) : Except ShardError Expanded :=
  -- Without a list the text is not even looked at.
  if !values.any Expanded.isList then .ok ⟨sql, values⟩
  else do
    let progress ← Expanded.expandSegments (Segment.segments sql.toList) values
    return ⟨String.ofList progress.text, progress.taken ++ progress.left⟩

end ShardedSql
