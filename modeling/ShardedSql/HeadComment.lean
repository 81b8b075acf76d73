import ShardedSql.Text.Words

/-!
A comment before a statement can say where its rows are: `/* user_id:?0 */` names a column and the
value it holds. Optimizer hints, whose comment opens with a plus sign, say nothing of the kind.
-/

namespace ShardedSql

open Text

/-- Columns with references to their values, in the order of the comment. -/
structure HeadComment where
  entries : List (String × String)
deriving DecidableEq

namespace HeadComment

def empty : HeadComment :=
  ⟨[]⟩

def isEmpty (head : HeadComment) : Bool :=
  head.entries.isEmpty

/-- A column and a reference with one colon between them. -/
def readEntry (entry : List Char) : Option (String × String) :=
  match splitAt ':' entry with
  | [key, value] =>
      let key := trim key
      let value := trim value
      if key.isEmpty || value.isEmpty then none
      else some (String.ofList key, String.ofList value)
  | _ => none

/-- The entries between the commas; what is no entry is skipped. -/
def ofChars (inside : List Char) : HeadComment :=
  ⟨(splitAt ',' inside).filterMap readEntry⟩

def parse (inside : String) : HeadComment :=
  ofChars inside.toList

/-- The head comment of a text and the statement behind it, trimmed. -/
def splitChars (chars : List Char) : HeadComment × List Char :=
  let whole := trim chars
  match whole with
  | '/' :: '*' :: '+' :: _ => (empty, whole)
  | '/' :: '*' :: rest =>
      match cutAtPair '*' '/' rest with
      | some (inside, body) => (ofChars inside, trim body)
      | none => (empty, whole)
  | _ => (empty, whole)

def split (sql : String) : HeadComment × String :=
  let (head, body) := splitChars sql.toList
  (head, String.ofList body)

/-- Every reference given for a column, whatever the case of its name. -/
def valuesFor (head : HeadComment) (column : String) : List String :=
  (head.entries.filter fun entry => sameWord entry.1 column).map (·.2)

/-- The first of the references given for a column. -/
def get? (head : HeadComment) (column : String) : Option String :=
  (head.entries.find? fun entry => sameWord entry.1 column).map (·.2)

end HeadComment

end ShardedSql
