import ShardedSql.Text.LetterCase
import ShardedSql.Value

/-!
Rows of results. A row is read by the names its columns carry, which may be spelled in another style
than the columns of a statement, and by its first value when a statement answers a single one.
-/

namespace ShardedSql

open Text

/-- What merging needs to know of a row. -/
class ResultRow (R : Type) where
  /-- The value under a name. -/
  property? : R → String → Option Value
  /-- The value of a row that is read as a single one. -/
  scalar? : R → Option Value
  /-- A row that holds nothing but the value. -/
  ofScalar : Value → R
  /-- Whether the row is a bare value, without names. -/
  isScalar : R → Bool
  /-- A row that holds nothing but the value, named as in this one. -/
  withScalar : R → Value → R

instance : ResultRow Value where
  property? _ _ := none
  scalar? v := some v
  ofScalar v := v
  isScalar _ := true
  withScalar _ v := v

/-- Named values, in the order of the columns. -/
structure Row where
  columns : List (String × Value)

namespace Row

def empty : Row :=
  ⟨[]⟩

def push (row : Row) (label : String) (value : Value) : Row :=
  ⟨row.columns ++ [(label, value)]⟩

/-- The value of the first column with this name, in whatever case. -/
def get? (row : Row) (label : String) : Option Value :=
  (row.columns.find? fun column => sameWord column.1 label).map (·.2)

def size (row : Row) : Nat :=
  row.columns.length

def isEmpty (row : Row) : Bool :=
  row.columns.isEmpty

/-- The name of a value that has no other. -/
def defaultLabel : String :=
  "value"

def firstLabel (row : Row) : String :=
  match row.columns with
  | (label, _) :: _ => label
  | [] => defaultLabel

instance : ResultRow Row where
  property? := get?
  scalar? row := row.columns.head?.map (·.2)
  ofScalar v := ⟨[(defaultLabel, v)]⟩
  isScalar _ := false
  withScalar row v := ⟨[(row.firstLabel, v)]⟩

instance : BEq Row where
  beq a b := a.columns == b.columns

end Row

/-- How the name of a column is spelled in rows. -/
abbrev ColumnMapper := String → String

namespace ColumnMapper

def identity : ColumnMapper :=
  fun column => column

/-- The characters of a name without its underscores; one that follows an underscore is in upper
case, unless nothing stands before it. `pending` says that an underscore was passed. -/
def camelChars (written : Bool) (pending : Bool) : List Char → List Char
  | [] => []
  | '_' :: rest => camelChars written written rest
  | c :: rest => (if pending then upperChar c else [c]) ++ camelChars true false rest

/-- Names in camel case: `created_at` becomes `createdAt`. -/
def camelCase : ColumnMapper :=
  fun column => String.ofList (camelChars false false column.toList)

/-- ASCII letters in upper case. -/
def upperCase : ColumnMapper :=
  upperAscii

end ColumnMapper

end ShardedSql
