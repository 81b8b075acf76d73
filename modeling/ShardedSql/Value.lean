import ShardedSql.Calendar
import ShardedSql.Numeric.Binary
import ShardedSql.Numeric.Decimal
import ShardedSql.Numeric.Shortest
import ShardedSql.Numeric.Sized
import ShardedSql.Sql.Syntax

/-!
Values: what parameters are bound to, what shard columns hold, and what rows are made of.
-/

namespace ShardedSql

open Numeric Sql Text

inductive Value where
  | null
  | bool (b : Bool)
  | integer (n : SizedInt)
  | single (x : Single)
  | double (x : Double)
  | decimal (d : Decimal)
  | text (s : String)
  | bytes (content : List UInt8)
  | date (d : Date)
  | dateTime (m : DateTime)
  /-- Several values bound to one placeholder. -/
  | list (items : List Value)

namespace Value

instance : Inhabited Value := ⟨.null⟩

def ofLiteral : Literal → Value
  | .integer n => .integer (.ofInt64 n)
  | .float x => .double x
  | .string s => .text s
  | .blob content => .bytes content
  | .boolean b => .bool b
  | .null => .null

def isNull : Value → Bool
  | .null => true
  | _ => false

/-- The name of the column type a value belongs to. -/
def kindName : Value → String
  | .null => "NULL"
  | .bool _ => "BOOLEAN"
  | .integer n =>
      match n.width with
      | .tiny => "TINYINT"
      | .small => "SMALLINT"
      | .regular => "INT"
      | .big => "BIGINT"
  | .single _ => "FLOAT"
  | .double _ => "DOUBLE"
  | .decimal _ => "DECIMAL"
  | .text _ => "TEXT"
  | .bytes _ => "BLOB"
  | .date _ => "DATE"
  | .dateTime _ => "DATETIME"
  | .list _ => "LIST"

/-- The 64-bit integer a number denotes, whatever its kind, if it denotes one. -/
def int64? : Value → Option Int
  | .integer n => some n.val
  | .single x => x.toInt?.filter fitsInt64
  | .double x => x.toInt?.filter fitsInt64
  | .decimal d => d.toInt64?
  | _ => none

def text? : Value → Option String
  | .text s => some s
  | _ => none

def bytesText (content : List UInt8) : String :=
  String.ofList (content.flatMap fun b =>
    (Nat.toDigits 16 (b.toNat / 16)) ++ Nat.toDigits 16 (b.toNat % 16))

mutual

/-- The text of a value; a text is its own. -/
def display : Value → String
  | .null => "NULL"
  | .bool b => if b then "true" else "false"
  | .integer n => intText n.val
  | .single x => x.plainText
  | .double x => x.plainText
  | .decimal d => d.text
  | .text s => s
  | .bytes content => bytesText content
  | .date d => d.text
  | .dateTime m => m.text
  | .list items => "(" ++ joined ", " (displayAll items) ++ ")"

def displayAll : List Value → List String
  | [] => []
  | v :: rest => v.display :: displayAll rest

end

mutual

/-- Equality by what values denote: a decimal equals one with other places, a not-a-number equals
nothing. Values of different kinds differ. -/
def same : Value → Value → Bool
  | .null, .null => true
  | .bool a, .bool b => a == b
  | .integer a, .integer b => a == b
  | .single a, .single b => a.sameNumber b
  | .double a, .double b => a.sameNumber b
  | .decimal a, .decimal b => a.order b == .eq
  | .text a, .text b => a == b
  | .bytes a, .bytes b => a == b
  | .date a, .date b => a == b
  | .dateTime a, .dateTime b => a == b
  | .list as, .list bs => sameAll as bs
  | _, _ => false

def sameAll : List Value → List Value → Bool
  | [], [] => true
  | a :: as, b :: bs => a.same b && sameAll as bs
  | _, _ => false

end

instance : BEq Value := ⟨same⟩

end Value

end ShardedSql
