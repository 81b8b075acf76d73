import ShardedSql.Error
import ShardedSql.NameSet
import ShardedSql.Value

/-!
Strategies: which shards hold the rows with a given value in the column a table is sharded by. A
shard is named by the suffix of its table.
-/

namespace ShardedSql

open Numeric Text

/-- A strategy given from outside. -/
structure CustomStrategy where
  column : String
  /-- Empty where the suffixes cannot be listed. -/
  allSuffixes : NameSet
  suffixesFor : Value → Except ShardError NameSet
  /-- How the strategy describes itself. -/
  description : String

inductive Strategy where
  /-- The remainder of the value by the modulus. -/
  | modulo (column : String) (modulus : Nat) (positive : 0 < modulus)
  /-- The month of a day or a moment. -/
  | month (column : String)
  /-- The text of the value itself. -/
  | value (column : String)
  | custom (strategy : CustomStrategy)

namespace Strategy

/-- The strategy by remainders; the modulus has to be positive. -/
def modulo? (column : String) (modulus : Int) : Except ShardError Strategy :=
  if h : 0 < modulus then .ok (.modulo column modulus.toNat (by omega))
  else .error (.configuration (.nonPositiveModulus modulus))

def column : Strategy → String
  | .modulo column _ _ => column
  | .month column => column
  | .value column => column
  | .custom strategy => strategy.column

/-- The call that configures the strategy, as error messages show it. -/
def call : Strategy → String
  | .modulo column modulus _ => "mod(" ++ column ++ ", " ++ natText modulus ++ ")"
  | .month column => "month(" ++ column ++ ")"
  | .value column => "val(" ++ column ++ ")"
  | .custom strategy => strategy.description

def description : Strategy → String
  | .modulo column modulus _ =>
      "ModStrategy \x7b column: " ++ quoted column ++ ", modulus: " ++ natText modulus ++ " \x7d"
  | .month column => "MonthStrategy \x7b column: " ++ quoted column ++ " \x7d"
  | .value column => "ValueStrategy \x7b column: " ++ quoted column ++ " \x7d"
  | .custom strategy => strategy.description

/-- Every suffix the table may have; none where they cannot be listed. -/
def allSuffixes : Strategy → NameSet
  | .modulo _ modulus _ => .ofList ((List.range modulus).map natText)
  | .month _ => .ofList ((List.range 12).map fun n => natText (n + 1))
  | .value _ => ∅
  | .custom strategy => strategy.allSuffixes

/-- The integer a value denotes as a shard key; a text is read as an integer or as a decimal. -/
def keyInteger? : Value → Option Int
  | .text s =>
      let key := trimmed s
      match readInt64? key with
      | some n => some n
      -- A whole number may be written with places or an exponent.
      | none => (Decimal.read? key).bind Decimal.toInt64?
  | v => v.int64?

/-- The month a value lies in; a text starts with a day, and a blank or a `T` may end it. -/
def keyMonth? : Value → Option Nat
  | .date d => some d.month
  | .dateTime m => some m.date.month
  | .text s =>
      let day := (trim s.toList).takeWhile fun c => c ≠ ' ' && c ≠ 'T'
      (Date.read? (String.ofList day)).map (·.month)
  | _ => none

/-- The text a value is its own suffix by; lists and bytes have none. -/
def keyText? : Value → Option String
  | .list _ => none
  | .bytes _ => none
  | v => some v.display

def singleton (suffix : String) : NameSet :=
  .ofList [suffix]

/-- The suffixes of the shards that hold rows with this value. No row holds nothing. -/
def suffixesFor (strategy : Strategy) (v : Value) : Except ShardError NameSet :=
  let suffixOr (suffix : Option String) : Except ShardError NameSet :=
    match suffix with
    | some s => .ok (singleton s)
    | none => .error (.invalidShardValue strategy.call v.display)
  match strategy with
  | .custom rule => rule.suffixesFor v
  | .modulo _ modulus _ =>
      if v.isNull then .ok ∅
      else suffixOr ((keyInteger? v).map fun n => intText (n % modulus))
  | .month _ => if v.isNull then .ok ∅ else suffixOr ((keyMonth? v).map natText)
  | .value _ => if v.isNull then .ok ∅ else suffixOr (keyText? v)

end Strategy

end ShardedSql
