import ShardedSql.Numeric.DecimalDouble
import ShardedSql.Value

/-!
The order of values that rows are sorted by and extremes are taken in: nothing first, then truth
values, numbers, texts, bytes, moments and lists. Numbers compare by what they denote, days as their
first moment. A floating-point number compares with any other number as a double.
-/

namespace ShardedSql

open Numeric

/-- A number as it is compared with others. -/
inductive Quantity where
  | integer (n : Int)
  | decimal (d : Decimal)
  | floating (x : Double)

namespace Quantity

def ofValue? : Value → Option Quantity
  | .integer n => some (.integer n.val)
  | .single x => some (.floating (Binary.Single.toDouble x))
  | .double x => some (.floating x)
  | .decimal d => some (.decimal d)
  | _ => none

/-- The double that stands for a number. -/
def toDouble : Quantity → Double
  | .integer n => .ofInt .double n
  | .decimal d => d.toDouble
  | .floating x => x

def order : Quantity → Quantity → Ordering
  | .integer m, .integer n => compare m n
  | .decimal c, .decimal d => c.order d
  | .decimal d, .integer n => d.order (.ofInt n)
  | .integer n, .decimal d => (Decimal.ofInt n).order d
  | x, y => x.toDouble.totalCompare y.toDouble

end Quantity

namespace Value

/-- The place of a value's kind among the kinds. -/
def rank : Value → Nat
  | .null => 0
  | .bool _ => 1
  | .integer _ => 2
  | .single _ => 2
  | .double _ => 2
  | .decimal _ => 2
  | .text _ => 3
  | .bytes _ => 4
  | .date _ => 5
  | .dateTime _ => 5
  | .list _ => 6

/-- The moment a day or a moment stands for. -/
def moment? : Value → Option DateTime
  | .date d => some (.atMidnight d)
  | .dateTime m => some m
  | _ => none

def orderBool (a b : Bool) : Ordering :=
  compare a.toNat b.toNat

/-- The order of values that are not both lists. -/
def plainOrder (a b : Value) : Ordering :=
  match Quantity.ofValue? a, Quantity.ofValue? b with
  | some x, some y => x.order y
  | _, _ =>
      match a.moment?, b.moment? with
      | some x, some y => compare x.ordinal y.ordinal
      | _, _ =>
          match a, b with
          | .bool x, .bool y => orderBool x y
          | .text x, .text y => compareOfLessAndEq x y
          | .bytes x, .bytes y => compareOfLessAndEq x y
          | _, _ => compare a.rank b.rank

mutual

def order : Value → Value → Ordering
  | .list as, .list bs => orderAll as bs
  | a, b => plainOrder a b

/-- Lists compare at their first difference; the shorter of two equal beginnings comes first. -/
def orderAll : List Value → List Value → Ordering
  | [], [] => .eq
  | [], _ :: _ => .lt
  | _ :: _, [] => .gt
  | a :: as, b :: bs => (a.order b).then (orderAll as bs)

end

end Value

end ShardedSql
