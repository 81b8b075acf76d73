import ShardedSql.Numeric.Binary
import ShardedSql.Numeric.Decimal

/-!
The double that stands for a decimal beside floating-point numbers. A decimal of scale zero goes to
the nearest one, and places behind the point are divided away in one rounding. Zeros behind the last
digit come from a power of ten that is rounded as it is raised, so a number with many of them may
land next to the nearest double. Beyond a fixed number of bits the last digits are left out.
-/

namespace ShardedSql.Numeric.Decimal

/-- Digits from here on do not all take part. -/
def digitsLimit : Nat := 2 ^ (128 : Nat)

/-- How many digits are left out at a time. -/
def omittedDigits : Nat := 19

/-- Leaves out last digits, and the places they take, until the rest is below the limit. -/
def leadingDigits (digits : Nat) (scale : Int) : Nat × Int :=
  if digits < digitsLimit then (digits, scale)
  else leadingDigits (digits / 10 ^ omittedDigits) (scale - omittedDigits)
termination_by digits
decreasing_by
  simp only [digitsLimit, omittedDigits, Nat.not_lt] at *
  omega

/-- Scales from here on, on either side of the point, are not told apart: the number counts as
infinite. -/
def scaleLimit : Nat := 2 ^ (31 : Nat)

/-- The power of ten as repeated squaring in doubles gives it; the powers past the largest double
are infinite. -/
def powerOfTen (exponent : Nat) : Double :=
  (Binary.ofInt .double 1).mulPower (Binary.ofInt .double 10) exponent

/-- The double that stands for the number. -/
def toDouble (d : Decimal) : Double :=
  let negative : Bool := d.digits < 0
  if d.digits = 0 then .zero .double false
  else if d.scale = 0 then .ofInt .double d.digits
  else if scaleLimit ≤ d.scale.natAbs then .infinity .double negative
  else
    let (digits, scale) := leadingDigits d.digits.natAbs d.scale
    if 0 < scale then .ofScientific .double negative digits (-scale)
    else (Binary.ofRatio .double negative digits 1).mul (powerOfTen (-scale).toNat)

end ShardedSql.Numeric.Decimal
