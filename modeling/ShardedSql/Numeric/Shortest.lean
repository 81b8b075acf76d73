import ShardedSql.Numeric.Binary
import ShardedSql.Numeric.Digits

/-!
The fewest decimal digits that read back as the same floating-point number, and the two layouts
they are written in: plain, and plain with a visible point or else an exponent.
-/

namespace ShardedSql.Numeric

/-- The number `digits · 10 ^ exponent`. -/
structure Scientific where
  digits : Nat
  exponent : Int
deriving DecidableEq

/-- The numbers that round to one floating-point number, in quarters of its last place. -/
structure RoundingInterval where
  low : Nat
  value : Nat
  high : Nat
  closed : Bool

/-- The interval of `m · 2 ^ e`; below a power of two the spacing is half as wide. -/
def roundingInterval (format : BinaryFormat) (m : Nat) (e : Int) : RoundingInterval :=
  -- An even number takes in the ends, since a tie goes to the even neighbour.
  let narrow := m == 2 ^ format.fractionBits && e > format.minExponent
  ⟨if narrow then 4 * m - 1 else 4 * m - 2, 4 * m, 4 * m + 2, m % 2 == 0⟩

/-- Whether `digits · 10 ^ exponent` is in the interval, quarters counting `num / den`. -/
def RoundingInterval.holds (interval : RoundingInterval) (quarterNum quarterDen : Nat)
    (decimal : Scientific) : Bool :=
  let (up, down) := powerRatio 10 decimal.exponent
  let point := decimal.digits * up * quarterDen
  let low := interval.low * quarterNum * down
  let high := interval.high * quarterNum * down
  if interval.closed then low ≤ point && point ≤ high else low < point && point < high

/-- The neighbours of the value on the grid of multiples of `10 ^ exponent`, the nearer one first
and the upper one first when both are equally near. -/
def gridNeighbours (valueNum valueDen : Nat) (exponent : Int) : List Scientific :=
  let (up, down) := powerRatio 10 exponent
  let below := valueNum * down / (valueDen * up)
  let rest := valueNum * down % (valueDen * up)
  if 2 * rest < valueDen * up then [⟨below, exponent⟩, ⟨below + 1, exponent⟩]
  else [⟨below + 1, exponent⟩, ⟨below, exponent⟩]

/-- The first grid, coarsest first, with a neighbour in the interval. -/
def firstGrid (interval : RoundingInterval) (quarterNum quarterDen : Nat) :
    Nat → Int → Scientific
  | 0, exponent =>
      let value := interval.value * quarterNum
      ((gridNeighbours value quarterDen exponent).head?).getD ⟨0, 0⟩
  | tries + 1, exponent =>
      let value := interval.value * quarterNum
      match (gridNeighbours value quarterDen exponent).find?
          (interval.holds quarterNum quarterDen) with
      | some found => found
      | none => firstGrid interval quarterNum quarterDen tries (exponent - 1)

def stripZeros : Nat → Nat → Int → Scientific
  | 0, digits, exponent => ⟨digits, exponent⟩
  | tries + 1, digits, exponent =>
      if digits ≠ 0 ∧ digits % 10 = 0 then stripZeros tries (digits / 10) (exponent + 1)
      else ⟨digits, exponent⟩

/-- The shortest decimal that reads back as `m · 2 ^ e`, nearest to it among those. -/
def shortest (format : BinaryFormat) (m : Nat) (e : Int) : Scientific :=
  if m = 0 then ⟨0, 0⟩
  else
    let (quarterNum, quarterDen) := powerRatio 2 (e - 2)
    let whole := 4 * m * quarterNum / quarterDen
    let start : Int :=
      if 0 < whole then (Nat.toDigits 10 whole).length
      else 1 - (Nat.toDigits 10 (quarterDen / (4 * m * quarterNum))).length
    let found := firstGrid (roundingInterval format m e) quarterNum quarterDen 24 start
    stripZeros 24 found.digits found.exponent

/-- Digits with a point placed so that no exponent is needed. -/
def Scientific.plain (decimal : Scientific) : String :=
  let digits := Nat.toDigits 10 decimal.digits
  if 0 ≤ decimal.exponent then
    String.ofList (digits ++ List.replicate decimal.exponent.toNat '0')
  else
    let places := (-decimal.exponent).toNat
    let padded := List.replicate (places + 1 - digits.length) '0' ++ digits
    let split := padded.length - places
    String.ofList (padded.take split ++ '.' :: padded.drop split)

/-- One digit before the point, and the power of ten after the letter. -/
def Scientific.withExponent (decimal : Scientific) : String :=
  let digits := Nat.toDigits 10 decimal.digits
  let power := decimal.exponent + (digits.length - 1 : Nat)
  let mantissa :=
    match digits with
    | [] => []
    | [d] => [d]
    | d :: rest => d :: '.' :: rest
  String.ofList mantissa ++ "e" ++ intText power

namespace Binary

variable {format : BinaryFormat}

def signText (x : Binary format) : String :=
  if x.isNegative then "-" else ""

/-- Plain digits, whatever the magnitude; a whole number has no point. -/
def plainText (x : Binary format) : String :=
  match x.magnitude with
  | .nan => "NaN"
  | .infinite => x.signText ++ "inf"
  | .finite m e => x.signText ++ (shortest format m e).plain

/-- Numbers below `10 ^ -4` and from `10 ^ 16` up have an exponent; all others show a point. -/
def pointedText (x : Binary format) : String :=
  match x.magnitude with
  | .nan => "NaN"
  | .infinite => x.signText ++ "inf"
  | .finite m e =>
      let decimal := shortest format m e
      let power := decimal.exponent + ((Nat.toDigits 10 decimal.digits).length - 1 : Nat)
      let unsigned :=
        if m ≠ 0 ∧ (power < -4 ∨ 16 ≤ power) then decimal.withExponent
        else if 0 ≤ decimal.exponent then decimal.plain ++ ".0"
        else decimal.plain
      x.signText ++ unsigned

end Binary

end ShardedSql.Numeric
