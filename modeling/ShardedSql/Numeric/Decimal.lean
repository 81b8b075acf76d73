import ShardedSql.Numeric.Digits

/-!
Decimal numbers of any length. A decimal keeps the number of places it was written with: `2.00` and
`2` are the same number with two written forms.
-/

namespace ShardedSql.Numeric

/-- The number `digits / 10 ^ scale`; a negative scale appends zeros. -/
structure Decimal where
  digits : Int
  scale : Int
deriving DecidableEq

namespace Decimal

def ofInt (n : Int) : Decimal :=
  ⟨n, 0⟩

/-- The digits the number has at a scale that is at least its own; zero has none at any scale. -/
def digitsAt (d : Decimal) (scale : Int) : Int :=
  if d.digits = 0 then 0 else d.digits * 10 ^ (scale - d.scale).toNat

/-- How many digits stand before the point, less the zeros that directly follow it. -/
def leadingPlace (d : Decimal) : Int :=
  (Nat.toDigits 10 d.digits.natAbs).length - d.scale

/-- The order of two numbers of one sign. Only numbers that begin at the same place are brought to
one scale, so the exponents may lie as far apart as they like. -/
def orderAlike (x y : Decimal) : Ordering :=
  let scale := max x.scale y.scale
  match compare (x.digits.sign * x.leadingPlace) (y.digits.sign * y.leadingPlace) with
  | .eq => compare (x.digitsAt scale) (y.digitsAt scale)
  | different => different

/-- The order of the numbers denoted, whatever their scales. -/
def order (x y : Decimal) : Ordering :=
  match compare x.digits.sign y.digits.sign with
  | .eq => x.orderAlike y
  | different => different

/-- The exact sum, with as many places as the operand with more of them. Adding zero changes
nothing. -/
def add (x y : Decimal) : Decimal :=
  let scale := max x.scale y.scale
  if x.digits = 0 then y
  else if y.digits = 0 then x
  else ⟨x.digitsAt scale + y.digitsAt scale, scale⟩

/-- The integer a decimal denotes, when it denotes one. -/
def toInt? (d : Decimal) : Option Int :=
  if d.scale ≤ 0 then some (d.digitsAt 0)
  else
    let unit : Int := 10 ^ d.scale.toNat
    if d.digits % unit = 0 then some (d.digits / unit) else none

/-- The most digits an integer of 64 bits is written with. -/
def int64Digits : Int := 19

/-- The integer a decimal denotes, when it denotes one of 64 bits. The place of the first digit
settles most cases: before the point there are too many digits, or none. -/
def toInt64? (d : Decimal) : Option Int :=
  if d.digits = 0 then some 0
  else if d.leadingPlace ≤ 0 || int64Digits < d.leadingPlace then none
  else d.toInt?.filter fitsInt64

/-- Digits in which underscores may stand between and after, but not before the first digit. -/
def readSpacedNat? (chars : List Char) : Option Nat :=
  if chars.head? = some '_' then none else readNat? (chars.filter (· ≠ '_'))

def readSpacedInt? : List Char → Option Int
  | '-' :: rest => (readSpacedNat? rest).map fun n => -(n : Int)
  | '+' :: rest => (readSpacedNat? rest).map Int.ofNat
  | rest => (readSpacedNat? rest).map Int.ofNat

/-- The digits without their point, and the number of places behind it. -/
def withoutPoint (mantissa : List Char) : List Char × Nat :=
  match mantissa.span (· ≠ '.') with
  | (whole, _ :: places) => (whole ++ places, (places.filter (· ≠ '_')).length)
  | (whole, []) => (whole, 0)

/-- A decimal number: sign, digits with at most one point, and an optional exponent of ten. The
scale stays within 64 bits. -/
def read? (text : String) : Option Decimal := do
  -- The first letter E ends the digits.
  let (mantissa, rest) := text.toList.span fun c => c ≠ 'e' ∧ c ≠ 'E'
  let exponent ← match rest with
    | _ :: power => readInt? power
    | [] => some 0
  let (written, places) := withoutPoint mantissa
  let digits ← readSpacedInt? written
  let scale := (places : Int) - exponent
  if minInt64 ≤ scale ∧ scale ≤ maxInt64 then some ⟨digits, scale⟩ else none

/-- Digits with the point before the last `places` of them, padded to at least one whole digit. -/
def pointBefore (digits : List Char) (places : Nat) : List Char :=
  let padded := List.replicate (places + 1 - digits.length) '0' ++ digits
  let split := padded.length - places
  if places = 0 then padded else padded.take split ++ '.' :: padded.drop split

def signText (d : Decimal) : String :=
  if d.digits < 0 then "-" else ""

def signedPower (power : Int) : String :=
  if 0 ≤ power then "+" ++ intText power else intText power

/-- When a decimal is written with an exponent: more than so many zeros would have to follow the
point before its first digit, or its last digit before the point. -/
structure PlainLimit where
  leadingZeros : Nat
  trailingZeros : Nat

def plainLimit : PlainLimit :=
  ⟨5, 15⟩

/-- One digit before the point and the rest behind it, then the power of ten. -/
def smallText (d : Decimal) (digits : List Char) : String :=
  let power := (digits.length : Int) - d.scale - 1
  let mantissa :=
    match digits with
    | first :: second :: rest => first :: '.' :: second :: rest
    | short => short
  String.ofList mantissa ++ "E" ++ signedPower power

/-- The decimal with all its places. Zero is written without any. -/
def text (d : Decimal) : String :=
  let digits := Nat.toDigits 10 d.digits.natAbs
  if d.digits = 0 then "0"
  else if plainLimit.leadingZeros + digits.length < d.scale then
    d.signText ++ smallText d digits
  else if (plainLimit.trailingZeros : Int) < -d.scale then
    d.signText ++ String.ofList digits ++ "e" ++ signedPower (-d.scale)
  else
    d.signText ++ String.ofList
      (pointBefore (digits ++ List.replicate (-d.scale).toNat '0') d.scale.toNat)

/-- Removes a zero last place while there is one. -/
def dropZeroPlaces : Nat → Int → Decimal
  | 0, digits => ⟨digits, 0⟩
  | places + 1, digits =>
      if digits % 10 = 0 then dropZeroPlaces places (digits / 10) else ⟨digits, places + 1⟩

/-- The same number with the fewest places, and no exponent: one text for each number. -/
def plainText (d : Decimal) : String :=
  let least :=
    if d.digits = 0 then ⟨0, 0⟩
    else if d.scale ≤ 0 then ⟨d.digitsAt 0, 0⟩ else dropZeroPlaces d.scale.toNat d.digits
  least.signText ++ String.ofList
    (pointBefore (Nat.toDigits 10 least.digits.natAbs) least.scale.toNat)

end Decimal

end ShardedSql.Numeric
