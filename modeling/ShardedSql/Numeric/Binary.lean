import ShardedSql.Numeric.Digits

/-!
Binary floating-point numbers of the interchange formats, computed exactly on their bits: reading a
ratio to the nearest number (ties to even), sums, products and powers, conversion between formats,
and the total order in which a negative zero comes before a positive one and the not-a-numbers stand
at the ends.
-/

namespace ShardedSql.Numeric

/-- The field widths of an interchange format. -/
structure BinaryFormat where
  exponentBits : Nat
  fractionBits : Nat

namespace BinaryFormat

def single : BinaryFormat := ⟨8, 23⟩

def double : BinaryFormat := ⟨11, 52⟩

def width (format : BinaryFormat) : Nat :=
  1 + format.exponentBits + format.fractionBits

/-- The unsigned pattern of infinity: all exponent bits set, no fraction. -/
def infinityPattern (format : BinaryFormat) : Nat :=
  (2 ^ format.exponentBits - 1) * 2 ^ format.fractionBits

def signPattern (format : BinaryFormat) : Nat :=
  2 ^ (format.exponentBits + format.fractionBits)

/-- The power of two that the last fraction bit of the smallest numbers counts. -/
def minExponent (format : BinaryFormat) : Int :=
  2 - 2 ^ (format.exponentBits - 1) - format.fractionBits

end BinaryFormat

/-- A floating-point number of the given format, by its bits. -/
structure Binary (format : BinaryFormat) where
  bits : BitVec format.width
deriving DecidableEq

abbrev Single := Binary .single

abbrev Double := Binary .double

/-- What a number is besides its sign: `finite m e` stands for `m · 2 ^ e`. -/
inductive Magnitude where
  | finite (significand : Nat) (exponent : Int)
  | infinite
  | nan
deriving DecidableEq

/-- The power `2 ^ exponent` as a ratio of naturals. -/
def powerRatio (base : Nat) (exponent : Int) : Nat × Nat :=
  if 0 ≤ exponent then (base ^ exponent.toNat, 1) else (1, base ^ (-exponent).toNat)

namespace Binary

variable {format : BinaryFormat}

def ofPattern (format : BinaryFormat) (negative : Bool) (pattern : Nat) : Binary format :=
  ⟨BitVec.ofNat _ (if negative then format.signPattern + pattern else pattern)⟩

def isNegative (x : Binary format) : Bool :=
  format.signPattern ≤ x.bits.toNat

/-- The bits below the sign. -/
def pattern (x : Binary format) : Nat :=
  x.bits.toNat % format.signPattern

def magnitude (x : Binary format) : Magnitude :=
  if x.pattern = format.infinityPattern then .infinite
  else if x.pattern > format.infinityPattern then .nan
  else
    let biased := x.pattern / 2 ^ format.fractionBits
    let fraction := x.pattern % 2 ^ format.fractionBits
    if biased = 0 then .finite fraction format.minExponent
    else .finite (2 ^ format.fractionBits + fraction) (format.minExponent + biased - 1)

def zero (format : BinaryFormat) (negative : Bool) : Binary format :=
  ofPattern format negative 0

def infinity (format : BinaryFormat) (negative : Bool) : Binary format :=
  ofPattern format negative format.infinityPattern

def nan (format : BinaryFormat) : Binary format :=
  ofPattern format false (format.infinityPattern + 2 ^ (format.fractionBits - 1))

def isNan (x : Binary format) : Bool :=
  x.magnitude == .nan

/-- The number with the opposite sign. -/
def neg (x : Binary format) : Binary format :=
  ofPattern format (!x.isNegative) x.pattern

/-- The nearest integer to `numerator / denominator`, a half going to the even neighbour. -/
def roundHalfEven (numerator denominator : Nat) : Nat :=
  let quotient := numerator / denominator
  let twice := 2 * (numerator % denominator)
  if twice > denominator || (twice == denominator && quotient % 2 == 1) then quotient + 1
  else quotient

/-- The exponent at which `numerator / denominator` is rounded: its leading bit lands on the hidden
bit of the format, unless that would fall below the smallest exponent. -/
def roundingExponent (format : BinaryFormat) (numerator denominator : Nat) : Int :=
  let estimate : Int := numerator.log2 - denominator.log2
  let (up, down) := powerRatio 2 estimate
  let leading := if numerator * down < denominator * up then estimate - 1 else estimate
  max (leading - format.fractionBits) format.minExponent

/-- The number nearest to `± numerator / denominator`. -/
def ofRatio (format : BinaryFormat) (negative : Bool) (numerator denominator : Nat) :
    Binary format :=
  if numerator = 0 then zero format negative
  else
    let exponent := roundingExponent format numerator denominator
    let (up, down) := powerRatio 2 exponent
    let significand := roundHalfEven (numerator * down) (denominator * up)
    let pattern := (exponent - format.minExponent).toNat * 2 ^ format.fractionBits + significand
    ofPattern format negative (min pattern format.infinityPattern)

/-- The number nearest to the integer. -/
def ofInt (format : BinaryFormat) (n : Int) : Binary format :=
  ofRatio format (n < 0) n.natAbs 1

/-- Decimal exponents outside this range lie beyond every format, however many digits follow. -/
def decimalReach : Int := 400

/-- The number nearest to `± digits · 10 ^ exponent`. -/
def ofScientific (format : BinaryFormat) (negative : Bool) (digits : Nat) (exponent : Int) :
    Binary format :=
  let magnitudeOfTen := exponent + (Nat.toDigits 10 digits).length
  if digits = 0 then zero format negative
  else if magnitudeOfTen > decimalReach then infinity format negative
  else if magnitudeOfTen < -decimalReach then zero format negative
  else
    let (up, down) := powerRatio 10 exponent
    ofRatio format negative (digits * up) down

/-- A finite number as a signed count of `2 ^ exponent`. -/
def signedCount (negative : Bool) (significand : Nat) : Int :=
  if negative then -(significand : Int) else significand

/-- The sum, rounded once. -/
def add (x y : Binary format) : Binary format :=
  match x.magnitude, y.magnitude with
  | .nan, _ => nan format
  | _, .nan => nan format
  | .infinite, .infinite => if x.isNegative = y.isNegative then x else nan format
  | .infinite, _ => x
  | _, .infinite => y
  | .finite m e, .finite n f =>
      let common := min e f
      let sum := signedCount x.isNegative m * 2 ^ (e - common).toNat
        + signedCount y.isNegative n * 2 ^ (f - common).toNat
      if sum = 0 then zero format (x.isNegative && y.isNegative)
      else
        let (up, down) := powerRatio 2 common
        ofRatio format (sum < 0) (sum.natAbs * up) down

/-- The product, rounded once. -/
def mul (x y : Binary format) : Binary format :=
  let negative := x.isNegative != y.isNegative
  match x.magnitude, y.magnitude with
  | .nan, _ => nan format
  | _, .nan => nan format
  | .infinite, .infinite => infinity format negative
  | .infinite, .finite n _ => if n = 0 then nan format else infinity format negative
  | .finite m _, .infinite => if m = 0 then nan format else infinity format negative
  | .finite m e, .finite n f =>
      let (up, down) := powerRatio 2 (e + f)
      ofRatio format negative (m * n * up) down

/-- The product of `product` and `square ^ exponent` by repeated squaring, each step rounded. -/
def mulPower (product square : Binary format) (exponent : Nat) : Binary format :=
  if exponent = 0 then product
  else
    let next := if exponent % 2 = 1 then product.mul square else product
    mulPower next (square.mul square) (exponent / 2)
termination_by exponent

/-- The same number in the double format; a not-a-number keeps its sign and payload. -/
def Single.toDouble (x : Single) : Double :=
  match x.magnitude with
  | .nan =>
      ofPattern .double x.isNegative
        (BinaryFormat.double.infinityPattern + 2 ^ (51 : Nat)
          + (x.pattern - BinaryFormat.single.infinityPattern) % 2 ^ (22 : Nat) * 2 ^ (29 : Nat))
  | .infinite => infinity .double x.isNegative
  | .finite m e =>
      let (up, down) := powerRatio 2 e
      ofRatio .double x.isNegative (m * up) down

/-- The integer a number denotes, when it denotes one. -/
def toInt? (x : Binary format) : Option Int :=
  match x.magnitude with
  | .finite m e =>
      let (up, down) := powerRatio 2 e
      if m * up % down = 0 then some (signedCount x.isNegative (m * up / down)) else none
  | _ => none

/-- The place of a number in the total order: patterns count away from zero on either side. -/
def orderKey (x : Binary format) : Int :=
  if x.isNegative then -(x.pattern : Int) - 1 else x.pattern

def totalCompare (x y : Binary format) : Ordering :=
  compare x.orderKey y.orderKey

/-- Equality of what the numbers denote: both zeros are equal, a not-a-number equals nothing. -/
def sameNumber (x y : Binary format) : Bool :=
  !x.isNan && !y.isNan && (x == y || (x.pattern == 0 && y.pattern == 0))

end Binary

end ShardedSql.Numeric
