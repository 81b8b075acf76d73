import ShardedSql.Numeric.Binary
import ShardedSql.Numeric.Digits
import ShardedSql.Text.Words

/-!
Floating-point numbers read from a text: digits with at most one point among them and perhaps an
exponent, or one of the words for what is no finite number.
-/

namespace ShardedSql.Numeric

open Text

/-- The digits at the front, and what stands behind them. -/
def cutDigits (chars : List Char) : List Char × List Char :=
  (chars.takeWhile Char.isDigit, chars.dropWhile Char.isDigit)

/-- The digits behind a point, if there is one, and what follows. -/
def cutPlaces : List Char → List Char × List Char
  | '.' :: rest => cutDigits rest
  | chars => ([], chars)

/-- The power of ten that an exponent asks for; nothing asks for none. -/
def readPower : List Char → Option Int
  | [] => some 0
  | letter :: rest => if letter = 'e' ∨ letter = 'E' then readInt? rest else none

/-- A number without a sign as digits and a power of ten. -/
def readScientific (chars : List Char) : Option (Nat × Int) := do
  let (whole, behind) := cutDigits chars
  let (places, rest) := cutPlaces behind
  guard !(whole ++ places).isEmpty
  let power ← readPower rest
  return (ofDigits (whole ++ places), power - places.length)

namespace Binary

/-- A number without a sign. -/
def readUnsigned? (format : BinaryFormat) (negative : Bool) (chars : List Char) :
    Option (Binary format) :=
  let word := String.ofList chars
  if sameWord word "inf" || sameWord word "infinity" then some (infinity format negative)
  else if sameWord word "nan" then some (if negative then (nan format).neg else nan format)
  else (readScientific chars).map fun (digits, power) => ofScientific format negative digits power

/-- The number nearest to the one that a text writes. -/
def read? (format : BinaryFormat) (text : String) : Option (Binary format) :=
  match text.toList with
  | '-' :: rest => readUnsigned? format true rest
  | '+' :: rest => readUnsigned? format false rest
  | chars => readUnsigned? format false chars

end Binary

end ShardedSql.Numeric
