import ShardedSql.Calendar
import ShardedSql.Numeric.FloatText
import ShardedSql.Text.Words
import ShardedSql.Toml.Value

/-!
Values that are written without quotes: truth values, integers, floating-point numbers, days and
times. A number may have an underscore between any two digits.
-/

namespace ShardedSql.Toml

open Numeric Text

/-- The characters that such a value is written with. -/
def isScalarChar (c : Char) : Bool :=
  c.isAlphanum || c == '+' || c == '-' || c == '.' || c == ':' || c == '_'

def digitIn (base : Nat) (c : Char) : Option Nat :=
  let value :=
    if c.isDigit then c.toNat - '0'.toNat
    else if c.isAlpha then c.toLower.toNat - 'a'.toNat + 10
    else base
  if value < base then some value else none

/-- Digits with underscores between them. -/
def readDigits (base : Nat) (chars : List Char) : Option Nat :=
  let groups := splitAt '_' chars
  if groups.any List.isEmpty then none
  else do
    let digits ← groups.flatten.mapM (digitIn base)
    return digits.foldl (fun n digit => base * n + digit) 0

/-- Decimal digits without a needless zero in front. -/
def readWhole (chars : List Char) : Option Nat :=
  match chars with
  | '0' :: _ :: _ => none
  | _ => readDigits 10 chars

/-- What stands behind a sign, and whether the sign is negative. -/
def splitSign : List Char → Bool × List Char
  | '-' :: rest => (true, rest)
  | '+' :: rest => (false, rest)
  | chars => (false, chars)

def readDecimalInteger (chars : List Char) : Option Int :=
  let (negative, digits) := splitSign chars
  (readWhole digits).map fun n => if negative then -(n : Int) else n

/-- An integer of 64 bits, in decimal digits or behind `0x`, `0o` or `0b`. -/
def readInteger (chars : List Char) : Option Int :=
  let n := match chars with
    | '0' :: 'x' :: digits => (readDigits 16 digits).map Int.ofNat
    | '0' :: 'o' :: digits => (readDigits 8 digits).map Int.ofNat
    | '0' :: 'b' :: digits => (readDigits 2 digits).map Int.ofNat
    | _ => readDecimalInteger chars
  n.filter fitsInt64

/-- Whether the characters are an exponent: nothing, or a letter with an integer. -/
def isExponent : List Char → Bool
  | [] => true
  | letter :: rest =>
      (letter == 'e' || letter == 'E') && (readDigits 10 (splitSign rest).2).isSome

/-- Whether the characters are a floating-point number. -/
def isFloat (chars : List Char) : Bool :=
  let unsigned := (splitSign chars).2
  let isExponentMark (c : Char) : Bool := c == 'e' || c == 'E'
  let whole := unsigned.takeWhile fun c => c != '.' && !isExponentMark c
  let rest := unsigned.drop whole.length
  if unsigned == "inf".toList || unsigned == "nan".toList then true
  else (readWhole whole).isSome &&
    match rest with
    | '.' :: behind =>
        let places := behind.takeWhile fun c => !isExponentMark c
        (readDigits 10 places).isSome && isExponent (behind.drop places.length)
    | _ => !rest.isEmpty && isExponent rest

/-- Whether the characters are a number past the largest double. Below the smallest one a number may
still be written, and so may infinity by its name. -/
def isTooLarge (chars : List Char) : Bool :=
  let (negative, unsigned) := splitSign chars
  match readScientific (unsigned.filter (· ≠ '_')) with
  | some (digits, power) =>
      !negative && Binary.ofScientific .double false digits power == .infinity .double false
  | none => false

/-- Two digits at the front, as a number. -/
def twoDigits : List Char → Option (Nat × List Char)
  | a :: b :: rest => if a.isDigit && b.isDigit then some (ofDigits [a, b], rest) else none
  | _ => none

/-- What stands behind a day at the front. -/
def afterDay : List Char → Option (List Char)
  | a :: b :: c :: d :: '-' :: rest => do
      let year ← readNat? [a, b, c, d]
      let (month, rest) ← twoDigits rest
      let rest ← readChar '-' rest
      let (day, rest) ← twoDigits rest
      let _ ← Date.ofParts? year month day
      return rest
  | _ => none

/-- What stands behind a fraction of a second, if there is one. -/
def afterFraction : List Char → Option (List Char)
  | '.' :: rest =>
      let digits := rest.takeWhile Char.isDigit
      if digits.isEmpty then none else some (rest.drop digits.length)
  | chars => some chars

/-- What stands behind a time of day at the front. -/
def afterTime (chars : List Char) : Option (List Char) := do
  let (hour, rest) ← twoDigits chars
  let rest ← readChar ':' rest
  let (minute, rest) ← twoDigits rest
  let rest ← readChar ':' rest
  let (second, rest) ← twoDigits rest
  if hour < 24 && minute < 60 && second ≤ 60 then afterFraction rest else none

/-- Whether the characters are a distance from universal time, or nothing. -/
def isOffset : List Char → Bool
  | [] => true
  | ['Z'] => true
  | ['z'] => true
  | sign :: rest =>
      (sign == '+' || sign == '-') &&
        match twoDigits rest with
        | some (hour, ':' :: minutes) =>
            match twoDigits minutes with
            | some (minute, []) => hour < 24 && minute < 60
            | _ => false
        | _ => false

/-- Whether the characters are a day, a time, or both. -/
def isMoment (chars : List Char) : Bool :=
  match afterDay chars with
  | some [] => true
  | some (between :: time) =>
      (between == 'T' || between == 't' || between == ' ') &&
        ((afterTime time).map isOffset).getD false
  | none => afterTime chars == some []

/-- The value that the characters write. -/
def readScalar (chars : List Char) : Option Value :=
  if chars == "true".toList then some (.boolean true)
  else if chars == "false".toList then some (.boolean false)
  else
    match readInteger chars with
    | some n => some (.integer n)
    | none =>
        if isFloat chars then
          if isTooLarge chars then none else some (.float (String.ofList chars))
        else if isMoment chars then some (.moment (String.ofList chars))
        else none

/-- A value at the front. A single blank may stand between a day and a time. -/
def cutScalar (chars : List Char) : Option (Value × List Char) :=
  let word := chars.takeWhile isScalarChar
  let rest := chars.drop word.length
  let (word, rest) := match afterDay word, rest with
    | some [], ' ' :: digit :: after =>
        if digit.isDigit then
          let time := (digit :: after).takeWhile isScalarChar
          (word ++ ' ' :: time, (digit :: after).drop time.length)
        else (word, rest)
    | _, _ => (word, rest)
  (readScalar word).map (·, rest)

end ShardedSql.Toml
