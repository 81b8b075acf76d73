import ShardedSql.Numeric.Digits
import ShardedSql.Text.Words

/-!
Days and moments of the Gregorian calendar, in the order of time, with the one written form of a
day that is read: year, month and day between hyphens.
-/

namespace ShardedSql

open Numeric Text

/-- Whether the year has a 29th of February. -/
def isLeapYear (year : Int) : Bool :=
  year % 4 = 0 && (year % 100 ≠ 0 || year % 400 = 0)

def daysInMonth (year : Int) (month : Nat) : Nat :=
  match month with
  | 2 => if isLeapYear year then 29 else 28
  | 4 | 6 | 9 | 11 => 30
  | _ => 31

/-- The years that a day may lie in. -/
def firstYear : Int := -262143

def lastYear : Int := 262142

structure Date where
  year : Int
  month : Nat
  day : Nat
  month_bounds : 1 ≤ month ∧ month ≤ 12
  day_bounds : 1 ≤ day ∧ day ≤ 31
deriving DecidableEq

/-- A moment of a day; a second numbered 60 is a leap second. -/
structure TimeOfDay where
  hour : Nat
  minute : Nat
  second : Nat
  nanosecond : Nat
  hour_lt : hour < 24
  minute_lt : minute < 60
  second_le : second ≤ 60
  nanosecond_lt : nanosecond < 1000000000
deriving DecidableEq

structure DateTime where
  date : Date
  time : TimeOfDay
deriving DecidableEq

namespace Date

/-- The day with this year, month and day, when the calendar has it. -/
def ofParts? (year : Int) (month day : Nat) : Option Date :=
  if h : firstYear ≤ year ∧ year ≤ lastYear ∧ (1 ≤ month ∧ month ≤ 12) ∧ (1 ≤ day ∧ day ≤ 31)
      ∧ day ≤ daysInMonth year month then
    some ⟨year, month, day, h.2.2.1, h.2.2.2.1⟩
  else none

/-- Later days have larger numbers; months are counted as if all had 31 days. -/
def ordinal (d : Date) : Int :=
  (d.year * 12 + (d.month - 1 : Nat)) * 31 + (d.day - 1 : Nat)

theorem ordinal_injective {d e : Date} (h : d.ordinal = e.ordinal) : d = e := by
  obtain ⟨y, m, a, hm, ha⟩ := d
  obtain ⟨y', m', a', hm', ha'⟩ := e
  simp only [ordinal] at h
  have year_eq : y = y' := by omega
  have month_eq : m = m' := by omega
  have day_eq : a = a' := by omega
  subst year_eq month_eq day_eq
  rfl

end Date

namespace TimeOfDay

def midnight : TimeOfDay :=
  ⟨0, 0, 0, 0, by decide, by decide, by decide, by decide⟩

/-- Nanoseconds since midnight, a minute counting 61 seconds. -/
def ordinal (t : TimeOfDay) : Nat :=
  ((t.hour * 60 + t.minute) * 61 + t.second) * 1000000000 + t.nanosecond

def dayLength : Nat :=
  24 * 60 * 61 * 1000000000

theorem ordinal_lt (t : TimeOfDay) : t.ordinal < dayLength := by
  have := t.hour_lt
  have := t.minute_lt
  have := t.second_le
  have := t.nanosecond_lt
  simp only [ordinal, dayLength]
  omega

end TimeOfDay

namespace DateTime

/-- The first moment of a day. -/
def atMidnight (d : Date) : DateTime :=
  ⟨d, .midnight⟩

/-- Later moments have larger numbers. -/
def ordinal (m : DateTime) : Int :=
  m.date.ordinal * TimeOfDay.dayLength + m.time.ordinal

end DateTime

/-! ## Written forms -/

/-- At least `width` digits, zeros in front. -/
def padded (width n : Nat) : String :=
  let digits := Nat.toDigits 10 n
  String.ofList (List.replicate (width - digits.length) '0' ++ digits)

/-- Four digits; years outside 0 to 9999 carry a sign. -/
def yearText (year : Int) : String :=
  if year < 0 then "-" ++ padded 4 year.natAbs
  else if 9999 < year then "+" ++ padded 4 year.natAbs
  else padded 4 year.natAbs

def Date.text (d : Date) : String :=
  yearText d.year ++ "-" ++ padded 2 d.month ++ "-" ++ padded 2 d.day

/-- Day and time to the second; a fraction is not shown. -/
def DateTime.text (m : DateTime) : String :=
  m.date.text ++ " " ++ padded 2 m.time.hour ++ ":" ++ padded 2 m.time.minute ++ ":"
    ++ padded 2 m.time.second

/-- The fraction of a second in 3, 6 or 9 digits, whichever is the fewest that hold it. -/
def fractionText (nanosecond : Nat) : String :=
  if nanosecond = 0 then ""
  else if nanosecond % 1000000 = 0 then "." ++ padded 3 (nanosecond / 1000000)
  else if nanosecond % 1000 = 0 then "." ++ padded 6 (nanosecond / 1000)
  else "." ++ padded 9 nanosecond

/-- Day and time with the whole fraction, the letter T between them. -/
def DateTime.preciseText (m : DateTime) : String :=
  m.date.text ++ "T" ++ padded 2 m.time.hour ++ ":" ++ padded 2 m.time.minute ++ ":"
    ++ padded 2 m.time.second ++ fractionText m.time.nanosecond

/-- A number of one to `most` digits at the front, after any blanks. -/
def readField (most : Nat) (chars : List Char) : Option (Nat × List Char) :=
  let start := chars.dropWhile isBlank
  let digits := (start.take most).takeWhile Char.isDigit
  if digits.isEmpty then none else some (ofDigits digits, start.drop digits.length)

/-- All the digits at the front, at least one. -/
def readDigitRun (chars : List Char) : Option (Nat × List Char) :=
  let digits := chars.takeWhile Char.isDigit
  if digits.isEmpty then none else some (ofDigits digits, chars.drop digits.length)

/-- A year: four digits at most, or any number of them after a sign. -/
def readYear (chars : List Char) : Option (Int × List Char) :=
  match chars.dropWhile isBlank with
  -- A sign lifts the limit of four digits.
  | '-' :: rest => (readDigitRun rest).map fun (n, rest) => (-(n : Int), rest)
  | '+' :: rest => (readDigitRun rest).map fun (n, rest) => ((n : Int), rest)
  | rest => (readField 4 rest).map fun (n, rest) => ((n : Int), rest)

def readChar (expected : Char) : List Char → Option (List Char)
  | c :: rest => if c = expected then some rest else none
  | [] => none

/-- Year, month and day between hyphens at the front; zeros in front of a field may be missing. -/
def readDate (chars : List Char) : Option (Date × List Char) := do
  let (year, rest) ← readYear chars
  let rest ← readChar '-' rest
  let (month, rest) ← readField 2 rest
  let rest ← readChar '-' rest
  let (day, rest) ← readField 2 rest
  let date ← Date.ofParts? year month day
  return (date, rest)

/-- A day and nothing else. -/
def Date.read? (text : String) : Option Date :=
  match readDate text.toList with
  | some (date, []) => some date
  | _ => none

/-- A fraction of a second in nanoseconds; digits behind the ninth are dropped. -/
def readFraction : List Char → Option Nat
  | [] => some 0
  | '.' :: digits =>
      (readNat? digits).map fun _ => ofDigits (digits.take 9) * 10 ^ (9 - digits.length)
  | _ => none

/-- A day, the letter T and a time. -/
def DateTime.read? (text : String) : Option DateTime := do
  let (date, rest) ← readDate text.toList
  let rest ← readChar 'T' rest
  let (hour, rest) ← readField 2 rest
  let rest ← readChar ':' rest
  let (minute, rest) ← readField 2 rest
  let rest ← readChar ':' rest
  let (second, rest) ← readField 2 rest
  let nanosecond ← readFraction rest
  if h : hour < 24 ∧ minute < 60 ∧ second ≤ 60 ∧ nanosecond < 1000000000 then
    return ⟨date, hour, minute, second, nanosecond, h.1, h.2.1, h.2.2.1, h.2.2.2⟩
  else none

end ShardedSql
