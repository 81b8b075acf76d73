/-!
Whole numbers as decimal digits, with an optional sign. Main statements: what a number is written
with, and that its digits are read as the number again.
-/

namespace ShardedSql.Numeric

-- The powers meant by all modules, whatever other ones a module knows.
scoped instance (priority := high) natPower : Pow Nat Nat :=
  instPowNat

scoped instance (priority := high) intPower : Pow Int Nat :=
  instPowNat

def digitValue (c : Char) : Nat :=
  c.toNat - '0'.toNat

/-- The number that a row of decimal digits writes. -/
def ofDigits (digits : List Char) : Nat :=
  digits.foldl (fun n c => 10 * n + digitValue c) 0

/-- A non-empty row of decimal digits. -/
def readNat? (chars : List Char) : Option Nat :=
  if chars.isEmpty || !chars.all Char.isDigit then none else some (ofDigits chars)

/-- Digits after at most one sign. -/
def readInt? : List Char → Option Int
  | '-' :: digits => (readNat? digits).map fun n => -(n : Int)
  | '+' :: digits => (readNat? digits).map Int.ofNat
  | digits => (readNat? digits).map Int.ofNat

/-- An unsigned number: digits after at most one plus sign. -/
def readUnsigned? : List Char → Option Nat
  | '+' :: digits => readNat? digits
  | digits => readNat? digits

def readBounded? (low high : Int) (chars : List Char) : Option Int :=
  (readInt? chars).filter fun n => low ≤ n && n ≤ high

def minInt64 : Int := -(2 ^ (63 : Nat))

def maxInt64 : Int := 2 ^ (63 : Nat) - 1

def maxUInt64 : Nat := 2 ^ (64 : Nat) - 1

/-- Whether a signed number of 64 bits can hold the integer. -/
def fitsInt64 (n : Int) : Bool :=
  minInt64 ≤ n && n ≤ maxInt64

/-- A 64-bit integer in decimal digits; a number out of range is not read. -/
def readInt64? (text : String) : Option Int :=
  readBounded? minInt64 maxInt64 text.toList

/-- An unsigned 64-bit number in decimal digits; a number out of range is not read. -/
def readUInt64? (text : String) : Option Nat :=
  (readUnsigned? text.toList).filter (· ≤ maxUInt64)

/-- The decimal digits of a number, without leading zeros. -/
def natText (n : Nat) : String :=
  String.ofList (Nat.toDigits 10 n)

def intText (n : Int) : String :=
  if n < 0 then "-" ++ natText n.natAbs else natText n.natAbs

theorem isDigit_of_mem_natText {n : Nat} {c : Char} (member : c ∈ (natText n).toList) :
    c.isDigit = true := by
  rw [natText, String.toList_ofList] at member
  exact Nat.isDigit_of_mem_toDigits (by decide) (by decide) member

theorem mem_intText {n : Int} {c : Char} (member : c ∈ (intText n).toList) :
    c = '-' ∨ c.isDigit = true := by
  unfold intText at member
  split at member
  · rw [String.toList_append, List.mem_append] at member
    rcases member with sign | digit
    · exact .inl (by simpa using sign)
    · exact .inr (isDigit_of_mem_natText digit)
  · exact .inr (isDigit_of_mem_natText member)

theorem natText_ne_nil (n : Nat) : (natText n).toList ≠ [] := by
  rw [natText, String.toList_ofList]
  exact Nat.toDigits_ne_nil

theorem ofDigits_natText (n : Nat) : ofDigits (natText n).toList = n := by
  rw [natText, String.toList_ofList]
  exact Nat.ofDigitChars_toDigits (by decide) (by decide)

theorem readNat?_natText (n : Nat) : readNat? (natText n).toList = some n := by
  have nonempty : (natText n).toList.isEmpty = false := by
    simpa using natText_ne_nil n
  have digits : (natText n).toList.all Char.isDigit = true :=
    List.all_eq_true.mpr fun _ => isDigit_of_mem_natText
  rw [readNat?, nonempty, digits, ofDigits_natText]
  rfl

end ShardedSql.Numeric
