import ShardedSql.Numeric.Digits

/-!
Integers that know the width of the column they come from. Adding two of them never wraps: the sum
is exact or there is none.
-/

namespace ShardedSql.Numeric

/-- The widths of integer columns, narrowest first. -/
inductive Width where
  | tiny
  | small
  | regular
  | big
deriving DecidableEq, Repr

def Width.bits : Width → Nat
  | .tiny => 8
  | .small => 16
  | .regular => 32
  | .big => 64

/-- Whether a two's complement word of this width holds the integer. -/
def Width.Fits (width : Width) (n : Int) : Prop :=
  -(2 ^ (width.bits - 1)) ≤ n ∧ n < 2 ^ (width.bits - 1)

instance (width : Width) (n : Int) : Decidable (width.Fits n) :=
  inferInstanceAs (Decidable (_ ∧ _))

/-- An integer together with a width that holds it. -/
structure SizedInt where
  width : Width
  val : Int
  fits : width.Fits val
deriving DecidableEq

namespace SizedInt

/-- The integer at the given width, when it fits. -/
def ofInt? (width : Width) (n : Int) : Option SizedInt :=
  if h : width.Fits n then some ⟨width, n, h⟩ else none

theorem big_fits (n : Int64) : Width.big.Fits n.toInt := by
  have low := Int64.le_toInt n
  have high := Int64.toInt_lt n
  simp only [Width.Fits, Width.bits]
  omega

/-- A 64-bit word as a value of the widest integer column. -/
def ofInt64 (n : Int64) : SizedInt :=
  ⟨.big, n.toInt, big_fits n⟩

/-- Operands of one width keep it; operands of different widths meet at the widest. -/
def sumWidth (left right : SizedInt) : Width :=
  if left.width = right.width then left.width else .big

/-- The exact sum, when the width it is due at holds it. -/
def add? (left right : SizedInt) : Option SizedInt :=
  ofInt? (sumWidth left right) (left.val + right.val)

theorem ofInt?_eq_some_iff {width : Width} {n : Int} {sized : SizedInt} :
    ofInt? width n = some sized ↔ sized.width = width ∧ sized.val = n := by
  constructor
  · intro h
    simp only [ofInt?] at h
    split at h <;> simp_all
    subst h
    exact ⟨rfl, rfl⟩
  · rintro ⟨rfl, rfl⟩
    simp [ofInt?, sized.fits]

end SizedInt

end ShardedSql.Numeric
