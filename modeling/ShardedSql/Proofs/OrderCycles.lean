import ShardedSql.Proofs.DecimalNumber
import ShardedSql.Proofs.Rounding

/-!
Where the order of values goes round. Every comparison turned around is reversed, and every value is
equal to itself, but a floating-point number compares with exact numbers through their doubles, and
may stand between two of them the wrong way. Main statements: three values go round exactly if at
the first place where they differ two exact numbers have such a number between them; integers have
to share their double for it, and those up to `2 ^ 53` share none.
-/

namespace ShardedSql

open Numeric

/-! ## Comparisons that go round -/

/-- None of three items is greater than the next in the round, and not all are equal. -/
def GoesRound (ab bc ca : Ordering) : Prop :=
  ab ≠ .gt ∧ bc ≠ .gt ∧ ca ≠ .gt ∧ ¬ (ab = .eq ∧ bc = .eq ∧ ca = .eq)

namespace GoesRound

variable {ab bc ca ac ab' bc' ca' : Ordering}

theorem turn_iff : GoesRound bc ca ab ↔ GoesRound ab bc ca := by
  unfold GoesRound
  grind

/-- Second comparisons go round where the first ones find no difference, and they may not stop first
ones that do. -/
theorem then_iff :
    GoesRound (ab.then ab') (bc.then bc') (ca.then ca') ↔
      (ab = .eq ∧ bc = .eq ∧ ca = .eq ∧ GoesRound ab' bc' ca') ∨
        (GoesRound ab bc ca ∧ (ab = .eq → ab' ≠ .gt) ∧ (bc = .eq → bc' ≠ .gt) ∧
          (ca = .eq → ca' ≠ .gt)) := by
  unfold GoesRound
  cases ab <;> cases bc <;> cases ca <;> simp

theorem not_compare {α : Type} [LinearOrder α] (a b c : α) :
    ¬ GoesRound (compare a b) (compare b c) (compare c a) := by
  rintro ⟨ab, bc, ca, apart⟩
  rw [Ne, compare_gt_iff_gt, not_lt] at ab bc ca
  have first : a = b := le_antisymm ab (bc.trans ca)
  have second : b = c := le_antisymm bc (ca.trans ab)
  subst first second
  simp at apart

/-- A comparison is the other way where it ends a round of three. -/
theorem iff_of_swap (swap : ca = ac.swap) :
    (ab ≠ .gt → bc ≠ .gt → ac ≠ .gt) ↔ ¬ (ac = .gt ∧ GoesRound ab bc ca) := by
  subst swap
  unfold GoesRound
  cases ab <;> cases bc <;> cases ac <;> simp

theorem not_of_chains (chains : Chains ab bc ac) (swap : ca = ac.swap) : ¬ GoesRound ab bc ca := by
  subst swap
  unfold GoesRound Chains at *
  cases ab <;> cases bc <;> cases ac <;> simp_all

end GoesRound

/-! ## Numbers -/

namespace Quantity

/-- The number that a quantity without floating point is. -/
def number? : Quantity → Option ℚ
  | .integer n => some n
  | .decimal d => some d.number
  | .floating _ => none

/-- The place of the double that stands for a quantity. -/
def place (x : Quantity) : Int :=
  x.toDouble.orderKey

variable {x y z : Quantity} {p q : ℚ}

theorem order_eq_numbers (x_is : x.number? = some p) (y_is : y.number? = some q) :
    x.order y = compare p q := by
  cases x <;> cases y <;> simp only [number?, Option.some.injEq, reduceCtorEq] at x_is y_is <;>
    subst x_is y_is <;> simp only [order, Decimal.order_eq_number, Decimal.number_ofInt]
  rw [← Decimal.order_ofInt, Decimal.order_eq_number, Decimal.number_ofInt, Decimal.number_ofInt]

theorem order_eq_places (inexact : x.number? = none ∨ y.number? = none) :
    x.order y = compare x.place y.place := by
  cases x <;> cases y <;> simp_all [number?, order, place, Binary.totalCompare]

/-- A floating-point number stands between the doubles of two exact numbers, which come in the other
order or are one number with two doubles. -/
def Caught (x y z : Quantity) : Prop :=
  x.number? = none ∧ ∃ p q, y.number? = some p ∧ z.number? = some q ∧ p ≤ q ∧
    z.place ≤ x.place ∧ x.place ≤ y.place ∧ (p < q ∨ z.place < y.place)

theorem goesRound_iff_of_one (x_is : x.number? = none) (y_is : y.number? = some p)
    (z_is : z.number? = some q) :
    GoesRound (x.order y) (y.order z) (z.order x) ↔ Caught x y z := by
  rw [order_eq_places (.inl x_is), order_eq_places (.inr x_is), order_eq_numbers y_is z_is]
  simp only [GoesRound, Caught, x_is, y_is, z_is, ne_eq, compare_gt_iff_gt, not_lt,
    compare_eq_iff_eq, Option.some.injEq, exists_and_left, exists_eq_left', true_and]
  constructor
  · rintro ⟨xy, yz, zx, apart⟩
    refine ⟨yz, zx, xy, ?_⟩
    by_cases less : p < q
    · exact .inl less
    · have same : p = q := le_antisymm yz (not_lt.mp less)
      refine .inr (lt_of_le_of_ne (zx.trans xy) fun level => apart ⟨?_, same, ?_⟩) <;> omega
  · rintro ⟨yz, zx, xy, apart⟩
    refine ⟨xy, yz, zx, ?_⟩
    rintro ⟨first, rfl, second⟩
    rcases apart with less | less
    · exact lt_irrefl _ less
    · omega

/-- Between integers a floating-point number is only caught where both have its place for a double:
the doubles of integers never come in the other order. -/
theorem caught_integers_iff (m n : Int) :
    Caught x (.integer m) (.integer n) ↔ x.number? = none ∧ m < n ∧
      (integer m).place = x.place ∧ x.place = (integer n).place := by
  simp only [Caught, number?, Option.some.injEq, exists_and_left, exists_eq_left', Int.cast_le,
    Int.cast_lt]
  constructor
  · rintro ⟨floating, le, below, above, apart⟩
    have places : (integer m).place ≤ (integer n).place := Binary.orderKey_ofInt_mono le
    refine ⟨floating, ?_, ?_, ?_⟩ <;> omega
  · rintro ⟨floating, less, above, below⟩
    refine ⟨floating, ?_, ?_, ?_, ?_⟩ <;> omega

theorem Caught.number? (caught : Caught x y z) :
    x.number? = none ∧ y.number?.isSome ∧ z.number?.isSome := by
  obtain ⟨x_is, p, q, y_is, z_is, _⟩ := caught
  simp [x_is, y_is, z_is]

/-- Three numbers go round exactly if two are exact and the third is caught between them. -/
theorem goesRound_iff (x y z : Quantity) :
    GoesRound (x.order y) (y.order z) (z.order x) ↔
      Caught x y z ∨ Caught y z x ∨ Caught z x y := by
  have first := @Caught.number? x y z
  have second := @Caught.number? y z x
  have third := @Caught.number? z x y
  cases x_is : x.number? <;> cases y_is : y.number? <;> cases z_is : z.number? <;>
    simp only [x_is, y_is, z_is, reduceCtorEq, Option.isSome_none, Option.isSome_some,
      Bool.false_eq_true, and_false, imp_false, and_true] at first second third
  -- With two numbers or more that are compared by their doubles, all three are.
  case none.none.none | none.none.some | none.some.none | some.none.none =>
    rw [order_eq_places (by simp [x_is, y_is]), order_eq_places (by simp [y_is, z_is]),
      order_eq_places (by simp [x_is, z_is])]
    simp [GoesRound.not_compare, first, second, third]
  case none.some.some => simp [goesRound_iff_of_one x_is y_is z_is, second, third]
  case some.none.some =>
    rw [← GoesRound.turn_iff]
    simp [goesRound_iff_of_one y_is z_is x_is, first, third]
  case some.some.none =>
    rw [GoesRound.turn_iff.symm, GoesRound.turn_iff.symm]
    simp [goesRound_iff_of_one z_is x_is y_is, first, second]
  case some.some.some =>
    rw [order_eq_numbers x_is y_is, order_eq_numbers y_is z_is, order_eq_numbers z_is x_is]
    simp [GoesRound.not_compare, first, second, third]

end Quantity

/-! ## Values -/

namespace Value

mutual

/-- The order goes round three values: they are such numbers, or lists that first differ at values
round which it goes. -/
def Tangled : Value → Value → Value → Prop
  | .list as, .list bs, .list cs => TangledAll as bs cs
  | a, b, c => ∃ x y z, Quantity.ofValue? a = some x ∧ Quantity.ofValue? b = some y ∧
      Quantity.ofValue? c = some z ∧
      (Quantity.Caught x y z ∨ Quantity.Caught y z x ∨ Quantity.Caught z x y)

def TangledAll : List Value → List Value → List Value → Prop
  | a :: as, b :: bs, c :: cs =>
      (a.order b = .eq ∧ b.order c = .eq ∧ c.order a = .eq ∧ TangledAll as bs cs) ∨
        -- Where only two of the three values are equal, the rest of their lists decides.
        (Tangled a b c ∧ (a.order b = .eq → orderAll as bs ≠ .gt) ∧
          (b.order c = .eq → orderAll bs cs ≠ .gt) ∧ (c.order a = .eq → orderAll cs as ≠ .gt))
  | _, _, _ => False

end

variable {a b c : Value}

theorem exists_quantity (number : a.rank = 2) : ∃ x, Quantity.ofValue? a = some x := by
  cases a <;> simp_all [rank, Quantity.ofValue?]

theorem rank_of_quantity {x : Quantity} (number : Quantity.ofValue? a = some x) : a.rank = 2 := by
  cases a <;> simp_all [rank, Quantity.ofValue?]

theorem isExact_of_rank (number : a.rank ≠ 2) (list : a.rank ≠ 6) : a.isExact = true := by
  cases a <;> simp_all [rank, isExact]

theorem ranks_of_goesRound (round : GoesRound (a.order b) (b.order c) (c.order a)) :
    b.rank = a.rank ∧ c.rank = a.rank := by
  rw [order_eq_then a b, order_eq_then b c, order_eq_then c a, GoesRound.then_iff] at round
  rcases round with ⟨ab, _, ca, _⟩ | ⟨ranks, _⟩
  · rw [Nat.compare_eq_eq] at ab ca
    omega
  · exact absurd ranks (GoesRound.not_compare _ _ _)

theorem tangled_iff_of_plain (plain : a.rank ≠ 6) :
    Tangled a b c ↔ ∃ x y z, Quantity.ofValue? a = some x ∧ Quantity.ofValue? b = some y ∧
      Quantity.ofValue? c = some z ∧
      (Quantity.Caught x y z ∨ Quantity.Caught y z x ∨ Quantity.Caught z x y) := by
  rw [Tangled.eq_2]
  rintro as bs cs rfl
  simp [rank] at plain

theorem goesRound_iff_of_plain (plain : a.rank ≠ 6) :
    GoesRound (a.order b) (b.order c) (c.order a) ↔ Tangled a b c := by
  rw [tangled_iff_of_plain plain]
  constructor
  · intro round
    obtain ⟨b_kind, c_kind⟩ := ranks_of_goesRound round
    by_cases number : a.rank = 2
    · obtain ⟨x, x_is⟩ := exists_quantity number
      obtain ⟨y, y_is⟩ := exists_quantity (b_kind.trans number)
      obtain ⟨z, z_is⟩ := exists_quantity (c_kind.trans number)
      rw [order_eq_plainOrder (by omega), order_eq_plainOrder (by omega),
        order_eq_plainOrder (by omega)] at round
      simp only [plainOrder, x_is, y_is, z_is] at round
      exact ⟨x, y, z, x_is, y_is, z_is, (Quantity.goesRound_iff x y z).mp round⟩
    · have chains := order_chains (isExact_of_rank number plain)
        (isExact_of_rank (a := b) (by omega) (by omega))
        (isExact_of_rank (a := c) (by omega) (by omega))
      exact absurd round (GoesRound.not_of_chains chains (order_swap a c))
  · rintro ⟨x, y, z, x_is, y_is, z_is, caught⟩
    have b_kind := rank_of_quantity y_is
    have c_kind := rank_of_quantity z_is
    rw [order_eq_plainOrder (by omega), order_eq_plainOrder (by omega),
      order_eq_plainOrder (by omega)]
    simp only [plainOrder, x_is, y_is, z_is]
    exact (Quantity.goesRound_iff x y z).mpr caught

mutual

/-- The order goes round three values exactly if they are tangled. -/
theorem goesRound_iff (a b c : Value) :
    GoesRound (a.order b) (b.order c) (c.order a) ↔ Tangled a b c := by
  by_cases list : a.rank = 6
  · obtain ⟨as, rfl⟩ := eq_list list
    by_cases others : b.rank = 6 ∧ c.rank = 6
    · obtain ⟨bs, rfl⟩ := eq_list others.1
      obtain ⟨cs, rfl⟩ := eq_list others.2
      simpa only [order, Tangled] using goesRoundAll_iff as bs cs
    · constructor
      · intro round
        exact absurd (ranks_of_goesRound round) others
      · intro tangled
        rw [Tangled.eq_2] at tangled
        · obtain ⟨x, _, _, x_is, _⟩ := tangled
          cases x_is
        · rintro _ _ _ _ rfl rfl
          exact others ⟨rfl, rfl⟩
  · exact goesRound_iff_of_plain list

theorem goesRoundAll_iff (as bs cs : List Value) :
    GoesRound (orderAll as bs) (orderAll bs cs) (orderAll cs as) ↔ TangledAll as bs cs := by
  match as, bs, cs with
  | a :: as, b :: bs, c :: cs =>
      simp only [orderAll, TangledAll, GoesRound.then_iff, goesRound_iff a b c,
        goesRoundAll_iff as bs cs]
  -- A list that ends is the first of the three, and the one before it has to end too.
  | [], [], [] => simp [orderAll, TangledAll, GoesRound]
  | [], [], _ :: _ => simp [orderAll, TangledAll, GoesRound]
  | [], _ :: _, [] => simp [orderAll, TangledAll, GoesRound]
  | [], _ :: _, _ :: _ => simp [orderAll, TangledAll, GoesRound]
  | _ :: _, [], [] => simp [orderAll, TangledAll, GoesRound]
  | _ :: _, [], _ :: _ => simp [orderAll, TangledAll, GoesRound]
  | _ :: _, _ :: _, [] => simp [orderAll, TangledAll, GoesRound]

end

/-! ## Values that do not go round -/

theorem not_tangled_of_exact (exact_a : a.isExact = true) (exact_b : b.isExact = true)
    (exact_c : c.isExact = true) : ¬ Tangled a b c := by
  rw [← goesRound_iff]
  exact GoesRound.not_of_chains (order_chains exact_a exact_b exact_c) (order_swap a c)

mutual

/-- Whether each number in a value is a floating-point number or an integer so small that it is its
double. -/
def isShort : Value → Bool
  | .integer n => n.val.natAbs ≤ 2 ^ 53
  | .decimal _ => false
  | .list items => allShort items
  | _ => true

def allShort : List Value → Bool
  | [] => true
  | v :: rest => v.isShort && allShort rest

end

theorem exists_short_integer {x : Quantity} {p : ℚ} (short : a.isShort = true)
    (x_is : Quantity.ofValue? a = some x) (p_is : x.number? = some p) :
    ∃ n : Int, x = .integer n ∧ n.natAbs ≤ 2 ^ 53 := by
  cases a <;> simp_all only [Quantity.ofValue?, Option.some.injEq, reduceCtorEq, isShort,
    Bool.false_eq_true, decide_eq_true_eq] <;> subst x_is
  · exact ⟨_, rfl, short⟩
  · cases p_is
  · cases p_is

theorem not_caught_of_short {x y z : Quantity} (short_b : b.isShort = true)
    (short_c : c.isShort = true) (y_is : Quantity.ofValue? b = some y)
    (z_is : Quantity.ofValue? c = some z) : ¬ Quantity.Caught x y z := by
  intro caught
  obtain ⟨_, p, q, p_is, q_is, _⟩ := id caught
  obtain ⟨m, rfl, m_small⟩ := exists_short_integer short_b y_is p_is
  obtain ⟨n, rfl, n_small⟩ := exists_short_integer short_c z_is q_is
  obtain ⟨_, less, above, below⟩ := (Quantity.caught_integers_iff m n).mp caught
  have places := Binary.orderKey_ofInt_lt less m_small n_small
  simp only [Quantity.place, Quantity.toDouble] at above below
  omega

mutual

theorem not_tangled_of_short (a b c : Value) (short_a : a.isShort = true)
    (short_b : b.isShort = true) (short_c : c.isShort = true) : ¬ Tangled a b c := by
  by_cases lists : a.rank = 6 ∧ b.rank = 6 ∧ c.rank = 6
  · obtain ⟨as, rfl⟩ := eq_list lists.1
    obtain ⟨bs, rfl⟩ := eq_list lists.2.1
    obtain ⟨cs, rfl⟩ := eq_list lists.2.2
    simp only [isShort] at short_a short_b short_c
    simpa only [Tangled] using not_tangledAll_of_short as bs cs short_a short_b short_c
  · rw [Tangled.eq_2]
    · rintro ⟨x, y, z, x_is, y_is, z_is, first | second | third⟩
      · exact not_caught_of_short short_b short_c y_is z_is first
      · exact not_caught_of_short short_c short_a z_is x_is second
      · exact not_caught_of_short short_a short_b x_is y_is third
    · rintro _ _ _ rfl rfl rfl
      exact lists ⟨rfl, rfl, rfl⟩

theorem not_tangledAll_of_short (as bs cs : List Value) (short_a : allShort as = true)
    (short_b : allShort bs = true) (short_c : allShort cs = true) : ¬ TangledAll as bs cs := by
  match as, bs, cs with
  | a :: as, b :: bs, c :: cs =>
      simp only [allShort, Bool.and_eq_true] at short_a short_b short_c
      simp only [TangledAll]
      rintro (⟨_, _, _, rest⟩ | ⟨first, _⟩)
      · exact not_tangledAll_of_short as bs cs short_a.2 short_b.2 short_c.2 rest
      · exact not_tangled_of_short a b c short_a.1 short_b.1 short_c.1 first
  | [], _, _ => simp [TangledAll]
  | _ :: _, [], _ => simp [TangledAll]
  | _ :: _, _ :: _, [] => simp [TangledAll]

end

/-! ## The order as a preorder -/

/-- The order is a total preorder on values: each is equal to itself, a comparison turned around is
reversed, and what is not greater stays so across a third value. -/
structure Preordered (values : Set Value) : Prop where
  refl : ∀ a ∈ values, a.order a = .eq
  swap : ∀ a ∈ values, ∀ b ∈ values, b.order a = (a.order b).swap
  trans : ∀ a ∈ values, ∀ b ∈ values, ∀ c ∈ values,
    a.order b ≠ .gt → b.order c ≠ .gt → a.order c ≠ .gt

theorem order_self (a : Value) : a.order a = .eq := by
  have swap := order_swap a a
  cases same : a.order a <;> simp_all

theorem not_goesRound_of_preordered {values : Set Value} (agrees : Preordered values)
    (a_in : a ∈ values) (b_in : b ∈ values) (c_in : c ∈ values) :
    ¬ GoesRound (a.order b) (b.order c) (c.order a) := by
  intro round
  have across := agrees.trans a a_in b b_in c c_in
  have turned := agrees.trans b b_in c c_in a a_in
  have twice := agrees.trans c c_in a a_in b b_in
  rw [order_swap c a] at across
  rw [order_swap a b] at turned
  rw [order_swap b c] at twice
  unfold GoesRound at round
  cases ab : a.order b <;> cases bc : b.order c <;> cases ca : c.order a <;> simp_all

/-- The order is a total preorder on a set of values exactly if no three of them are tangled. It is
one on every set without floating-point numbers, and on every set without decimals and large
integers. -/
theorem preordered_iff (values : Set Value) :
    (Preordered values ↔ ∀ a ∈ values, ∀ b ∈ values, ∀ c ∈ values, ¬ Tangled a b c) ∧
      ((∀ v ∈ values, v.isExact = true) ∨ (∀ v ∈ values, v.isShort = true) →
        Preordered values) := by
  have preordered_of_apart
      (apart : ∀ a ∈ values, ∀ b ∈ values, ∀ c ∈ values, ¬ Tangled a b c) : Preordered values := by
    constructor
    · exact fun a _ => order_self a
    · exact fun a _ b _ => order_swap a b
    · intro a a_in b b_in c c_in
      rw [GoesRound.iff_of_swap (order_swap a c), goesRound_iff]
      exact fun tangled => apart a a_in b b_in c c_in tangled.2
  constructor
  · constructor
    · intro agrees a a_in b b_in c c_in
      rw [← goesRound_iff]
      exact not_goesRound_of_preordered agrees a_in b_in c_in
    · exact preordered_of_apart
  · rintro (exact_all | short_all)
    · exact preordered_of_apart fun a a_in b b_in c c_in =>
        not_tangled_of_exact (exact_all a a_in) (exact_all b b_in) (exact_all c c_in)
    · exact preordered_of_apart fun a a_in b b_in c c_in =>
        not_tangled_of_short a b c (short_all a a_in) (short_all b b_in) (short_all c c_in)

/-- A price and a number of pieces, and a double between integers. -/
theorem preordered_of_small :
    Preordered {.decimal ⟨101, 2⟩, .integer ⟨.big, 1, by decide⟩} ∧
      Preordered {.integer ⟨.big, 2 ^ 53 - 1, by decide⟩, .double (.ofInt .double (2 ^ 53)),
        .integer ⟨.big, 2 ^ 53, by decide⟩} :=
  ⟨(preordered_iff _).2 (.inl (by simp [isExact])),
    (preordered_iff _).2 (.inr (by simp [isShort]))⟩

/-- `2 ^ 53 + 1` has the double of `2 ^ 53`. -/
theorem not_preordered_of_large :
    ¬ Preordered {.integer ⟨.big, 2 ^ 53 + 1, by decide⟩, .double (.ofInt .double (2 ^ 53)),
      .integer ⟨.big, 2 ^ 53, by decide⟩} := by
  intro agrees
  have across := agrees.trans (.integer ⟨.big, 2 ^ 53 + 1, by decide⟩) (by simp)
    (.double (.ofInt .double (2 ^ 53))) (by simp) (.integer ⟨.big, 2 ^ 53, by decide⟩) (by simp)
  exact absurd (across (by decide +kernel) (by decide +kernel)) (by decide +kernel)

end Value

end ShardedSql
