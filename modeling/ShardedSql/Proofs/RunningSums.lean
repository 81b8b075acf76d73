import ShardedSql.Merge
import ShardedSql.Proofs.OrderCycles

/-!
Counts and sums that are taken one value after the other. Each step has a width its sum has to fit
into: that of a count is the widest, that of a sum depends on the kinds of all values up to there.
Main statements: the total of counts, and that of exact numbers, is exact or an overflow, and an
overflow exactly if at some step the exact sum of the values so far does not fit.
-/

namespace ShardedSql

open Numeric Sql

/-! ## Sums on the way -/

/-- Adding up the values in their order comes to a sum that does not fit. -/
def Overruns (fits : List Value → Prop) (values : List Value) : Prop :=
  ∃ added, added <+: values ∧ ¬ fits added

/-- Where the values overrun there is an overflow, and elsewhere a result that is right. -/
def ExactOrOverflow {α : Type} (fits : List Value → Prop) (values : List Value) (tally : Tally)
    (right : α → Prop) (result : Except ShardError α) : Prop :=
  (Overruns fits values ∧ result = .error (.overflow tally)) ∨
    (¬ Overruns fits values ∧ ∃ total, result = .ok total ∧ right total)

section Steps

variable {α β : Type} {fits : List Value → Prop} {values added rest : List Value} {v : Value}
  {tally : Tally} {right : α → Prop} {result : Except ShardError α}

theorem overruns_nil : Overruns fits [] ↔ ¬ fits [] := by
  simp [Overruns, List.prefix_nil]

theorem overruns_concat :
    Overruns fits (added ++ [v]) ↔ Overruns fits added ∨ ¬ fits (added ++ [v]) := by
  simp only [Overruns, List.prefix_concat_iff]
  constructor
  · rintro ⟨before, rfl | inside, misfit⟩
    · exact .inr misfit
    · exact .inl ⟨before, inside, misfit⟩
  · rintro (⟨before, inside, misfit⟩ | misfit)
    · exact ⟨before, .inr inside, misfit⟩
    · exact ⟨_, .inl rfl, misfit⟩

theorem Overruns.append (overruns : Overruns fits added) (rest : List Value) :
    Overruns fits (added ++ rest) := by
  obtain ⟨before, inside, misfit⟩ := overruns
  exact ⟨before, inside.trans (List.prefix_append added rest), misfit⟩

theorem ExactOrOverflow.imp {others : α → Prop}
    (settled : ExactOrOverflow fits values tally right result)
    (carries : ∀ total, right total → others total) :
    ExactOrOverflow fits values tally others result := by
  rcases settled with overflow | ⟨fitting, total, found, is_right⟩
  · exact .inl overflow
  · exact .inr ⟨fitting, total, found, carries total is_right⟩

theorem ExactOrOverflow.map {right_mapped : β → Prop} (f : α → β)
    (settled : ExactOrOverflow fits values tally right result)
    (carries : ∀ total, right total → right_mapped (f total)) :
    ExactOrOverflow fits values tally right_mapped (result.map f) := by
  rcases settled with ⟨overruns, rfl⟩ | ⟨fitting, total, rfl, is_right⟩
  · exact .inl ⟨overruns, rfl⟩
  · exact .inr ⟨fitting, f total, rfl, carries total is_right⟩

/-- One value more gives the next total, or an overflow if the sum does not fit any longer. -/
def StepsRight (fits : List Value → Prop) (tally : Tally) (right : List Value → α → Prop)
    (step : α → Value → Except ShardError α) (v : Value) : Prop :=
  ∀ added total, right added total →
    (fits (added ++ [v]) ∧ ∃ next, step total v = .ok next ∧ right (added ++ [v]) next) ∨
      (¬ fits (added ++ [v]) ∧ step total v = .error (.overflow tally))

/-- Steps that are right one by one give the right total of all values, or overflow at the first sum
that does not fit. -/
theorem foldlM_exactOrOverflow {right : List Value → α → Prop}
    {step : α → Value → Except ShardError α} {total : α}
    (steps : ∀ v ∈ rest, StepsRight fits tally right step v) (start : right added total)
    (fitting : ¬ Overruns fits added) :
    ExactOrOverflow fits (added ++ rest) tally (right (added ++ rest))
      (rest.foldlM step total) := by
  induction rest generalizing added total with
  | nil =>
      rw [List.append_nil]
      exact .inr ⟨fitting, total, rfl, start⟩
  | cons v rest ih =>
      rw [List.append_cons]
      rcases steps v List.mem_cons_self added total start with
        ⟨fits_here, next, stepped, right_next⟩ | ⟨misfit, overflow⟩
      · have still : ¬ Overruns fits (added ++ [v]) := by
          simp [overruns_concat, fitting, fits_here]
        have settled :=
          ih (fun w member => steps w (List.mem_cons_of_mem v member)) right_next still
        rw [List.foldlM_cons, stepped]
        exact settled
      · refine .inl ⟨(overruns_concat.mpr (.inr misfit)).append rest, ?_⟩
        rw [List.foldlM_cons, overflow]
        rfl

end Steps

/-! ## Counts -/

theorem fitsInt64_iff {n : Int} : fitsInt64 n = true ↔ Width.big.Fits n := by
  have low : minInt64 = -(2 ^ 63) := rfl
  have high : maxInt64 = 2 ^ 63 - 1 := rfl
  simp only [fitsInt64, low, high, Bool.and_eq_true, decide_eq_true_eq, Width.Fits, Width.bits]
  omega

theorem Value.fits_of_int64? {v : Value} {n : Int} (integer : v.int64? = some n) :
    Width.big.Fits n := by
  cases v with
  | integer m =>
      obtain rfl : m.val = n := Option.some.inj integer
      have fits := m.fits
      cases width : m.width <;> simp only [width, Width.Fits, Width.bits] at fits ⊢ <;> omega
  | single x | double x => exact fitsInt64_iff.mp (Option.filter_eq_some_iff.mp integer).2
  | decimal d =>
      simp only [Value.int64?, Decimal.toInt64?] at integer
      split at integer
      · obtain rfl : 0 = n := Option.some.inj integer
        decide
      · split at integer
        · cases integer
        · exact fitsInt64_iff.mp (Option.filter_eq_some_iff.mp integer).2
  | _ => cases integer

/-- The sum of the integers that the values denote. -/
def wholeSum (values : List Value) : Int :=
  (values.filterMap Value.int64?).sum

def CountFits (values : List Value) : Prop :=
  Width.big.Fits (wholeSum values)

/-- A count with one more value. -/
def countStep (total : SizedInt) (v : Value) : Except ShardError SizedInt :=
  countFrom total [v]

theorem countFrom_eq_foldlM (total : SizedInt) (values : List Value) :
    countFrom total values = values.foldlM countStep total := by
  induction values generalizing total with
  | nil => rfl
  | cons v rest ih =>
      have step : countFrom total (v :: rest) = countStep total v >>= (countFrom · rest) := by
        simp only [countStep, countFrom]
        cases v.int64?.bind (SizedInt.ofInt? .big) with
        | none => rfl
        | some n =>
            dsimp only
            cases total.add? n <;> rfl
      rw [step, List.foldlM_cons]
      simp only [ih]

/-- A total of the widest integers that is the sum of the values. -/
def IsCount (values : List Value) (total : SizedInt) : Prop :=
  total.width = .big ∧ total.val = wholeSum values

theorem stepsRight_count {v : Value} {n : Int} (integer : v.int64? = some n) :
    StepsRight CountFits .count IsCount countStep v := by
  rintro added total ⟨wide, value⟩
  obtain ⟨sized, n_is, n_wide, n_val⟩ : ∃ sized, SizedInt.ofInt? .big n = some sized ∧
      sized.width = .big ∧ sized.val = n :=
    ⟨⟨.big, n, v.fits_of_int64? integer⟩, SizedInt.ofInt?_eq_some_iff.mpr ⟨rfl, rfl⟩, rfl, rfl⟩
  have read : v.int64?.bind (SizedInt.ofInt? .big) = some sized := by
    rw [integer, Option.bind_some, n_is]
  have next_sum : wholeSum (added ++ [v]) = total.val + sized.val := by
    simp [wholeSum, integer, value, n_val]
  have added_up : total.add? sized = SizedInt.ofInt? .big (total.val + sized.val) := by
    rw [SizedInt.add?, SizedInt.sumWidth, wide, n_wide, if_pos rfl]
  unfold CountFits IsCount
  rw [next_sum, countStep]
  simp only [countFrom, read, added_up]
  by_cases fits : Width.big.Fits (total.val + sized.val)
  · exact .inl ⟨fits, ⟨.big, _, fits⟩, by simp [SizedInt.ofInt?, fits], rfl, rfl⟩
  · exact .inr ⟨fits, by simp [SizedInt.ofInt?, fits]⟩

theorem totalCount_exact {values : List Value} (integers : ∀ v ∈ values, v.int64?.isSome = true) :
    ExactOrOverflow CountFits values .count
      (fun v => ∃ total, v = .integer total ∧ IsCount values total) (totalCount values) := by
  have fits_nothing : CountFits [] := by
    unfold CountFits wholeSum
    decide
  have settled : ExactOrOverflow CountFits ([] ++ values) .count (IsCount ([] ++ values))
      (values.foldlM countStep (.ofInt64 0)) := by
    refine foldlM_exactOrOverflow (fun v member => ?_) ⟨rfl, rfl⟩ (by simpa [overruns_nil])
    obtain ⟨n, integer⟩ := Option.isSome_iff_exists.mp (integers v member)
    exact stepsRight_count integer
  rw [← countFrom_eq_foldlM, List.nil_append] at settled
  exact settled.map Value.integer fun total is_count => ⟨total, rfl, is_count⟩

/-! ## Exact numbers -/

/-- What a sum of exact numbers is. -/
inductive SumKind where
  | integer (width : Width)
  | decimal

namespace SumKind

/-- Integers of one width keep it, others meet at the widest; a decimal takes in integers. -/
def join : SumKind → SumKind → SumKind
  | .integer left, .integer right => .integer (if left = right then left else .big)
  | _, _ => .decimal

/-- Integers are bounded by their width, decimals are not bounded. -/
def Holds : SumKind → ℚ → Prop
  | .integer width, q => ∃ n : Int, (n : ℚ) = q ∧ width.Fits n
  | .decimal, _ => True

end SumKind

namespace Value

variable {a b : Value} {p q : ℚ}

/-- The number that an integer or a decimal is. -/
def exactNumber? (v : Value) : Option ℚ :=
  (Quantity.ofValue? v).bind Quantity.number?

def sumKind? : Value → Option SumKind
  | .integer n => some (.integer n.width)
  | .decimal _ => some .decimal
  | _ => none

theorem exists_sumKind (a_is : a.exactNumber? = some p) : ∃ k, a.sumKind? = some k := by
  cases a with
  | integer | decimal => exact ⟨_, rfl⟩
  | _ => cases a_is

/-- Numbers without floating point add up exactly if the kind that their sum is of holds it, and
overflow otherwise. -/
theorem add_settles {k l : SumKind} (a_is : a.exactNumber? = some p)
    (b_is : b.exactNumber? = some q) (a_kind : a.sumKind? = some k) (b_kind : b.sumKind? = some l) :
    ((k.join l).Holds (p + q) ∧ ∃ c, a.add b = .ok c ∧ c.sumKind? = some (k.join l) ∧
        c.exactNumber? = some (p + q)) ∨
      (¬ (k.join l).Holds (p + q) ∧ a.add b = .error (.overflow .sum)) := by
  cases a <;> cases b <;>
    simp only [sumKind?, exactNumber?, Quantity.ofValue?, Option.bind_some, Option.bind_none,
      Quantity.number?, Option.some.injEq, reduceCtorEq] at a_is b_is a_kind b_kind
  case integer.integer m n =>
    subst a_is b_is a_kind b_kind
    have holds_iff : ((SumKind.integer m.width).join (.integer n.width)).Holds (m.val + n.val) ↔
        (m.sumWidth n).Fits (m.val + n.val) := by
      simp only [SumKind.join, SumKind.Holds, SizedInt.sumWidth]
      constructor
      · rintro ⟨s, same, fits⟩
        obtain rfl : s = m.val + n.val := by exact_mod_cast same
        exact fits
      · exact fun fits => ⟨m.val + n.val, by push_cast; rfl, fits⟩
    rw [holds_iff, add, SizedInt.add?, SizedInt.ofInt?]
    by_cases fits : (m.sumWidth n).Fits (m.val + n.val)
    · rw [dif_pos fits]
      refine .inl ⟨fits, _, rfl, rfl, ?_⟩
      simp [exactNumber?, Quantity.ofValue?, Quantity.number?]
    · rw [dif_neg fits]
      exact .inr ⟨fits, rfl⟩
  case integer.decimal | decimal.integer | decimal.decimal =>
    subst a_is b_is a_kind b_kind
    refine .inl ⟨trivial, _, rfl, rfl, ?_⟩
    simp [exactNumber?, Quantity.ofValue?, Quantity.number?, Decimal.number_add, add_comm]

/-- Numbers without floating point add up exactly, or their sum does not fit. -/
theorem add_exact (a_is : a.exactNumber? = some p) (b_is : b.exactNumber? = some q) :
    a.add b = .error (.overflow .sum) ∨
      ∃ c, a.add b = .ok c ∧ c.exactNumber? = some (p + q) := by
  obtain ⟨k, a_kind⟩ := exists_sumKind a_is
  obtain ⟨l, b_kind⟩ := exists_sumKind b_is
  rcases add_settles a_is b_is a_kind b_kind with ⟨_, c, added, _, sum⟩ | ⟨_, overflow⟩
  · exact .inr ⟨c, added, sum⟩
  · exact .inl overflow

end Value

def exactSum (values : List Value) : ℚ :=
  (values.filterMap Value.exactNumber?).sum

theorem exactSum_append (left right : List Value) :
    exactSum (left ++ right) = exactSum left + exactSum right := by
  simp [exactSum]

/-- Every value is an integer or a decimal. -/
def AllExact (values : List Value) : Prop :=
  ∀ v ∈ values, v.exactNumber?.isSome = true

/-! ## Sums of exact numbers -/

/-- What the property says of some values; of none there is nothing. -/
def OrNull (property : List Value → Value → Prop) (values : List Value) (v : Value) : Prop :=
  if values = [] then v = .null else property values v

theorem orNull_iff {property : List Value → Value → Prop} {values : List Value} {v : Value}
    (some_value : values ≠ []) : OrNull property values v ↔ property values v := by
  rw [OrNull, if_neg some_value]

theorem OrNull.imp {property others : List Value → Value → Prop} {values : List Value} {v : Value}
    (reduced : OrNull property values v) (carries : property values v → others values v) :
    OrNull others values v := by
  unfold OrNull at *
  split
  · simpa [*] using reduced
  · exact carries (by simpa [*] using reduced)

/-- The kind that a sum of the values is of. -/
def kindOfSum? (values : List Value) : Option SumKind :=
  values.foldl (fun kind v => Option.merge SumKind.join kind v.sumKind?) none

def SumFits (values : List Value) : Prop :=
  ∀ kind, kindOfSum? values = some kind → kind.Holds (exactSum values)

theorem kindOfSum_concat (values : List Value) (v : Value) :
    kindOfSum? (values ++ [v]) = Option.merge SumKind.join (kindOfSum? values) v.sumKind? := by
  simp [kindOfSum?]

theorem sumFrom_eq_foldlM (total : Value) (values : List Value) :
    sumFrom total values = values.foldlM Value.add total := by
  induction values generalizing total with
  | nil => rfl
  | cons v rest ih =>
      rw [sumFrom, List.foldlM_cons]
      simp only [ih]

/-- A total that is the sum of the values, and of the kind that it has to be of. -/
def IsExactTotal (values : List Value) (total : Value) : Prop :=
  total.sumKind? = kindOfSum? values ∧ total.exactNumber? = some (exactSum values)

theorem stepsRight_sum {v : Value} {q : ℚ} (number : v.exactNumber? = some q) :
    StepsRight SumFits .sum IsExactTotal Value.add v := by
  rintro added total ⟨kind, sum⟩
  obtain ⟨k, total_kind⟩ := Value.exists_sumKind sum
  obtain ⟨l, v_kind⟩ := Value.exists_sumKind number
  have next_kind : kindOfSum? (added ++ [v]) = some (k.join l) := by
    rw [kindOfSum_concat, ← kind, total_kind, v_kind]
    rfl
  have next_sum : exactSum (added ++ [v]) = exactSum added + q := by
    simp [exactSum, number]
  have fits_iff : SumFits (added ++ [v]) ↔ (k.join l).Holds (exactSum added + q) := by
    simp [SumFits, next_kind, next_sum]
  rw [fits_iff]
  unfold IsExactTotal
  rw [next_kind, next_sum]
  exact Value.add_settles sum number total_kind v_kind

theorem sumFits_singleton (v : Value) : SumFits [v] := by
  intro kind is
  cases v with
  | integer n =>
      obtain rfl : SumKind.integer n.width = kind := Option.some.inj is
      refine ⟨n.val, ?_, n.fits⟩
      simp [exactSum, Value.exactNumber?, Quantity.ofValue?, Quantity.number?]
  | decimal d =>
      obtain rfl : SumKind.decimal = kind := Option.some.inj is
      trivial
  | _ => cases is

theorem totalSum_exact {values : List Value} (exact_all : AllExact values) :
    ExactOrOverflow SumFits values .sum (OrNull IsExactTotal values) (totalSum values) := by
  have fits_nothing : SumFits [] := by
    rintro kind ⟨⟩
  have nothing : ¬ Overruns SumFits [] := by simpa [overruns_nil] using fits_nothing
  cases values with
  | nil => exact .inr ⟨nothing, .null, rfl, rfl⟩
  | cons first rest =>
      obtain ⟨q, number⟩ := Option.isSome_iff_exists.mp (exact_all first List.mem_cons_self)
      have start : IsExactTotal [first] first := by
        refine ⟨(Option.merge_none_left).symm, ?_⟩
        simp [exactSum, number]
      have one : ¬ Overruns SumFits ([] ++ [first]) := by
        rw [overruns_concat, not_or, not_not]
        exact ⟨nothing, sumFits_singleton first⟩
      have steps : ∀ v ∈ rest, StepsRight SumFits .sum IsExactTotal Value.add v := by
        intro v member
        obtain ⟨p, is⟩ :=
          Option.isSome_iff_exists.mp (exact_all v (List.mem_cons_of_mem first member))
        exact stepsRight_sum is
      have settled := foldlM_exactOrOverflow steps start one
      rw [← sumFrom_eq_foldlM] at settled
      exact settled.imp fun total right => (orNull_iff (List.cons_ne_nil first rest)).mpr right

end ShardedSql
