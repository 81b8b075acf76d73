import ShardedSql.Proofs.RunningSums

/-!
Reductions of values: what a count, a sum or an extreme of a list of values is, with or without
`DISTINCT`. Main statements: reducing the reductions of the parts of a list gives a reduction of the
list, unless a sum overflows, and `DISTINCT` makes no difference where the values are idle; a value
that is not is counted or added twice when it lies in two parts.
-/

namespace ShardedSql

open Numeric Sql

/-! ## Distinct values -/

/-- One value for each class of equal ones. -/
structure Represents (values kept : List Value) : Prop where
  inside : ∀ v ∈ kept, v ∈ values
  apart : kept.Pairwise fun a b => a.order b ≠ .eq
  covers : ∀ v ∈ values, ∃ k ∈ kept, v.order k = .eq

/-- The values without those that are equal to an earlier one. -/
def representatives : List Value → List Value
  | [] => []
  | v :: rest => v :: (representatives rest).filter (v.order · != .eq)

theorem represents_representatives {values : List Value}
    (agrees : OrderAgrees Value.order values) : Represents values (representatives values) := by
  induction values with
  | nil => exact ⟨fun _ => id, .nil, fun v member => absurd member List.not_mem_nil⟩
  | cons v rest ih =>
      obtain ⟨inside, apart, covers⟩ :=
        ih (agrees.of_subset fun _ => List.mem_cons_of_mem v)
      constructor
      · intro k member
        rcases List.mem_cons.mp member with rfl | later
        · exact List.mem_cons_self
        · exact List.mem_cons_of_mem _ (inside k (List.mem_filter.mp later).1)
      · refine .cons (fun k member => ?_) (apart.filter _)
        simpa using (List.mem_filter.mp member).2
      · intro w member
        rcases List.mem_cons.mp member with rfl | later
        · exact ⟨w, List.mem_cons_self, Value.order_self w⟩
        · obtain ⟨k, kept, same⟩ := covers w later
          by_cases first : v.order k = .eq
          -- The representative of the rest gives way to the first value.
          · refine ⟨v, List.mem_cons_self, ?_⟩
            have turned : k.order v = .eq := by rw [Value.order_swap v k, first]; rfl
            exact agrees.eq_trans member (List.mem_cons_of_mem _ (inside k kept))
              List.mem_cons_self same turned
          · exact ⟨k, List.mem_cons_of_mem _ (List.mem_filter.mpr ⟨kept, by simpa using first⟩),
              same⟩

namespace Represents

variable {values kept : List Value}

theorem eq_nil (represents : Represents [] kept) : kept = [] :=
  List.eq_nil_iff_forall_not_mem.mpr fun v member =>
    absurd (represents.inside v member) List.not_mem_nil

theorem ne_nil (represents : Represents values kept) (some_value : values ≠ []) : kept ≠ [] := by
  obtain ⟨v, member⟩ := List.exists_mem_of_ne_nil values some_value
  obtain ⟨k, inside, _⟩ := represents.covers v member
  exact List.ne_nil_of_mem inside

theorem singleton (v : Value) : Represents [v] [v] :=
  ⟨fun _ => id, List.pairwise_singleton _ _,
    fun w member => ⟨w, member, Value.order_self w⟩⟩

theorem eq_singleton {v : Value} (represents : Represents values kept)
    (same : ∀ w ∈ values, w = v) (some_value : values ≠ []) : kept = [v] := by
  have kept_same : ∀ k ∈ kept, k = v := fun k member => same k (represents.inside k member)
  match kept, represents.ne_nil some_value, kept_same, represents.apart with
  | [k], _, kept_same, _ => rw [kept_same k (by simp)]
  | k :: l :: _, _, kept_same, apart =>
      have equal := (List.pairwise_cons.mp apart).1 l (by simp)
      rw [kept_same k (by simp), kept_same l (by simp)] at equal
      exact absurd (Value.order_self v) equal

end Represents

/-! ## Sums -/

namespace Value

variable {a b : Value} {p q : ℚ}

theorem exactNumber_decimal (d : Decimal) : exactNumber? (.decimal d) = some d.number :=
  rfl

def isFloating : Value → Bool
  | .single _ => true
  | .double _ => true
  | _ => false

theorem exists_number (a_is : a.exactNumber? = some p) : ∃ d : Decimal, d.number = p := by
  cases a with
  | integer n => exact ⟨.ofInt n.val, by rw [Decimal.number_ofInt]; exact Option.some.inj a_is⟩
  | decimal d => exact ⟨d, Option.some.inj a_is⟩
  | _ => cases a_is

theorem add_floating (a_is : a.isFloating = true) (b_is : b.isFloating = true) :
    ∃ c, a.add b = .ok c ∧ c.isFloating = true := by
  cases a <;> cases b <;> simp only [isFloating, Bool.false_eq_true] at a_is b_is <;>
    exact ⟨_, rfl, rfl⟩

theorem exactNumber_of_floating (floating : a.isFloating = true) : a.exactNumber? = none := by
  cases a <;> simp_all [isFloating, exactNumber?, Quantity.ofValue?, Quantity.number?]

end Value

/-- Floating-point numbers added in some order; one of single width may be widened before. -/
inductive AddsUp : List Value → Value → Prop where
  | one (v : Value) : AddsUp [v] v
  | widened (x : Single) : AddsUp [.single x] (.double (Binary.Single.toDouble x))
  | join {left right values : List Value} {a b c : Value} (first : AddsUp left a)
      (second : AddsUp right b) (sum : a.add b = .ok c) (perm : values.Perm (left ++ right)) :
      AddsUp values c

theorem AddsUp.isFloating {values : List Value} {total : Value} (adds : AddsUp values total)
    (floating : ∀ v ∈ values, v.isFloating = true) : total.isFloating = true := by
  induction adds with
  | one v => exact floating v (List.mem_singleton_self v)
  | widened x => rfl
  | join first second sum perm first_ih second_ih =>
      have a_is := first_ih fun v member =>
        floating v (perm.mem_iff.mpr (List.mem_append_left _ member))
      have b_is := second_ih fun v member =>
        floating v (perm.mem_iff.mpr (List.mem_append_right _ member))
      obtain ⟨c, found, is⟩ := Value.add_floating a_is b_is
      rw [sum, Except.ok.injEq] at found
      exact found ▸ is

/-- Every value is a floating-point number. -/
def AllFloating (values : List Value) : Prop :=
  ∀ v ∈ values, v.isFloating = true

/-- Exact numbers have one sum, whatever kind of number it is given as; the sum of floating-point
numbers depends on the order in which they are added. -/
def IsSum (values : List Value) (total : Value) : Prop :=
  AllExact values ∧ total.exactNumber? = some (exactSum values) ∨
    AllFloating values ∧ AddsUp values total

/-! ## Reductions -/

/-- None of the values is further on the wanted side. -/
def IsExtreme (wanted : Ordering) (values : List Value) (v : Value) : Prop :=
  v ∈ values ∧ ∀ w ∈ values, w.order v ≠ wanted

/-- What an aggregate makes of values that are all something. Averages are left out. -/
def Reduces : Aggregate → List Value → Value → Prop
  | .count, values, v => v.int64? = some values.length
  | .sum, values, v => OrNull IsSum values v
  | .max, values, v => OrNull (IsExtreme .gt) values v
  | .min, values, v => OrNull (IsExtreme .lt) values v
  | .avg, _, _ => False

/-- What an aggregate makes of values, all of them or with `DISTINCT` one of each class. -/
def IsReduction (kind : Aggregate) (distinct : Bool) (values : List Value) (v : Value) : Prop :=
  ∃ kept, (if distinct then Represents values kept else kept = values) ∧ Reduces kind kept v

/-- Values that an aggregate is meant for: numbers that are all exact or all floating, values that
the order compares consistently. A sum of distinct floating-point numbers is none. -/
def Suits (kind : Aggregate) (distinct : Bool) (values : List Value) : Prop :=
  match kind with
  | .count => True
  | .sum => AllExact values ∨ distinct = false ∧ AllFloating values
  | .max => OrderAgrees Value.order values
  | .min => OrderAgrees Value.order values
  | .avg => True

/-- A value that may as well come twice. -/
def Idle : Aggregate → Value → Prop
  | .count, _ => False
  | .sum, v => ∀ q, v.exactNumber? = some q → q = 0
  | _, _ => True

theorem Suits.of_subset {kind : Aggregate} {distinct : Bool} {values others : List Value}
    (suits : Suits kind distinct values) (inside : ∀ v ∈ others, v ∈ values) :
    Suits kind distinct others := by
  cases kind with
  | count | avg => trivial
  | sum =>
      exact suits.imp (fun exact_all v member => exact_all v (inside v member))
        (.imp_right fun floating v member => floating v (inside v member))
  | max | min => exact OrderAgrees.of_subset suits inside

/-! ## DISTINCT over idle values -/

theorem side_trans {wanted : Ordering} {values : List Value}
    (agrees : OrderAgrees Value.order values) (side : wanted ≠ .eq) {a b c : Value}
    (a_in : a ∈ values) (b_in : b ∈ values) (c_in : c ∈ values) (first : a.order b ≠ wanted)
    (second : b.order c ≠ wanted) : a.order c ≠ wanted := by
  cases wanted with
  | eq => exact absurd rfl side
  | gt => exact agrees.trans a a_in b b_in c c_in first second
  | lt =>
      have back := agrees.trans c c_in b b_in a a_in
      rw [Value.order_swap b c, Value.order_swap a b, Value.order_swap a c] at back
      cases ab : a.order b <;> cases bc : b.order c <;> cases ac : a.order c <;> simp_all

theorem agrees_of_isExact {values : List Value} (exact_all : ∀ v ∈ values, v.isExact = true) :
    OrderAgrees Value.order values := by
  constructor
  · exact fun a _ b _ => Value.order_swap a b
  · exact fun a a_in b b_in c c_in =>
      (Value.order_chains (exact_all a a_in) (exact_all b b_in) (exact_all c c_in)).le

theorem agrees_of_exact {values : List Value} (exact_all : AllExact values) :
    OrderAgrees Value.order values := by
  refine agrees_of_isExact fun v member => ?_
  have number := exact_all v member
  cases v <;> simp_all [Value.exactNumber?, Quantity.ofValue?, Quantity.number?, Value.isExact]

theorem exactSum_of_idle {values : List Value} (idle : ∀ v ∈ values, Idle .sum v) :
    exactSum values = 0 := by
  apply List.sum_eq_zero
  intro q member
  obtain ⟨v, inside, is⟩ := List.mem_filterMap.mp member
  exact idle v inside q is

theorem isSum_iff_of_exact {values : List Value} {total : Value} (exact_all : AllExact values)
    (some_value : values ≠ []) :
    IsSum values total ↔ total.exactNumber? = some (exactSum values) := by
  constructor
  · rintro (⟨_, sum⟩ | ⟨floating, _⟩)
    · exact sum
    · obtain ⟨v, member⟩ := List.exists_mem_of_ne_nil values some_value
      have number := exact_all v member
      rw [Value.exactNumber_of_floating (floating v member)] at number
      cases number
  · exact fun sum => .inl ⟨exact_all, sum⟩

theorem isSum_iff_of_floating {values : List Value} {total : Value} (floating : AllFloating values)
    (some_value : values ≠ []) : IsSum values total ↔ AddsUp values total := by
  constructor
  · rintro (⟨exact_all, _⟩ | ⟨_, adds⟩)
    · obtain ⟨v, member⟩ := List.exists_mem_of_ne_nil values some_value
      have number := exact_all v member
      rw [Value.exactNumber_of_floating (floating v member)] at number
      cases number
    · exact adds
  · exact fun adds => .inr ⟨floating, adds⟩

theorem isExtreme_iff_of_represents {wanted : Ordering} {values kept : List Value} {v : Value}
    (agrees : OrderAgrees Value.order values) (side : wanted ≠ .eq)
    (represents : Represents values kept) (member : v ∈ kept) :
    IsExtreme wanted kept v ↔ IsExtreme wanted values v := by
  constructor
  · rintro ⟨_, beyond⟩
    refine ⟨represents.inside v member, fun w w_in => ?_⟩
    obtain ⟨k, k_in, same⟩ := represents.covers w w_in
    exact side_trans agrees side w_in (represents.inside k k_in) (represents.inside v member)
      (by rw [same]; exact side.symm) (beyond k k_in)
  · rintro ⟨_, beyond⟩
    exact ⟨member, fun w w_in => beyond w (represents.inside w w_in)⟩

theorem distinct_extreme_iff {wanted : Ordering} {values : List Value} {v : Value}
    (agrees : OrderAgrees Value.order values) (side : wanted ≠ .eq) :
    (∃ kept, Represents values kept ∧ OrNull (IsExtreme wanted) kept v) ↔
      OrNull (IsExtreme wanted) values v := by
  by_cases none : values = []
  · subst none
    constructor
    · rintro ⟨kept, represents, reduced⟩
      rwa [represents.eq_nil] at reduced
    · exact fun reduced => ⟨[], represents_representatives agrees, reduced⟩
  · constructor
    · rintro ⟨kept, represents, reduced⟩
      rw [orNull_iff (represents.ne_nil none)] at reduced
      rw [orNull_iff none]
      exact (isExtreme_iff_of_represents agrees side represents reduced.1).mp reduced
    · intro reduced
      rw [orNull_iff none] at reduced
      -- The extreme itself is taken for its class.
      have agrees_twice : OrderAgrees Value.order (v :: values) :=
        agrees.of_subset fun w member => by
          rcases List.mem_cons.mp member with rfl | inside
          · exact reduced.1
          · exact inside
      obtain ⟨inside, apart, covers⟩ := represents_representatives agrees_twice
      have represents : Represents values (representatives (v :: values)) := by
        refine ⟨fun k member => ?_, apart, fun w member => ?_⟩
        · rcases List.mem_cons.mp (inside k member) with rfl | old
          · exact reduced.1
          · exact old
        · exact covers w (List.mem_cons_of_mem _ member)
      refine ⟨_, represents, ?_⟩
      rw [orNull_iff (represents.ne_nil none)]
      exact (isExtreme_iff_of_represents agrees side represents List.mem_cons_self).mpr reduced

theorem distinct_sum_iff {values : List Value} {v : Value} (exact_all : AllExact values)
    (idle : ∀ v ∈ values, Idle .sum v) :
    (∃ kept, Represents values kept ∧ OrNull IsSum kept v) ↔ OrNull IsSum values v := by
  have sum_iff {kept : List Value} (represents : Represents values kept) :
      OrNull IsSum kept v ↔ OrNull IsSum values v := by
    by_cases none : values = []
    · subst none
      rw [represents.eq_nil]
    · have kept_exact : AllExact kept := fun k member => exact_all k (represents.inside k member)
      have kept_idle : ∀ k ∈ kept, Idle .sum k :=
        fun k member => idle k (represents.inside k member)
      have some_kept := represents.ne_nil none
      rw [orNull_iff some_kept, orNull_iff none, isSum_iff_of_exact kept_exact some_kept,
        isSum_iff_of_exact exact_all none, exactSum_of_idle kept_idle, exactSum_of_idle idle]
  constructor
  · rintro ⟨kept, represents, reduced⟩
    exact (sum_iff represents).mp reduced
  · intro reduced
    have represents := represents_representatives (agrees_of_exact exact_all)
    exact ⟨_, represents, (sum_iff represents).mpr reduced⟩

/-- Over idle values `DISTINCT` makes no difference. -/
theorem isReduction_iff {kind : Aggregate} {distinct : Bool} {values : List Value} {v : Value}
    (suits : Suits kind distinct values) (idle : distinct = true → ∀ w ∈ values, Idle kind w) :
    IsReduction kind distinct values v ↔ Reduces kind values v := by
  unfold IsReduction
  cases distinct with
  | false => simp
  | true =>
      simp only [↓reduceIte]
      cases kind with
      | avg => simp [Reduces]
      | max => exact distinct_extreme_iff suits (by simp)
      | min => exact distinct_extreme_iff suits (by simp)
      | sum => exact distinct_sum_iff (suits.resolve_right (by simp)) (idle rfl)
      | count =>
          have none : values = [] :=
            List.eq_nil_iff_forall_not_mem.mpr fun w member => idle rfl w member
          subst none
          constructor
          · rintro ⟨kept, represents, reduced⟩
            rwa [represents.eq_nil] at reduced
          · exact fun reduced => ⟨[], ⟨by simp, .nil, by simp⟩, reduced⟩

/-! ## Reductions of parts -/

/-- Counts of parts add up to the count of the whole. -/
theorem wholeSum_counts {parts : List (List Value)} {answers : List Value}
    (each : List.Forall₂ (Reduces .count) parts answers) :
    (∀ v ∈ answers, v.int64?.isSome = true) ∧
      wholeSum answers = (parts.flatten.length : Int) := by
  induction each with
  | nil => exact ⟨by simp, rfl⟩
  | @cons part v parts answers counted _ ih =>
      have counted : v.int64? = some (part.length : Int) := counted
      refine ⟨by simpa [counted] using ih.1, ?_⟩
      have rest : (answers.filterMap Value.int64?).sum = (parts.flatten.length : Int) := ih.2
      simp [wholeSum, counted, rest]

theorem totalCount_parts {parts : List (List Value)} {answers : List Value}
    (each : List.Forall₂ (Reduces .count) parts answers) :
    totalCount answers = .error (.overflow .count) ∨
      ∃ total, totalCount answers = .ok total ∧ Reduces .count parts.flatten total := by
  obtain ⟨integers, whole⟩ := wholeSum_counts each
  rcases totalCount_exact integers with ⟨_, overflow⟩ | ⟨_, _, found, total, rfl, _, value⟩
  · exact .inl overflow
  · exact .inr ⟨_, found, congrArg some (value.trans whole)⟩

theorem IsSum.add {left right : List Value} {a b : Value} (first : IsSum left a)
    (second : IsSum right b) (some_left : left ≠ []) (some_right : right ≠ [])
    (kinds : AllExact (left ++ right) ∨ AllFloating (left ++ right)) :
    a.add b = .error (.overflow .sum) ∨ ∃ c, a.add b = .ok c ∧ IsSum (left ++ right) c := by
  rcases kinds with exact_all | floating
  · rw [isSum_iff_of_exact (fun v member => exact_all v (List.mem_append_left _ member))
      some_left] at first
    rw [isSum_iff_of_exact (fun v member => exact_all v (List.mem_append_right _ member))
      some_right] at second
    refine (Value.add_exact first second).imp_right ?_
    rintro ⟨c, added, sum⟩
    exact ⟨c, added, .inl ⟨exact_all, by rw [exactSum_append, sum]⟩⟩
  · have left_adds := (isSum_iff_of_floating
      (fun v member => floating v (List.mem_append_left _ member)) some_left).mp first
    have right_adds := (isSum_iff_of_floating
      (fun v member => floating v (List.mem_append_right _ member)) some_right).mp second
    have a_is := left_adds.isFloating fun v member => floating v (List.mem_append_left _ member)
    have b_is := right_adds.isFloating fun v member => floating v (List.mem_append_right _ member)
    obtain ⟨c, added, _⟩ := Value.add_floating a_is b_is
    exact .inr ⟨c, added, .inr ⟨floating, .join left_adds right_adds added (.refl _)⟩⟩

/-- Sums of parts add up to a sum of the whole, or do not fit. -/
theorem sumFrom_parts {values : List Value} {parts : List (List Value)} {total : Value}
    {answers : List Value} (some_value : values ≠ []) (start : IsSum values total)
    (each : List.Forall₂ IsSum parts answers) (nonempty : ∀ part ∈ parts, part ≠ [])
    (kinds : AllExact (values ++ parts.flatten) ∨ AllFloating (values ++ parts.flatten)) :
    sumFrom total answers = .error (.overflow .sum) ∨
      ∃ sum, sumFrom total answers = .ok sum ∧ IsSum (values ++ parts.flatten) sum := by
  induction each generalizing values total with
  | nil => exact .inr ⟨total, rfl, by simpa using start⟩
  | @cons part v parts answers here _ ih =>
      rw [List.flatten_cons, ← List.append_assoc] at kinds ⊢
      have both : AllExact (values ++ part) ∨ AllFloating (values ++ part) :=
        kinds.imp (fun all w member => all w (List.mem_append_left _ member))
          (fun all w member => all w (List.mem_append_left _ member))
      have some_part : part ≠ [] := nonempty part List.mem_cons_self
      rcases start.add here some_value some_part both with overflow | ⟨next, added, sum⟩
      · exact .inl (by rw [sumFrom, overflow]; rfl)
      · rw [sumFrom, added]
        exact ih (by simp [some_value]) sum
          (fun part member => nonempty part (List.mem_cons_of_mem _ member)) kinds

/-- The first of the values that none is further than: it is further than all those before it. -/
structure FirstExtreme (wanted : Ordering) (values : List Value) (v : Value) : Prop where
  splits : ∃ before after, values = before ++ v :: after ∧ ∀ u ∈ before, v.order u = wanted
  furthest : ∀ w ∈ values, w.order v ≠ wanted

namespace FirstExtreme

variable {wanted : Ordering} {values : List Value} {best v : Value}

theorem isExtreme (first : FirstExtreme wanted values v) : IsExtreme wanted values v := by
  obtain ⟨⟨before, after, rfl, _⟩, furthest⟩ := first
  exact ⟨by simp, furthest⟩

theorem singleton (side : wanted ≠ .eq) (v : Value) : FirstExtreme wanted [v] v := by
  refine ⟨⟨[], [], rfl, by simp⟩, fun w member => ?_⟩
  rw [List.mem_singleton.mp member, Value.order_self]
  exact side.symm

/-- A value that is further than the furthest is further than all. -/
theorem append_further (side : wanted ≠ .eq)
    (agrees : OrderAgrees Value.order (values ++ [v])) (first : FirstExtreme wanted values best)
    (further : v.order best = wanted) : FirstExtreme wanted (values ++ [v]) v := by
  obtain ⟨best_in, furthest⟩ := first.isExtreme
  have v_in : v ∈ values ++ [v] := by simp
  have beyond : ∀ u ∈ values, v.order u = wanted := by
    intro u member
    by_contra level
    exact side_trans agrees side v_in (List.mem_append_left _ member)
      (List.mem_append_left _ best_in) level (furthest u member) further
  refine ⟨⟨values, [], rfl, beyond⟩, fun w member => ?_⟩
  rcases List.mem_append.mp member with seen | here
  · rw [Value.order_swap v w, beyond w seen]
    cases wanted <;> simp_all
  · rw [List.mem_singleton.mp here, Value.order_self]
    exact side.symm

theorem append_other (first : FirstExtreme wanted values best) (other : v.order best ≠ wanted) :
    FirstExtreme wanted (values ++ [v]) best := by
  obtain ⟨⟨before, after, rfl, beyond⟩, furthest⟩ := first
  refine ⟨⟨before, after ++ [v], by simp, beyond⟩, fun w member => ?_⟩
  rcases List.mem_append.mp member with seen | here
  · exact furthest w seen
  · rw [List.mem_singleton.mp here]
    exact other

/-- The first extreme of the values seen so far, with further ones. -/
theorem foldl {rest : List Value} (side : wanted ≠ .eq)
    (agrees : OrderAgrees Value.order (values ++ rest)) (start : FirstExtreme wanted values best) :
    FirstExtreme wanted (values ++ rest)
      (rest.foldl (fun best v => if v.order best = wanted then v else best) best) := by
  induction rest generalizing values best with
  | nil => simpa using start
  | cons v rest ih =>
      rw [List.append_cons] at agrees ⊢
      rw [List.foldl_cons]
      refine ih agrees ?_
      by_cases further : v.order best = wanted
      · rw [if_pos further]
        exact start.append_further side (agrees.of_subset fun _ => List.mem_append_left rest) further
      · rw [if_neg further]
        exact start.append_other further

end FirstExtreme

theorem firstExtreme_extreme {wanted : Ordering} {values : List Value} (side : wanted ≠ .eq)
    (agrees : OrderAgrees Value.order values) (some_value : values ≠ []) :
    FirstExtreme wanted values (extreme wanted values) := by
  cases values with
  | nil => exact absurd rfl some_value
  | cons first rest => exact FirstExtreme.foldl side agrees (.singleton side first)

theorem isExtreme_extreme {wanted : Ordering} {values : List Value} (side : wanted ≠ .eq)
    (agrees : OrderAgrees Value.order values) (some_value : values ≠ []) :
    IsExtreme wanted values (extreme wanted values) :=
  (firstExtreme_extreme side agrees some_value).isExtreme

theorem extremes_of_parts {wanted : Ordering} {parts : List (List Value)} {answers : List Value}
    (each : List.Forall₂ (IsExtreme wanted) parts answers) :
    (∀ v ∈ answers, v ∈ parts.flatten) ∧
      ∀ w ∈ parts.flatten, ∃ v ∈ answers, w.order v ≠ wanted := by
  induction each with
  | nil => simp
  | @cons part v parts answers here _ ih =>
      obtain ⟨inside, bounded⟩ := ih
      simp only [List.flatten_cons, List.mem_append, List.mem_cons]
      constructor
      · rintro u (rfl | later)
        · exact .inl here.1
        · exact .inr (inside u later)
      · rintro w (first | later)
        · exact ⟨v, .inl rfl, here.2 w first⟩
        · obtain ⟨u, listed, before⟩ := bounded w later
          exact ⟨u, .inr listed, before⟩

/-- The furthest of the extremes of parts is the extreme of the whole. -/
theorem isExtreme_flatten {wanted : Ordering} {parts : List (List Value)} {answers : List Value}
    (side : wanted ≠ .eq) (agrees : OrderAgrees Value.order parts.flatten)
    (each : List.Forall₂ (IsExtreme wanted) parts answers) (some_answer : answers ≠ []) :
    IsExtreme wanted parts.flatten (extreme wanted answers) := by
  obtain ⟨inside, bounded⟩ := extremes_of_parts each
  obtain ⟨best_in, furthest⟩ := isExtreme_extreme side (agrees.of_subset inside) some_answer
  refine ⟨inside _ best_in, fun w w_in => ?_⟩
  obtain ⟨v, v_in, before⟩ := bounded w w_in
  exact side_trans agrees side w_in (inside v v_in) (inside _ best_in) before (furthest v v_in)

/-- The answers that are something come from the parts that have values. -/
theorem something_of_parts {property : List Value → Value → Prop} {parts : List (List Value)}
    {answers : List Value} (each : List.Forall₂ (OrNull property) parts answers)
    (something : ∀ part v, property part v → part ∈ parts → v.isNull = false) :
    ∃ nonempty, nonempty.flatten = parts.flatten ∧ (∀ part ∈ nonempty, part ≠ []) ∧
      List.Forall₂ property nonempty (answers.filter (!·.isNull)) := by
  induction each with
  | nil => exact ⟨[], rfl, by simp, .nil⟩
  | @cons part v parts answers here _ ih =>
      obtain ⟨nonempty, same, all_nonempty, rest⟩ :=
        ih fun part v holds member => something part v holds (List.mem_cons_of_mem _ member)
      unfold OrNull at here
      split at here
      next empty =>
        subst here empty
        exact ⟨nonempty, by simpa using same, all_nonempty, rest⟩
      next some_value =>
        have is_something := something part v here List.mem_cons_self
        refine ⟨part :: nonempty, by simp [same], ?_, ?_⟩
        · rintro p (_ | ⟨_, member⟩)
          · exact some_value
          · exact all_nonempty p member
        · rw [List.filter_cons_of_pos (by simp [is_something])]
          exact .cons here rest

theorem something_of_counts {parts : List (List Value)} {answers : List Value}
    (each : List.Forall₂ (Reduces .count) parts answers) :
    answers.filter (!·.isNull) = answers := by
  induction each with
  | nil => rfl
  | @cons part v parts answers here _ ih =>
      have counted : v.int64? = some (part.length : Int) := here
      have something : v.isNull = false := by
        cases v <;> simp_all [Value.int64?, Value.isNull]
      rw [List.filter_cons_of_pos (by simp [something]), ih]

theorem isNull_of_isSum {values : List Value} {total : Value} (sum : IsSum values total) :
    total.isNull = false := by
  rcases sum with ⟨_, number⟩ | ⟨floating, adds⟩
  · cases total <;> simp_all [Value.exactNumber?, Quantity.ofValue?, Value.isNull]
  · have is := adds.isFloating floating
    cases total <;> simp_all [Value.isFloating, Value.isNull]

theorem totalSum_parts {parts : List (List Value)} {answers : List Value}
    (kinds : AllExact parts.flatten ∨ AllFloating parts.flatten)
    (each : List.Forall₂ (OrNull IsSum) parts answers) :
    totalSum (answers.filter (!·.isNull)) = .error (.overflow .sum) ∨
      ∃ total, totalSum (answers.filter (!·.isNull)) = .ok total ∧
        OrNull IsSum parts.flatten total := by
  obtain ⟨nonempty, same, all_nonempty, sums⟩ := something_of_parts each
    fun part v sum _ => isNull_of_isSum sum
  rw [← same] at kinds ⊢
  generalize answers.filter (!·.isNull) = present at sums ⊢
  cases sums with
  | nil => exact .inr ⟨.null, rfl, rfl⟩
  | @cons part v parts others here rest =>
      have some_value : part ≠ [] := all_nonempty part List.mem_cons_self
      have some_whole : (part :: parts).flatten ≠ [] := by simp [some_value]
      simp only [orNull_iff some_whole]
      exact sumFrom_parts some_value here rest
        (fun p member => all_nonempty p (List.mem_cons_of_mem _ member)) kinds

theorem extreme_parts {wanted : Ordering} {parts : List (List Value)} {answers : List Value}
    (side : wanted ≠ .eq) (agrees : OrderAgrees Value.order parts.flatten)
    (something : ∀ v ∈ parts.flatten, v.isNull = false)
    (each : List.Forall₂ (OrNull (IsExtreme wanted)) parts answers) :
    OrNull (IsExtreme wanted) parts.flatten (extreme wanted (answers.filter (!·.isNull))) := by
  obtain ⟨nonempty, same, all_nonempty, extremes⟩ := something_of_parts each
    fun part v extreme member => something v (List.mem_flatten_of_mem member extreme.1)
  rw [← same] at agrees ⊢
  generalize answers.filter (!·.isNull) = present at extremes ⊢
  cases extremes with
  | nil => rfl
  | @cons part v parts others here rest =>
      have some_value : (part :: parts).flatten ≠ [] := by
        simp [all_nonempty part List.mem_cons_self]
      rw [orNull_iff some_value]
      exact isExtreme_flatten side agrees (.cons here rest) (by simp)

theorem reduces_of_parts {kind : Aggregate} {distinct : Bool} {parts : List (List Value)}
    {answers : List Value} (suits : Suits kind distinct parts.flatten)
    (idle : distinct = true → ∀ v ∈ parts.flatten, Idle kind v)
    (each : List.Forall₂ (IsReduction kind distinct) parts answers) :
    List.Forall₂ (Reduces kind) parts answers := by
  induction each with
  | nil => exact .nil
  | @cons part v parts answers here _ ih =>
      rw [List.flatten_cons] at suits idle
      have suits_part : Suits kind distinct part :=
        suits.of_subset fun w member => List.mem_append_left _ member
      refine .cons ((isReduction_iff suits_part ?_).mp here) (ih ?_ ?_)
      · exact fun only w member => idle only w (List.mem_append_left _ member)
      · exact suits.of_subset fun w member => List.mem_append_right _ member
      · exact fun only w member => idle only w (List.mem_append_right _ member)

/-- Reductions of parts are reduced to a reduction of the whole, unless a number does not fit. -/
theorem reduce_parts {kind : Aggregate} {distinct : Bool} {parts : List (List Value)}
    {answers : List Value} (no_average : kind ≠ .avg)
    (suits : Suits kind distinct parts.flatten)
    (something : ∀ v ∈ parts.flatten, v.isNull = false)
    (idle : distinct = true → ∀ v ∈ parts.flatten, Idle kind v)
    (each : List.Forall₂ (IsReduction kind distinct) parts answers) :
    (∃ tally, reduce kind (answers.filter (!·.isNull)) = .error (.overflow tally)) ∨
      ∃ total, reduce kind (answers.filter (!·.isNull)) = .ok total ∧
        IsReduction kind distinct parts.flatten total := by
  have plain := reduces_of_parts suits idle each
  simp only [isReduction_iff suits idle]
  cases kind with
  | avg => exact absurd rfl no_average
  | count =>
      rw [something_of_counts plain]
      exact (totalCount_parts plain).imp_left fun overflow => ⟨_, overflow⟩
  | sum =>
      exact (totalSum_parts (suits.imp_right And.right) plain).imp_left
        fun overflow => ⟨_, overflow⟩
  | max => exact .inr ⟨_, rfl, extreme_parts (by simp) suits something plain⟩
  | min => exact .inr ⟨_, rfl, extreme_parts (by simp) suits something plain⟩

/-! ## DISTINCT over values that are not idle -/

/-- A value that is not idle, alone in each of two parts, is counted or added twice. -/
theorem reduce_twice {kind : Aggregate} {v : Value} (not_idle : ¬ Idle kind v) :
    ∃ answer total, IsReduction kind true [v] answer ∧ answer.isNull = false ∧
      Suits kind true [v, v] ∧ reduce kind [answer, answer] = .ok total ∧
      ¬ IsReduction kind true [v, v] total := by
  cases kind with
  | max | min | avg => exact absurd trivial not_idle
  | count =>
      refine ⟨.integer (.ofInt64 1), .integer (.ofInt64 2), ⟨[v], .singleton v, rfl⟩, rfl, trivial,
        rfl, ?_⟩
      rintro ⟨kept, represents, counted⟩
      rw [represents.eq_singleton (v := v) (by simp) (by simp)] at counted
      exact absurd (Option.some.inj counted : (2 : Int) = 1) (by decide)
  | sum =>
      obtain ⟨q, number, nonzero⟩ : ∃ q, v.exactNumber? = some q ∧ q ≠ 0 := by
        simpa [Idle] using not_idle
      obtain ⟨d, rfl⟩ := Value.exists_number number
      have exact_all : AllExact [v, v] := by simp [AllExact, number]
      have exact_one : AllExact [v] := by simp [AllExact, number]
      have sum_one : exactSum [v] = d.number := by simp [exactSum, number]
      refine ⟨.decimal d, .decimal (d.add d), ⟨[v], .singleton v, ?_⟩, rfl, .inl exact_all, rfl, ?_⟩
      · exact .inl ⟨exact_one, by rw [sum_one, Value.exactNumber_decimal]⟩
      · rintro ⟨kept, represents, summed⟩
        rw [represents.eq_singleton (v := v) (by simp) (by simp), Reduces, orNull_iff (by simp),
          isSum_iff_of_exact exact_one (by simp), Value.exactNumber_decimal, Decimal.number_add,
          sum_one, Option.some.injEq] at summed
        exact nonzero (by linarith)

/-! ## Merged rows -/

section Merging

variable {R : Type} [ResultRow R]

/-- Rows that hold the value they are made with. -/
class LawfulRow (R : Type) [ResultRow R] : Prop where
  scalar_ofScalar : ∀ v : Value, ResultRow.scalar? (ResultRow.ofScalar v : R) = some v
  scalar_withScalar : ∀ (row : R) (v : Value),
    ResultRow.scalar? (ResultRow.withScalar row v) = some v

instance : LawfulRow Value where
  scalar_ofScalar _ := rfl
  scalar_withScalar _ _ := rfl

instance : LawfulRow Row where
  scalar_ofScalar _ := rfl
  scalar_withScalar _ _ := rfl

/-- One row, which holds the value. -/
def IsSingle (merged : Option (MergedRows R)) (v : Value) : Prop :=
  ∃ row, merged = some (.listed [row]) ∧ ResultRow.scalar? row = some v

theorem isSingle_singleRow [LawfulRow R] (results : List (List R)) (v : Value) :
    IsSingle (some (singleRow results v)) v := by
  unfold singleRow
  cases results.flatten with
  | nil => exact ⟨_, rfl, LawfulRow.scalar_ofScalar v⟩
  | cons template rest => exact ⟨_, rfl, LawfulRow.scalar_withScalar template v⟩

/-- Several answers to a query for an aggregate are merged to one row with the reduction of their
values. -/
theorem merge_aggregate {results : List (List R)} {statement : Statement} {kind : Aggregate}
    (several : 2 ≤ results.length)
    (strategy : MergeStrategy.ofStatement statement = .aggregate kind) (mapper : ColumnMapper)
    (bindings : Bindings) :
    merge results statement mapper bindings =
      (reduce kind (scalars results)).map fun v => some (singleRow results v) := by
  cases statement with
  | select query =>
      have of_query : MergeStrategy.ofSelect query = .aggregate kind := strategy
      simp only [merge_several several, mergeQuery, of_query]
      cases reduce kind (scalars results) <;> rfl
  | _ => cases strategy

end Merging

end ShardedSql
