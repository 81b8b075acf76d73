import ShardedSql.Proofs.Outcome
import ShardedSql.Router

/-!
Where suffixes come from. Main statement: what a router answers for a statement holds only suffixes
that its strategy gives to some value or lists as one of all.
-/

namespace ShardedSql

open Numeric Sql Text

/-- Each suffix has the property. -/
def Routed.Within (p : String → Prop) (routed : Routed) : Prop :=
  ∀ suffix ∈ routed.suffixes, p suffix

namespace Routed

variable {p : String → Prop}

theorem within_nothing : nothing.Within p :=
  fun _ member => absurd member NameSet.not_mem_empty

theorem within_everything : everything.Within p :=
  fun _ member => absurd member NameSet.not_mem_empty

theorem Within.absorb {left right : Routed} (first : left.Within p) (second : right.Within p) :
    (left.absorb right).Within p := by
  intro suffix member
  rcases NameSet.mem_union.mp member with here | there
  · exact first suffix here
  · exact second suffix there

end Routed

theorem within_absorbAll {α : Type} {p : String → Prop} {route : α → Except ShardError Routed}
    {items : List α} {routed : Routed}
    (each : ∀ item ∈ items, ∀ found, route item = .ok found → found.Within p)
    (all : absorbAll route items = .ok routed) : routed.Within p := by
  induction items generalizing routed with
  | nil =>
      cases all
      exact Routed.within_nothing
  | cons item rest ih =>
      obtain ⟨here, found, all⟩ := bind_eq_ok.mp all
      obtain ⟨others, later, same⟩ := bind_eq_ok.mp all
      cases same
      exact (each item (List.mem_cons_self ..) here found).absorb
        (ih (fun other member => each other (List.mem_cons_of_mem _ member)) later)

/-- Each suffix the strategy gives to a value has the property. -/
def Strategy.Gives (strategy : Strategy) (p : String → Prop) : Prop :=
  ∀ v suffixes, strategy.suffixesFor v = .ok suffixes → ∀ suffix ∈ suffixes, p suffix

namespace Router

section Predicates

variable {router : Router} {bindings : Bindings} {p : String → Prop}

theorem mem_suffixesForAll {items : List Value} {suffixes : NameSet}
    (values : router.strategy.Gives p)
    (found : router.suffixesForAll items = .ok suffixes) : ∀ suffix ∈ suffixes, p suffix := by
  induction items generalizing suffixes with
  | nil =>
      cases found
      exact fun _ member => absurd member NameSet.not_mem_empty
  | cons v rest ih =>
      obtain ⟨here, first, found⟩ := bind_eq_ok.mp found
      obtain ⟨others, later, same⟩ := bind_eq_ok.mp found
      cases same
      intro suffix member
      rcases NameSet.mem_union.mp member with now | after
      · exact values v here first suffix now
      · exact ih later suffix after

theorem mem_suffixesFor {v : Value} {suffixes : NameSet} (values : router.strategy.Gives p)
    (found : router.suffixesFor v = .ok suffixes) : ∀ suffix ∈ suffixes, p suffix := by
  cases v with
  | list items => exact mem_suffixesForAll values found
  | _ => exact values _ suffixes found

theorem within_pinned {v : Value} {routed : Routed} (values : router.strategy.Gives p)
    (found : (router.suffixesFor v).map .pinned = .ok routed) : routed.Within p := by
  obtain ⟨suffixes, here, rfl⟩ := map_eq_ok.mp found
  intro suffix member
  exact mem_suffixesFor values here suffix member

mutual

theorem within_visit (values : router.strategy.Gives p) (bound : List BoundTable) (e : Expr)
    {routed : Routed} (found : visit router bindings bound e = .ok routed) : routed.Within p := by
  unfold visit at found
  split at found
  case h_1 inner => exact within_visit values bound inner found
  case h_2 left right =>
    obtain ⟨l, first, found⟩ := bind_eq_ok.mp found
    obtain ⟨r, second, same⟩ := bind_eq_ok.mp found
    cases same
    exact (within_visit values bound left first).absorb (within_visit values bound right second)
  case h_3 left right =>
    obtain ⟨l, first, found⟩ := bind_eq_ok.mp found
    obtain ⟨r, second, same⟩ := bind_eq_ok.mp found
    cases same
    exact (within_visit values bound left first).absorb (within_visit values bound right second)
  case h_4 left right =>
    split at found
    · exact within_compared values right found
    · split at found
      · exact within_compared values left found
      · cases found
        exact Routed.within_nothing
  case h_5 operand items =>
    split at found
    · split at found
      · cases found
        exact Routed.within_everything
      · exact within_comparedAll values items found
    · cases found
      exact Routed.within_nothing
  case h_6 =>
    cases found
    exact Routed.within_nothing

theorem within_compared (values : router.strategy.Gives p) (e : Expr) {routed : Routed}
    (found : compared router bindings e = .ok routed) : routed.Within p := by
  unfold compared at found
  split at found
  case h_1 inner => exact within_compared values inner found
  case h_2 => exact within_pinned values found
  case h_3 =>
    split at found
    · exact within_pinned values found
    · cases found
      exact Routed.within_everything
  case h_4 query => exact within_visitQuery values query found
  case h_5 =>
    cases found
    exact Routed.within_everything

theorem within_comparedAll (values : router.strategy.Gives p) (items : List Expr) {routed : Routed}
    (found : comparedAll router bindings items = .ok routed) : routed.Within p := by
  match items with
  | [] =>
      rw [comparedAll] at found
      cases found
      exact Routed.within_nothing
  | e :: rest =>
      rw [comparedAll] at found
      obtain ⟨here, first, found⟩ := bind_eq_ok.mp found
      obtain ⟨others, later, same⟩ := bind_eq_ok.mp found
      cases same
      exact (within_compared values e first).absorb (within_comparedAll values rest later)

theorem within_visitQuery (values : router.strategy.Gives p) (query : Select) {routed : Routed}
    (found : visitQuery router bindings query = .ok routed) : routed.Within p := by
  match query with
  | ⟨_, _, _, none, _, _, _, _, _⟩ =>
      rw [visitQuery] at found
      split at found
      · cases found
        split
        · exact Routed.within_everything
        · exact Routed.within_nothing
      · cases found
        exact Routed.within_nothing
  | ⟨_, _, _, some predicate, _, _, _, _, _⟩ =>
      rw [visitQuery] at found
      split at found
      · exact within_visit values _ predicate found
      · cases found
        exact Routed.within_nothing

end

theorem within_visitInsertQuery (values : router.strategy.Gives p) {query : Select}
    {routed : Routed} (found : visitInsertQuery router bindings query = .ok routed) :
    routed.Within p := by
  obtain ⟨inner, here, same⟩ := bind_eq_ok.mp found
  cases same
  split
  · exact Routed.within_everything
  · exact within_visitQuery values query here

theorem within_visitStatement (values : router.strategy.Gives p) {statement : Statement}
    {routed : Routed} (found : visitStatement router bindings statement = .ok routed) :
    routed.Within p := by
  unfold visitStatement at found
  split at found
  · unfold visitInsert at found
    split at found
    · split at found
      · exact within_absorbAll (fun e _ _ here => within_compared values e here) found
      · cases found
        exact Routed.within_nothing
    · exact within_absorbAll (fun _ _ _ here => within_visitInsertQuery values here) found
  · split at found
    · exact within_visit values _ _ found
    · cases found
      exact Routed.within_nothing

theorem mem_overrides (values : router.strategy.Gives p) {head : HeadComment} {suffixes : NameSet}
    (found : overrides router bindings head = .ok suffixes) : ∀ suffix ∈ suffixes, p suffix := by
  unfold overrides at found
  have start : ∀ suffix ∈ (∅ : NameSet), p suffix :=
    fun _ member => absurd member NameSet.not_mem_empty
  -- The suffixes so far are an argument of the fold, so the induction is over any of them.
  revert start found
  generalize (∅ : NameSet) = before
  induction head.valuesFor router.strategy.column generalizing before with
  | nil =>
      intro found start
      cases found
      exact start
  | cons reference rest ih =>
      intro found start
      rw [List.foldlM_cons] at found
      obtain ⟨_, step, found⟩ := bind_eq_ok.mp found
      obtain ⟨here, first, same⟩ := bind_eq_ok.mp step
      cases same
      apply ih _ found
      intro suffix member
      rcases NameSet.mem_union.mp member with earlier | now
      · exact start suffix earlier
      · exact mem_suffixesFor values first suffix now

/-- What a router answers holds only suffixes its strategy gives to a value or lists. -/
theorem mem_subTables (values : router.strategy.Gives p)
    (all : ∀ suffix ∈ router.strategy.allSuffixes, p suffix) {prepared : PreparedStatement}
    {suffixes : NameSet} (found : router.subTables bindings prepared = .ok suffixes) :
    ∀ suffix ∈ suffixes, p suffix := by
  obtain ⟨overridden, asked, found⟩ := bind_eq_ok.mp found
  obtain ⟨routed, visited, same⟩ := bind_eq_ok.mp found
  cases same
  have known : ∀ suffix ∈ overridden ∪ routed.suffixes, p suffix := by
    intro suffix member
    rcases NameSet.mem_union.mp member with here | there
    · exact mem_overrides values asked suffix here
    · exact within_visitStatement values visited suffix there
  intro suffix member
  split at member
  · rcases NameSet.mem_union.mp member with here | there
    · exact known suffix here
    · exact all suffix there
  · exact known suffix member

end Predicates

end Router

/-! ## Strategies that count -/

/-- Digits, and at least one of them. -/
def IsNumeric (suffix : String) : Prop :=
  suffix.toList ≠ [] ∧ ∀ c ∈ suffix.toList, c.isDigit = true

theorem isNumeric_natText (n : Nat) : IsNumeric (natText n) :=
  ⟨natText_ne_nil n, fun _ => isDigit_of_mem_natText⟩

namespace Strategy

/-- A strategy by remainders or by months. -/
def Counts : Strategy → Prop
  | .modulo _ _ _ => True
  | .month _ => True
  | .value _ => False
  | .custom _ => False

theorem mem_singleton {suffix other : String} : other ∈ singleton suffix ↔ other = suffix := by
  simp [singleton]

theorem keyMonth?_bounds {v : Value} {month : Nat} (read : keyMonth? v = some month) :
    1 ≤ month ∧ month ≤ 12 := by
  cases v with
  | date d =>
      cases read
      exact d.month_bounds
  | dateTime m =>
      cases read
      exact m.date.month_bounds
  | text s =>
      obtain ⟨d, _, rfl⟩ := Option.map_eq_some_iff.mp read
      exact d.month_bounds
  | _ => cases read

theorem natText_mem_allSuffixes {column : String} {month : Nat}
    (bounds : 1 ≤ month ∧ month ≤ 12) : natText month ∈ allSuffixes (.month column) := by
  rw [allSuffixes, NameSet.mem_ofList]
  exact List.mem_map.mpr ⟨month - 1, List.mem_range.mpr (by omega), by congr 1; omega⟩

theorem intText_mem_allSuffixes {column : String} {modulus : Nat} (positive : 0 < modulus)
    (n : Int) : intText (n % modulus) ∈ allSuffixes (.modulo column modulus positive) := by
  have low : 0 ≤ n % (modulus : Int) := Int.emod_nonneg _ (by omega)
  have high : n % (modulus : Int) < modulus := Int.emod_lt_of_pos _ (by omega)
  rw [allSuffixes, NameSet.mem_ofList, intText, if_neg (by omega)]
  exact List.mem_map.mpr ⟨(n % (modulus : Int)).natAbs, List.mem_range.mpr (by omega), rfl⟩

/-- What a value is given is one of the shards that there are. -/
theorem Counts.gives {strategy : Strategy} (counts : strategy.Counts) :
    strategy.Gives (· ∈ strategy.allSuffixes) := by
  intro v suffixes found suffix member
  have nowhere {suffixes : NameSet} (none : (.ok ∅ : Except ShardError NameSet) = .ok suffixes) :
      suffix ∉ suffixes := by
    cases none
    exact NameSet.not_mem_empty
  cases strategy with
  | modulo column modulus positive =>
      simp only [suffixesFor] at found
      split at found
      · exact absurd member (nowhere found)
      · cases read : keyInteger? v with
        | none => simp [read] at found
        | some n =>
            simp only [read, Option.map_some, Except.ok.injEq] at found
            rw [← found, mem_singleton] at member
            rw [member]
            exact intText_mem_allSuffixes positive n
  | month column =>
      simp only [suffixesFor] at found
      split at found
      · exact absurd member (nowhere found)
      · cases read : keyMonth? v with
        | none => simp [read] at found
        | some month =>
            simp only [read, Option.map_some, Except.ok.injEq] at found
            rw [← found, mem_singleton] at member
            rw [member]
            exact natText_mem_allSuffixes (keyMonth?_bounds read)
  | value column => exact counts.elim
  | custom rule => exact counts.elim

theorem Counts.exists_mem_allSuffixes {strategy : Strategy} (counts : strategy.Counts) :
    ∃ suffix, suffix ∈ strategy.allSuffixes := by
  cases strategy with
  | modulo column modulus positive => exact ⟨_, intText_mem_allSuffixes positive 0⟩
  | month column => exact ⟨_, natText_mem_allSuffixes (show 1 ≤ 1 ∧ 1 ≤ 12 by decide)⟩
  | value column => exact counts.elim
  | custom rule => exact counts.elim

theorem Counts.isNumeric_of_mem_allSuffixes {strategy : Strategy} (counts : strategy.Counts)
    {suffix : String} (member : suffix ∈ strategy.allSuffixes) : IsNumeric suffix := by
  cases strategy with
  | modulo column modulus positive =>
      obtain ⟨n, _, rfl⟩ := List.mem_map.mp (NameSet.mem_ofList.mp member)
      exact isNumeric_natText n
  | month column =>
      obtain ⟨n, _, rfl⟩ := List.mem_map.mp (NameSet.mem_ofList.mp member)
      exact isNumeric_natText (n + 1)
  | value column => exact counts.elim
  | custom rule => exact counts.elim

end Strategy

namespace Router

variable {router : Router} {bindings : Bindings} {prepared : PreparedStatement}
  {suffixes : NameSet}

/-- What a statement visits are shards that there are. -/
theorem mem_allSuffixes_of_mem_subTables (counts : router.strategy.Counts)
    (found : router.subTables bindings prepared = .ok suffixes) :
    ∀ suffix ∈ suffixes, suffix ∈ router.strategy.allSuffixes :=
  mem_subTables counts.gives (fun _ => id) found

/-- The shards of a table that is shared out by remainders or months have numbers. -/
theorem isNumeric_of_mem_subTables (counts : router.strategy.Counts)
    (found : router.subTables bindings prepared = .ok suffixes) {suffix : String}
    (member : suffix ∈ suffixes) : IsNumeric suffix :=
  counts.isNumeric_of_mem_allSuffixes
    (mem_allSuffixes_of_mem_subTables counts found suffix member)

end Router

end ShardedSql
