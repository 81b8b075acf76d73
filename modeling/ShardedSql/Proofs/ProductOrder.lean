import Mathlib
import ShardedSql.Proofs.ShardStatements

/-!
The order of rewrites. The odometer shows the digits of the number of the next statement, where each
table counts as high as it has suffixes. Main statement: whatever is asked for and passed over, the
statements come in the lexicographic order of their positions, none twice, and none is left out.
-/

namespace ShardedSql

open Numeric Text

namespace Rewrites

/-- The tables of a plan with at least one suffix. -/
def sharded (plan : List TableShards) : List TableShards :=
  plan.filter fun shards => !shards.suffixes.isEmpty

/-- The number of combinations, however large it is. -/
def volume (dimensions : List TableShards) : Nat :=
  (dimensions.map (·.suffixes.length)).prod

/-- The positions of the suffixes in one combination, by its number; the last table has the lowest
digit. -/
def digits : List TableShards → Nat → List Nat
  | [], _ => []
  | _ :: rest, index => index / volume rest :: digits rest (index % volume rest)

theorem volume_cons (shards : TableShards) (rest : List TableShards) :
    volume (shards :: rest) = shards.suffixes.length * volume rest := by
  simp [volume]

theorem suffixes_ne_nil (plan : List TableShards) :
    ∀ shards ∈ sharded plan, shards.suffixes ≠ [] := by
  intro shards member
  have kept := (List.mem_filter.mp member).2
  simpa using kept

section Digits

variable {dimensions : List TableShards} (nonempty : ∀ shards ∈ dimensions, shards.suffixes ≠ [])

include nonempty in
theorem volume_pos : 0 < volume dimensions := by
  induction dimensions with
  | nil => exact Nat.one_pos
  | cons shards rest ih =>
      have here := List.length_pos_of_ne_nil (nonempty shards (List.mem_cons_self ..))
      rw [volume_cons]
      exact Nat.mul_pos here (ih fun other member => nonempty other (List.mem_cons_of_mem _ member))

omit nonempty in
theorem digits_zero : digits dimensions 0 = dimensions.map fun _ => 0 := by
  induction dimensions with
  | nil => rfl
  | cons shards rest ih => simp [digits, ih]

include nonempty in
theorem points_digits {index : Nat} (below : index < volume dimensions) :
    Points dimensions (digits dimensions index) := by
  induction dimensions generalizing index with
  | nil => exact .nil
  | cons shards rest ih =>
      have rest_nonempty := fun other member => nonempty other (List.mem_cons_of_mem shards member)
      have positive := volume_pos rest_nonempty
      rw [volume_cons] at below
      exact .cons ((Nat.div_lt_iff_lt_mul positive).mpr below)
        (ih rest_nonempty (Nat.mod_lt index positive))

include nonempty in
/-- Every combination has a number. -/
theorem exists_digits {positions : List Nat} (points : Points dimensions positions) :
    ∃ index < volume dimensions, digits dimensions index = positions := by
  induction points with
  | nil => exact ⟨0, by simp [volume], rfl⟩
  | @cons shards position rest positions here _ ih =>
      have rest_nonempty := fun other member => nonempty other (List.mem_cons_of_mem shards member)
      have positive := volume_pos rest_nonempty
      obtain ⟨index, below, same⟩ := ih rest_nonempty
      refine ⟨volume rest * position + index, ?_, ?_⟩
      · calc
          volume rest * position + index < volume rest * position + volume rest := by omega
          _ = volume rest * (position + 1) := (Nat.mul_succ ..).symm
          _ ≤ volume rest * shards.suffixes.length := Nat.mul_le_mul_left _ here
          _ = volume (shards :: rest) := by rw [volume_cons, Nat.mul_comm]
      · rw [digits, Nat.mul_add_div positive, Nat.mul_add_mod, Nat.div_eq_of_lt below,
          Nat.mod_eq_of_lt below, Nat.add_zero, same]

include nonempty in
/-- Combinations with larger numbers come later in lexicographic order. -/
theorem digits_lt {i j : Nat} (less : i < j) (below : j < volume dimensions) :
    digits dimensions i < digits dimensions j := by
  induction dimensions generalizing i j with
  | nil =>
      have only : volume [] = 1 := rfl
      omega
  | cons shards rest ih =>
      have rest_nonempty := fun other member => nonempty other (List.mem_cons_of_mem shards member)
      have positive := volume_pos rest_nonempty
      rcases Nat.lt_or_eq_of_le (Nat.div_le_div_right (c := volume rest) less.le) with first | same
      · exact List.Lex.rel first
      · have later : i % volume rest < j % volume rest := by
          have i_parts := Nat.div_add_mod i (volume rest)
          have j_parts := Nat.div_add_mod j (volume rest)
          rw [same] at i_parts
          omega
        rw [digits, digits, same]
        exact List.Lex.cons (ih rest_nonempty later (Nat.mod_lt j positive))

include nonempty in
theorem digits_inj {i j : Nat} (i_below : i < volume dimensions) (j_below : j < volume dimensions)
    (same : digits dimensions i = digits dimensions j) : i = j := by
  rcases Nat.lt_trichotomy i j with less | equal | greater
  · have apart := digits_lt nonempty less j_below
    rw [same] at apart
    exact absurd apart (List.lt_irrefl _)
  · exact equal
  · have apart := digits_lt nonempty greater i_below
    rw [same] at apart
    exact absurd apart (List.lt_irrefl _)

include nonempty in
/-- One turn of the odometer counts one up; behind the last combination it shows the first one and
has turned over. -/
theorem turn_digits {index : Nat} (below : index < volume dimensions) :
    turn dimensions (digits dimensions index) =
      if index + 1 < volume dimensions then (digits dimensions (index + 1), false)
      else (digits dimensions 0, true) := by
  induction dimensions generalizing index with
  | nil =>
      have only : volume [] = 1 := rfl
      rw [if_neg (by omega)]
      rfl
  | cons shards rest ih =>
      have rest_nonempty := fun other member => nonempty other (List.mem_cons_of_mem shards member)
      have positive := volume_pos rest_nonempty
      have parts := Nat.div_add_mod index (volume rest)
      have low := Nat.mod_lt index positive
      rw [volume_cons] at below
      have high := (Nat.div_lt_iff_lt_mul positive).mpr below
      rw [digits, turn, ih rest_nonempty low]
      by_cases inner : index % volume rest + 1 < volume rest
      -- The tables behind the first one count up among themselves.
      · have quotient : (index + 1) / volume rest = index / volume rest := by
          rw [← parts, Nat.add_assoc, Nat.mul_add_div positive, Nat.div_eq_of_lt inner,
            Nat.mul_add_div positive, Nat.div_eq_of_lt low]
        have remainder : (index + 1) % volume rest = index % volume rest + 1 := by
          rw [← parts, Nat.add_assoc, Nat.mul_add_mod, Nat.mod_eq_of_lt inner, Nat.mul_add_mod,
            Nat.mod_eq_of_lt low]
        have more : index + 1 < volume (shards :: rest) := by
          rw [volume_cons]
          have := (Nat.div_lt_iff_lt_mul positive).mp (quotient ▸ high)
          omega
        rw [if_pos inner, if_pos more, digits, quotient, remainder]
      · have carry : index + 1 = volume rest * (index / volume rest + 1) := by
          rw [Nat.mul_succ]
          omega
        have quotient : (index + 1) / volume rest = index / volume rest + 1 := by
          rw [carry, Nat.mul_div_cancel_left _ positive]
        have remainder : (index + 1) % volume rest = 0 := by
          rw [carry, Nat.mul_mod_right]
        have more_iff : index / volume rest + 1 < shards.suffixes.length ↔
            index + 1 < volume (shards :: rest) := by
          rw [volume_cons, ← quotient, Nat.div_lt_iff_lt_mul positive]
        rw [if_neg inner]
        by_cases more : index + 1 < volume (shards :: rest)
        · simp only [if_pos more, if_pos (more_iff.mpr more), digits, quotient, remainder]
        · simp only [if_neg more, if_neg fun within => more (more_iff.mp within), digits,
            Nat.zero_div, Nat.zero_mod]

include nonempty in
theorem combinations_eq : combinations dimensions = min (volume dimensions) maxUInt64 := by
  -- The product so far is an argument of the fold; it stays at the largest number once it got there.
  have folded (product : Nat) : dimensions.foldl (fun product shards =>
      min (product * shards.suffixes.length) maxUInt64) (min product maxUInt64) =
        min (product * volume dimensions) maxUInt64 := by
    induction dimensions generalizing product with
    | nil => simp [volume]
    | cons shards rest ih =>
        have here := List.length_pos_of_ne_nil (nonempty shards (List.mem_cons_self ..))
        have step : min (min product maxUInt64 * shards.suffixes.length) maxUInt64 =
            min (product * shards.suffixes.length) maxUInt64 := by
          rcases Nat.le_total product maxUInt64 with small | large
          · rw [Nat.min_eq_left small]
          · rw [Nat.min_eq_right large,
              Nat.min_eq_right (Nat.le_mul_of_pos_right maxUInt64 here),
              Nat.min_eq_right (large.trans (Nat.le_mul_of_pos_right product here))]
        rw [List.foldl_cons, step,
          ih (fun other member => nonempty other (List.mem_cons_of_mem _ member)), volume_cons,
          Nat.mul_assoc]
  simpa [combinations, maxUInt64] using folded 1

end Digits

/-! ## Asking for statements -/

/-- What can be asked of rewrites: the next statement, or the one behind some that are passed
over. -/
inductive Call where
  | next
  | nth (skipped : Nat)

namespace Call

/-- The number of statements passed over before the one that is answered. -/
def skipped : Call → Nat
  | .next => 0
  | .nth skipped => skipped

/-- The statements that calls pass and answer, as far as there are any. -/
def passed (calls : List Call) : Nat :=
  (calls.map fun call => call.skipped + 1).sum

end Call

def answer (rewrites : Rewrites) (call : Call) : Option ShardStatement :=
  (rewrites.skip call.skipped).next?.map (·.1)

/-- The rewrites behind a call. -/
def behind (rewrites : Rewrites) (call : Call) : Rewrites :=
  match (rewrites.skip call.skipped).next? with
  | some (_, rest) => rest
  | none => rewrites.skip call.skipped

def after (rewrites : Rewrites) (calls : List Call) : Rewrites :=
  calls.foldl behind rewrites

/-- The tables at some positions, with their names there. -/
def namesAt (dimensions : List TableShards) (positions : List Nat) : List (String × String) :=
  List.zipWith
    (fun shards position =>
      (shards.table, physicalName shards.table (shards.suffixes[position]?.getD "")))
    dimensions positions

/-- The statement with a number: the text with the tables renamed to their names at the positions
that the digits show. -/
def statementAt (sql : String) (dimensions : List TableShards) (index : Nat) : ShardStatement where
  sql := renameWords ((namesAt dimensions (digits dimensions index)).map fun entry =>
    ⟨entry.1, entry.2⟩) sql
  index := index
  tables := namesAt dimensions (digits dimensions index)

/-- Rewrites of which so many statements have been passed, or all of them. -/
structure Stands (sql : String) (dimensions : List TableShards) (index : Nat)
    (rewrites : Rewrites) : Prop where
  sql_eq : rewrites.sql = sql
  dimensions_eq : rewrites.dimensions = dimensions
  total_eq : rewrites.total = volume dimensions
  nextIndex_eq : rewrites.nextIndex = min index (volume dimensions)
  odometer_eq : index < volume dimensions → rewrites.odometer = digits dimensions index

section Runs

variable {sql : String} {dimensions : List TableShards} {index : Nat} {rewrites : Rewrites}

theorem stands_ofPlan (sql : String) {plan : List TableShards}
    (fits : volume (sharded plan) < 2 ^ 64) :
    Stands sql (sharded plan) 0 (ofPlan sql plan) where
  sql_eq := rfl
  dimensions_eq := rfl
  total_eq := by
    have all := combinations_eq (suffixes_ne_nil plan)
    have below : volume (sharded plan) ≤ maxUInt64 := by
      simp only [maxUInt64]
      omega
    rw [Nat.min_eq_left below] at all
    exact all
  nextIndex_eq := (Nat.zero_min _).symm
  odometer_eq _ := digits_zero.symm

/-- Where statements are left, the next one is the one with the number. -/
theorem Stands.next (stands : Stands sql dimensions index rewrites)
    (nonempty : ∀ shards ∈ dimensions, shards.suffixes ≠ []) (more : index < volume dimensions) :
    ∃ rest, rewrites.next? = some (statementAt sql dimensions index, rest) ∧
      Stands sql dimensions (index + 1) rest := by
  obtain ⟨rfl, rfl, total, count, odometer⟩ := stands
  have here : rewrites.nextIndex = index := by omega
  have shown : rewrites.names =
      namesAt rewrites.dimensions (digits rewrites.dimensions index) := by
    rw [names, odometer more, namesAt]
  let rest : Rewrites := { rewrites with
    odometer := (turn rewrites.dimensions rewrites.odometer).1
    nextIndex := rewrites.nextIndex + 1 }
  have counted : rest.nextIndex = min (index + 1) (volume rewrites.dimensions) := by
    show rewrites.nextIndex + 1 = _
    omega
  have turned (next_more : index + 1 < volume rewrites.dimensions) :
      rest.odometer = digits rewrites.dimensions (index + 1) := by
    show (turn rewrites.dimensions rewrites.odometer).1 = _
    rw [odometer more, turn_digits nonempty more, if_pos next_more]
  have answered : rewrites.next? =
      some (statementAt rewrites.sql rewrites.dimensions index, rest) := by
    have left : index < rewrites.total := by omega
    simp only [next?, shown, textFor_eq, here, if_pos left, statementAt, rest]
  exact ⟨rest, answered, ⟨rfl, rfl, total, counted, turned⟩⟩

theorem Stands.next_none (stands : Stands sql dimensions index rewrites)
    (exhausted : volume dimensions ≤ index) : rewrites.next? = none := by
  obtain ⟨_, _, total, count, _⟩ := stands
  rw [next?, if_neg (by omega)]

theorem Stands.later {other : Nat} (stands : Stands sql dimensions index rewrites)
    (exhausted : volume dimensions ≤ index) (behind : volume dimensions ≤ other) :
    Stands sql dimensions other rewrites := by
  obtain ⟨sql_eq, dimensions_eq, total, count, _⟩ := stands
  exact ⟨sql_eq, dimensions_eq, total, by omega, fun more => by omega⟩

theorem Stands.skip (stands : Stands sql dimensions index rewrites)
    (nonempty : ∀ shards ∈ dimensions, shards.suffixes ≠ []) (count : Nat) :
    Stands sql dimensions (index + count) (rewrites.skip count) := by
  induction count generalizing index rewrites with
  | zero => exact stands
  | succ count ih =>
      rw [Rewrites.skip]
      by_cases more : index < volume dimensions
      · obtain ⟨rest, next, stands_rest⟩ := stands.next nonempty more
        rw [next, show index + (count + 1) = index + 1 + count by omega]
        exact ih stands_rest
      · rw [stands.next_none (by omega)]
        exact stands.later (by omega) (by omega)

/-- A call answers the statement behind those it passes over. -/
theorem Stands.answer (stands : Stands sql dimensions index rewrites)
    (nonempty : ∀ shards ∈ dimensions, shards.suffixes ≠ []) (call : Call) :
    rewrites.answer call = if index + call.skipped < volume dimensions then
      some (statementAt sql dimensions (index + call.skipped)) else none := by
  have skipped := stands.skip nonempty call.skipped
  rw [Rewrites.answer]
  split
  next more =>
    obtain ⟨rest, next, _⟩ := skipped.next nonempty more
    rw [next, Option.map_some]
  next exhausted => rw [skipped.next_none (by omega), Option.map_none]

theorem Stands.behind (stands : Stands sql dimensions index rewrites)
    (nonempty : ∀ shards ∈ dimensions, shards.suffixes ≠ []) (call : Call) :
    Stands sql dimensions (index + (call.skipped + 1)) (rewrites.behind call) := by
  have skipped := stands.skip nonempty call.skipped
  rw [Rewrites.behind]
  by_cases more : index + call.skipped < volume dimensions
  · obtain ⟨rest, next, stands_rest⟩ := skipped.next nonempty more
    rw [next]
    exact stands_rest
  · rw [skipped.next_none (by omega)]
    exact skipped.later (by omega) (by omega)

theorem Stands.after (stands : Stands sql dimensions index rewrites)
    (nonempty : ∀ shards ∈ dimensions, shards.suffixes ≠ []) (calls : List Call) :
    Stands sql dimensions (index + Call.passed calls) (rewrites.after calls) := by
  induction calls generalizing index rewrites with
  | nil => exact stands
  | cons call calls ih =>
      have step := ih (stands.behind nonempty call)
      rwa [Nat.add_assoc] at step

theorem Stands.left (stands : Stands sql dimensions index rewrites) :
    rewrites.left = volume dimensions - index := by
  obtain ⟨_, _, total, count, _⟩ := stands
  rw [Rewrites.left, total, count]
  omega

end Runs

theorem toList_ofPlan_of_unsharded (sql : String) {plan : List TableShards}
    (unsharded : ∀ shards ∈ plan, shards.suffixes = []) :
    (ofPlan sql plan).toList = [⟨sql, 0, []⟩] := by
  have empty : sharded plan = [] := by
    apply List.filter_eq_nil_iff.mpr
    intro shards member
    simp [unsharded shards member]
  have start : ofPlan sql plan = ⟨sql, [], [], 0, 1⟩ := by
    show (⟨sql, sharded plan, (sharded plan).map fun _ => 0, 0, combinations (sharded plan)⟩ :
      Rewrites) = _
    rw [empty]
    rfl
  rw [start]
  rfl

/-- Rewrites count through the combinations of suffixes: in lexicographic order, each under one
number, whatever calls are made; the number left is what no call has passed, and behind the last
statement there is never another. -/
theorem calls_enumerate_product (sql : String) (plan : List TableShards)
    (fits : volume (sharded plan) < 2 ^ 64) :
    (∀ i j, i < j → j < volume (sharded plan) →
        digits (sharded plan) i < digits (sharded plan) j) ∧
      (∀ index < volume (sharded plan),
        Points (sharded plan) (digits (sharded plan) index)) ∧
      (∀ positions, Points (sharded plan) positions →
        ∃! index, index < volume (sharded plan) ∧ digits (sharded plan) index = positions) ∧
      (∀ calls, ((ofPlan sql plan).after calls).left =
        volume (sharded plan) - Call.passed calls) ∧
      (∀ calls call, ((ofPlan sql plan).after calls).answer call =
        if Call.passed calls + call.skipped < volume (sharded plan) then
          some (statementAt sql (sharded plan) (Call.passed calls + call.skipped))
        else none) ∧
      (∀ calls call more later, ((ofPlan sql plan).after calls).answer call = none →
        ((ofPlan sql plan).after (calls ++ call :: more)).answer later = none) ∧
      ((∀ shards ∈ plan, shards.suffixes = []) → (ofPlan sql plan).toList = [⟨sql, 0, []⟩]) := by
  have nonempty := suffixes_ne_nil plan
  have answers (calls : List Call) (call : Call) :
      ((ofPlan sql plan).after calls).answer call =
        if Call.passed calls + call.skipped < volume (sharded plan) then
          some (statementAt sql (sharded plan) (Call.passed calls + call.skipped))
        else none := by
    have stands := (stands_ofPlan sql fits).after nonempty calls
    rw [Nat.zero_add] at stands
    exact stands.answer nonempty call
  refine ⟨fun i j less below => digits_lt nonempty less below,
    fun index below => points_digits nonempty below, ?_, ?_, answers, ?_, ?_⟩
  · intro positions points
    obtain ⟨index, below, same⟩ := exists_digits nonempty points
    refine ⟨index, ⟨below, same⟩, ?_⟩
    rintro other ⟨other_below, other_same⟩
    exact digits_inj nonempty other_below below (other_same.trans same.symm)
  · intro calls
    have stands := (stands_ofPlan sql fits).after nonempty calls
    rw [stands.left, Nat.zero_add]
  · intro calls call more later nothing
    rw [answers] at nothing ⊢
    have exhausted : ¬ Call.passed calls + call.skipped < volume (sharded plan) := by
      intro left
      rw [if_pos left] at nothing
      cases nothing
    rw [if_neg]
    simp only [Call.passed, List.map_append, List.map_cons, List.sum_append, List.sum_cons] at *
    omega
  · exact toList_ofPlan_of_unsharded sql

theorem calls_enumerate_join :
    ((ofPlan "SELECT * FROM a JOIN b" [⟨"a", ["0", "1"]⟩, ⟨"b", ["x", "y", "z"]⟩, ⟨"c", []⟩]).after
        [.next, .nth 1]).answer (.nth 1) =
      some ⟨"SELECT * FROM a_1 JOIN b_y", 4, [("a", "a_1"), ("b", "b_y")]⟩ := by
  obtain ⟨_, _, _, _, answers, _, _⟩ := calls_enumerate_product "SELECT * FROM a JOIN b"
    [⟨"a", ["0", "1"]⟩, ⟨"b", ["x", "y", "z"]⟩, ⟨"c", []⟩] (by decide)
  rw [answers]
  with_unfolding_all rfl

end Rewrites

end ShardedSql
