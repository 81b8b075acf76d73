import Mathlib.Data.List.Forall2
import ShardedSql.Proofs.RenamedText
import ShardedSql.Proofs.Suffixes
import ShardedSql.Rewrite

/-!
The statements a rewrite produces, one after the other. The odometer points at a suffix of each
table all along. Main statements: each statement renames tables of the prepared one to shards that
their routers found, and its text is the prepared text with these tables renamed.
-/

namespace ShardedSql

open Sql Text

namespace Segment

theorem renameText_nothing (afterPoint : Bool) (chars : List Char) :
    renameText [] afterPoint chars = chars := by
  induction chars using words_induction generalizing afterPoint with
  | nil => rw [renameText]
  | other c rest other ih => rw [renameText_other _ _ _ other, ih]
  | word v others nonempty inside stop ih =>
      rw [renameText_word _ _ nonempty inside stop, ih]
      simp [renamedWord, renamed]

theorem renameWords_nothing (sql : String) : renameWords [] sql = sql := by
  have each : rename [] = Segment.text := by
    funext segment
    unfold rename
    split <;> simp only [renameText_nothing]
  rw [renameWords, each, List.flatMap_def, flatten_segments, String.ofList_toList]

end Segment

namespace Rewrites

/-- Each position is one of a suffix. -/
def Points : List TableShards → List Nat → Prop :=
  List.Forall₂ fun shards position => position < shards.suffixes.length

theorem points_start {dimensions : List TableShards}
    (nonempty : ∀ shards ∈ dimensions, shards.suffixes ≠ []) :
    Points dimensions (dimensions.map fun _ => 0) := by
  induction dimensions with
  | nil => exact .nil
  | cons shards rest ih =>
      refine .cons (List.length_pos_of_ne_nil (nonempty shards (List.mem_cons_self ..))) ?_
      exact ih fun other member => nonempty other (List.mem_cons_of_mem _ member)

theorem points_turn {dimensions : List TableShards} {odometer : List Nat}
    (points : Points dimensions odometer) : Points dimensions (turn dimensions odometer).1 := by
  induction points with
  | nil => exact .nil
  | @cons shards position rest odometer here _ ih =>
      rw [turn]
      split
      · next turned same =>
          rw [same] at ih
          exact .cons here ih
      · next turned same =>
          rw [same] at ih
          -- The dimensions behind have come round: this one moves on, or comes round itself.
          split
          · next more => exact .cons more ih
          · exact .cons (by omega) ih

/-- The odometer points at suffixes, each of which has the property for its table. -/
structure Sound (p : String → String → Prop) (rewrites : Rewrites) : Prop where
  points : Points rewrites.dimensions rewrites.odometer
  suffixes : ∀ shards ∈ rewrites.dimensions, ∀ suffix ∈ shards.suffixes, p shards.table suffix

variable {p : String → String → Prop}

theorem Sound.mem_names {rewrites : Rewrites} (sound : rewrites.Sound p)
    {entry : String × String} (member : entry ∈ rewrites.names) :
    ∃ suffix, p entry.1 suffix ∧ entry.2 = physicalName entry.1 suffix := by
  obtain ⟨points, suffixes⟩ := sound
  rw [names] at member
  generalize rewrites.dimensions = dimensions at points suffixes member
  generalize rewrites.odometer = odometer at points member
  induction points with
  | nil => cases member
  | @cons shards position rest odometer here _ ih =>
      rw [List.zipWith_cons_cons] at member
      rcases List.mem_cons.mp member with rfl | later
      · refine ⟨_, suffixes shards (List.mem_cons_self ..) _ ?_, rfl⟩
        rw [List.getElem?_eq_getElem here, Option.getD_some]
        exact List.getElem_mem here
      · exact ih (fun other inside => suffixes other (List.mem_cons_of_mem _ inside)) later

/-- The next statement renames tables by the odometer, and the rewrites behind it are sound. -/
theorem Sound.next {rewrites rest : Rewrites} {s : ShardStatement} (sound : rewrites.Sound p)
    (next : rewrites.next? = some (s, rest)) :
    (s.sql = rewrites.textFor s.tables ∧ s.tables = rewrites.names) ∧
      rest.sql = rewrites.sql ∧ rest.Sound p := by
  unfold next? at next
  split at next
  · cases next
    exact ⟨⟨rfl, rfl⟩, rfl, points_turn sound.points, sound.suffixes⟩
  · cases next

end Rewrites

/-- The tables a statement renames, as the renamer takes them. -/
def ShardStatement.renamings (s : ShardStatement) : List Renaming :=
  s.tables.map fun entry => ⟨entry.1, entry.2⟩

namespace Rewrites

theorem textFor_eq {rewrites : Rewrites} {names : List (String × String)} :
    rewrites.textFor names =
      renameWords (names.map fun entry => ⟨entry.1, entry.2⟩) rewrites.sql := by
  unfold textFor
  split
  · next empty =>
      rw [List.isEmpty_iff] at empty
      rw [empty, List.map_nil, Segment.renameWords_nothing]
  · rfl

variable {p : String → String → Prop}

/-- Each statement still to come renames the text, and tables to suffixes they have. -/
theorem Sound.mem_take {rewrites : Rewrites} (sound : rewrites.Sound p) {count : Nat}
    {s : ShardStatement} (member : s ∈ rewrites.take count) :
    s.sql = renameWords s.renamings rewrites.sql ∧
      ∀ entry ∈ s.tables, ∃ suffix, p entry.1 suffix ∧ entry.2 = physicalName entry.1 suffix := by
  induction count generalizing rewrites with
  | zero => cases member
  | succ count ih =>
      rw [take] at member
      split at member
      · next first rest next =>
          obtain ⟨⟨text, tables⟩, same, rest_sound⟩ := sound.next next
          rcases List.mem_cons.mp member with rfl | later
          · constructor
            · rw [text, textFor_eq]
              rfl
            · intro entry inside
              rw [tables] at inside
              exact sound.mem_names inside
          · rw [← same]
            exact ih rest_sound later
      · cases member

theorem sound_ofPlan {sql : String} {plan : List TableShards}
    (suffixes : ∀ shards ∈ plan, ∀ suffix ∈ shards.suffixes, p shards.table suffix) :
    (ofPlan sql plan).Sound p where
  points := points_start fun shards member => by
    have kept := (List.mem_filter.mp member).2
    simpa using kept
  suffixes shards member := suffixes shards (List.mem_filter.mp member).1

end Rewrites

theorem NameSet.isEmpty_iff {set : NameSet} : set.isEmpty = true ↔ set = ∅ := by
  constructor
  · intro empty
    apply NameSet.ext
    intro name
    rw [NameSet.mem_def, List.isEmpty_iff.mp empty]
    rfl
  · rintro rfl
    rfl

namespace RouterTable

/-- Every router shares rows out by remainders or months. -/
def Counts (table : RouterTable) : Prop :=
  ∀ router ∈ table.routers, router.strategy.Counts

end RouterTable

namespace Rewriter

variable {rewriter : Rewriter} {bindings : Bindings} {prepared : PreparedStatement}

/-- The shards that a table of a statement is routed to; a table without a router has none. -/
def route (rewriter : Rewriter) (bindings : Bindings) (prepared : PreparedStatement)
    (table : String) : Except ShardError NameSet :=
  match rewriter.routers.get? table with
  | some router => router.subTables bindings prepared
  | none => .ok ∅

/-- What the shards of a target may not be: several of them, or none where there has to be one. -/
def Refuses (rewriter : Rewriter) (suffixes : NameSet) : Prop :=
  1 < suffixes.size ∨ suffixes = ∅ ∧ rewriter.mandatory = true

theorem planTable_eq_ok_iff {table : String} {shards : TableShards} :
    rewriter.planTable bindings prepared table = .ok shards ↔
      ∃ suffixes, rewriter.route bindings prepared table = .ok suffixes ∧
        (insertTarget? prepared.statement = some table → ¬ rewriter.Refuses suffixes) ∧
        shards = ⟨table, suffixes.toList⟩ := by
  have routed : rewriter.planTable bindings prepared table = (do
      let suffixes ← rewriter.route bindings prepared table
      if insertTarget? prepared.statement = some table then
        if 1 < suffixes.size then
          throw (.crossShardInsert table suffixes.size)
        if suffixes.isEmpty && rewriter.mandatory then
          throw (.missingRouteTarget table)
      return ⟨table, suffixes.toList⟩) := by
    unfold planTable route
    cases rewriter.routers.get? table <;> rfl
  rw [routed, bind_eq_ok]
  refine exists_congr fun suffixes => and_congr_right fun _ => ?_
  by_cases target : insertTarget? prepared.statement = some table
  · rw [if_pos target]
    by_cases several : 1 < suffixes.size
    · rw [if_pos several]
      simp [Refuses, several, target, throw, throwThe, MonadExceptOf.throw, bind, Except.bind]
    · by_cases missing : (suffixes.isEmpty && rewriter.mandatory) = true
      · rw [if_neg several, if_pos missing]
        rw [Bool.and_eq_true, NameSet.isEmpty_iff] at missing
        simp [Refuses, missing, target, throw, throwThe, MonadExceptOf.throw, bind, Except.bind]
      · have accepted : ¬ rewriter.Refuses suffixes := by
          simpa only [Refuses, several, false_or, Bool.and_eq_true, NameSet.isEmpty_iff]
            using missing
        rw [if_neg several, if_neg missing]
        simp [accepted, pure, Except.pure, eq_comm]
  · rw [if_neg target]
    simp [target, pure, Except.pure, eq_comm]

/-- A planned table keeps its name and has the suffixes its router found. -/
theorem planTable_eq_ok {table : String} {shards : TableShards}
    (planned : rewriter.planTable bindings prepared table = .ok shards) :
    shards.table = table ∧
      ((rewriter.routers.get? table = none ∧ shards.suffixes = []) ∨
        ∃ router suffixes, rewriter.routers.get? table = some router ∧
          router.subTables bindings prepared = .ok suffixes ∧
          shards.suffixes = suffixes.toList) := by
  -- Whatever is checked of an insert, the suffixes pass on as they are.
  obtain ⟨suffixes, routed, _, rfl⟩ := planTable_eq_ok_iff.mp planned
  refine ⟨rfl, ?_⟩
  unfold route at routed
  cases known : rewriter.routers.get? table with
  | none =>
      rw [known] at routed
      cases routed
      exact .inl ⟨rfl, rfl⟩
  | some router =>
      rw [known] at routed
      exact .inr ⟨router, suffixes, rfl, routed, rfl⟩

/-- The router of a table of the statement finds the suffix. -/
def Finds (rewriter : Rewriter) (bindings : Bindings) (prepared : PreparedStatement)
    (table suffix : String) : Prop :=
  table ∈ prepared.tableNames ∧ ∃ router suffixes, rewriter.routers.get? table = some router ∧
    router.subTables bindings prepared = .ok suffixes ∧ suffix ∈ suffixes

/-- What each statement of a rewrite is: the text with tables renamed, and each of these a table of
the statement that gets a suffix its router found. -/
theorem found_of_mem_rewrite {rewrites : Rewrites}
    (rewritten : rewriter.rewrite bindings prepared = .ok rewrites) {s : ShardStatement}
    (member : s ∈ rewrites.toList) :
    s.sql = renameWords s.renamings prepared.sql ∧
      ∀ entry ∈ s.tables, ∃ suffix, rewriter.Finds bindings prepared entry.1 suffix ∧
        entry.2 = physicalName entry.1 suffix := by
  obtain ⟨plan, planned, same⟩ := bind_eq_ok.mp rewritten
  cases same
  have sound : (Rewrites.ofPlan prepared.sql plan).Sound (rewriter.Finds bindings prepared) := by
    apply Rewrites.sound_ofPlan
    intro shards inside suffix found
    obtain ⟨table, listed, here⟩ := exists_of_mem_mapM planned inside
    obtain ⟨rfl, ⟨_, none⟩ | ⟨router, suffixes, known, routed, same⟩⟩ := planTable_eq_ok here
    · rw [none] at found
      cases found
    · rw [same] at found
      exact ⟨listed, router, suffixes, known, routed, found⟩
  exact sound.mem_take member

/-- Where shards have numbers, each renamed table gets one. -/
theorem mem_rewrite (counts : rewriter.routers.Counts) {rewrites : Rewrites}
    (rewritten : rewriter.rewrite bindings prepared = .ok rewrites) {s : ShardStatement}
    (member : s ∈ rewrites.toList) :
    s.sql = renameWords s.renamings prepared.sql ∧
      ∀ entry ∈ s.tables, ∃ suffix, (entry.1 ∈ prepared.tableNames ∧ IsNumeric suffix) ∧
        entry.2 = physicalName entry.1 suffix := by
  obtain ⟨text, tables⟩ := found_of_mem_rewrite rewritten member
  refine ⟨text, fun entry inside => ?_⟩
  obtain ⟨suffix, ⟨listed, router, suffixes, known, routed, found⟩, renamed⟩ := tables entry inside
  have shared_out := counts router (List.mem_of_find?_eq_some known)
  exact ⟨suffix, ⟨listed, Router.isNumeric_of_mem_subTables shared_out routed found⟩, renamed⟩

end Rewriter

end ShardedSql
