import ShardedSql.Proofs.Outcome
import ShardedSql.StatementCache

/-!
What a cache of statements adds to reading them. Calls come in any order, and between any two of them
the cache may give up any text. Main statement: each call answers what reading its text afresh does,
the cache holds only texts that can be read with what they say, and a text that can be read is read
once, and once more for each time it was given up.
-/

namespace ShardedSql

open Sql

/-- What is asked of a cache. -/
inductive CacheCall where
  | read (sql : String)
  | prepare (text : String)

/-- A call, or a text given up. -/
inductive CacheEvent where
  | call (call : CacheCall)
  | drop (sql : String)

/-- The text that a call looks up: statements are kept without their head comments. -/
def CacheCall.key : CacheCall → String
  | .read sql => sql
  | .prepare text => (HeadComment.split text).2

namespace StatementCache

def after (cache : StatementCache) : CacheEvent → StatementCache
  | .call (.read sql) => (cache.getOrParse sql).2
  | .call (.prepare text) => (cache.prepare text).2
  | .drop sql => cache.forget sql

def afterAll (cache : StatementCache) (events : List CacheEvent) : StatementCache :=
  events.foldl after cache

/-- Reads a text and writes down that it was read. -/
def noted (text : String) : StateM (List String) (Except ParseError Statement) := do
  modify (· ++ [text])
  return Statement.parse text

/-- The texts that an event has read. -/
def readings (cache : StatementCache) : CacheEvent → List String
  | .call call => ((cache.getOrParseWith noted call.key).run []).2
  | .drop _ => []

def allReadings (cache : StatementCache) : List CacheEvent → List String
  | [] => []
  | event :: rest => cache.readings event ++ (cache.after event).allReadings rest

/-- Whether a text that was known, or has just been read, is unknown after an event. -/
def givesUp (cache : StatementCache) (sql : String) (event : CacheEvent) : Bool :=
  (cache.contains sql || (cache.readings event).contains sql) && !(cache.after event).contains sql

/-- How often a text is given up. -/
def losses (cache : StatementCache) (sql : String) : List CacheEvent → Nat
  | [] => 0
  | event :: rest => (cache.givesUp sql event).toNat + (cache.after event).losses sql rest

/-- Each text that is kept says what it is kept with. -/
def Faithful (cache : StatementCache) : Prop :=
  ∀ sql statement, (sql, statement) ∈ cache.entries → Statement.parse sql = .ok statement

section Calls

variable {cache : StatementCache} {sql : String}

theorem parse_of_find? {statement : Statement} (faithful : cache.Faithful)
    (known : cache.find? sql = some statement) : Statement.parse sql = .ok statement := by
  obtain ⟨⟨key, kept⟩, found, rfl⟩ := Option.map_eq_some_iff.mp known
  obtain rfl : key = sql := by simpa using List.find?_some found
  exact faithful key kept (List.mem_of_find?_eq_some found)

theorem getOrParse_of_known {statement : Statement} (known : cache.find? sql = some statement) :
    cache.getOrParse sql = (.ok statement, cache) := by
  rw [getOrParse, getOrParseWith, known]
  rfl

theorem getOrParse_of_unknown (unknown : cache.find? sql = none) :
    cache.getOrParse sql =
      match Statement.parse sql with
      | .ok statement => (.ok statement, cache.insert sql statement)
      | .error cause => (.error (.ofParse cause), cache) := by
  rw [getOrParse, getOrParseWith, unknown]
  cases Statement.parse sql <;> rfl

/-- To write readings down changes neither the answer nor the cache, and a text is read if it is
not known. -/
theorem run_noted (log : List String) :
    (cache.getOrParseWith noted sql).run log =
      (cache.getOrParse sql, log ++ if cache.contains sql then [] else [sql]) := by
  cases known : cache.find? sql with
  | some statement =>
      rw [getOrParse_of_known known, contains, known, getOrParseWith, known]
      simp
      rfl
  | none =>
      rw [getOrParse_of_unknown known, contains, known, getOrParseWith, known]
      cases parsed : Statement.parse sql
      all_goals
        simp [noted, parsed]
        rfl

theorem getOrParse_eq (faithful : cache.Faithful) (sql : String) :
    (cache.getOrParse sql).1 = (Statement.parse sql).mapError .ofParse := by
  cases known : cache.find? sql with
  | some statement =>
      rw [getOrParse_of_known known, parse_of_find? faithful known]
      rfl
  | none =>
      rw [getOrParse_of_unknown known]
      cases Statement.parse sql <;> rfl

theorem prepare_eq (faithful : cache.Faithful) (text : String) :
    (cache.prepare text).1 = PreparedStatement.ofText text := by
  have answer := getOrParse_eq faithful (HeadComment.split text).2
  rw [prepare, PreparedStatement.ofText]
  simp only [answer]
  cases Statement.parse (HeadComment.split text).2 <;> rfl

theorem after_call (call : CacheCall) :
    cache.after (.call call) = (cache.getOrParse call.key).2 := by
  cases call <;> rfl

/-! ## What a step keeps -/

theorem mem_insert {key : String} {statement kept : Statement}
    (member : (key, kept) ∈ (cache.insert sql statement).entries) :
    (key, kept) = (sql, statement) ∨ (key, kept) ∈ cache.entries :=
  List.mem_cons.mp (List.mem_of_mem_take member)

theorem Faithful.after (faithful : cache.Faithful) (event : CacheEvent) :
    (cache.after event).Faithful := by
  cases event with
  | drop sql => exact fun key kept member => faithful key kept (List.mem_of_mem_filter member)
  | call call =>
      rw [after_call]
      cases known : cache.find? call.key with
      | some statement =>
          rw [getOrParse_of_known known]
          exact faithful
      | none =>
          rw [getOrParse_of_unknown known]
          cases parsed : Statement.parse call.key with
          | error => exact faithful
          | ok statement =>
              intro key kept member
              rcases mem_insert member with same | old
              · cases same
                exact parsed
              · exact faithful key kept old

theorem Faithful.afterAll (faithful : cache.Faithful) (events : List CacheEvent) :
    (cache.afterAll events).Faithful := by
  induction events generalizing cache with
  | nil => exact faithful
  | cons event rest ih => exact ih (faithful.after event)

theorem faithful_ofCapacity (capacity : Nat) : (ofCapacity capacity).Faithful :=
  fun _ _ member => absurd member List.not_mem_nil

theorem contains_iff : cache.contains sql = true ↔ ∃ statement, (sql, statement) ∈ cache.entries := by
  rw [contains, find?, Option.isSome_map, List.find?_isSome]
  constructor
  · rintro ⟨⟨key, statement⟩, member, same⟩
    obtain rfl : key = sql := by simpa using same
    exact ⟨statement, member⟩
  · rintro ⟨statement, member⟩
    exact ⟨(sql, statement), member, by simp⟩

/-! ## How often a text is read -/

theorem readings_call (call : CacheCall) :
    cache.readings (.call call) = if cache.contains call.key then [] else [call.key] := by
  rw [readings, run_noted, List.nil_append]

/-- An event reads a text once at most. -/
theorem count_readings_le (cache : StatementCache) (sql : String) (event : CacheEvent) :
    (cache.readings event).count sql ≤ ((cache.readings event).contains sql).toNat := by
  cases event with
  | drop => exact Nat.zero_le _
  | call call =>
      rw [readings_call]
      split
      · exact Nat.zero_le _
      · by_cases same : call.key = sql <;> simp [same]

/-- What is known is not read. -/
theorem count_readings_of_contains (known : cache.contains sql = true) (event : CacheEvent) :
    (cache.readings event).count sql = 0 := by
  cases event with
  | drop => rfl
  | call call =>
      rw [readings_call]
      split
      case isTrue => rfl
      case isFalse unknown =>
        refine List.count_eq_zero.mpr fun member => unknown ?_
        rwa [← List.mem_singleton.mp member]

/-- A text is read once, and once more each time it is given up. -/
theorem count_allReadings (cache : StatementCache) (sql : String) (events : List CacheEvent) :
    (cache.allReadings events).count sql + (cache.contains sql).toNat ≤
      cache.losses sql events + 1 := by
  induction events generalizing cache with
  | nil =>
      rw [allReadings, List.count_nil, Nat.zero_add]
      exact Nat.le_trans (Bool.toNat_le _) (Nat.le_add_left ..)
  | cons event rest ih =>
      have later := ih (cache.after event)
      have now := count_readings_le cache sql event
      rw [allReadings, losses, givesUp, List.count_append]
      cases before : cache.contains sql with
      | true =>
          rw [count_readings_of_contains before]
          cases kept : (cache.after event).contains sql
          all_goals
            simp only [kept, Bool.toNat_true, Bool.toNat_false, Bool.true_or, Bool.not_true,
              Bool.not_false, Bool.and_true, Bool.and_false] at later ⊢
            omega
      | false =>
          have once := Bool.toNat_le ((cache.readings event).contains sql)
          cases kept : (cache.after event).contains sql
          all_goals
            simp only [kept, Bool.toNat_true, Bool.toNat_false, Bool.false_or, Bool.not_true,
              Bool.not_false, Bool.and_true, Bool.and_false] at later ⊢
            omega

/-- A cache with room adds what it reads, and keeps all else. -/
theorem entries_after_call (room : cache.size < cache.capacity) (call : CacheCall) :
    (cache.after (.call call)).capacity = cache.capacity ∧
      ((cache.after (.call call)).entries = cache.entries ∧
          (cache.contains call.key = false → ∃ cause, Statement.parse call.key = .error cause) ∨
        ∃ statement, (cache.after (.call call)).entries = (call.key, statement) :: cache.entries) := by
  rw [after_call]
  cases known : cache.find? call.key with
  | some statement =>
      rw [getOrParse_of_known known, contains, known]
      exact ⟨rfl, .inl ⟨rfl, nofun⟩⟩
  | none =>
      rw [getOrParse_of_unknown known]
      cases parsed : Statement.parse call.key with
      | error cause => exact ⟨rfl, .inl ⟨rfl, fun _ => ⟨cause, rfl⟩⟩⟩
      | ok statement => exact ⟨rfl, .inr ⟨statement, List.take_of_length_le room⟩⟩

theorem contains_after_call {statement : Statement} (room : cache.size < cache.capacity)
    (readable : Statement.parse sql = .ok statement) {call : CacheCall}
    (asked : cache.contains sql = true ∨ call.key = sql) :
    (cache.after (.call call)).contains sql = true := by
  obtain ⟨_, ⟨same, turned_away⟩ | ⟨kept, more⟩⟩ := entries_after_call room call
  · have known : cache.contains sql = true := by
      rcases asked with known | rfl
      · exact known
      · by_contra unknown
        obtain ⟨cause, failed⟩ := turned_away (Bool.eq_false_iff.mpr unknown)
        cases failed.symm.trans readable
    rw [contains_iff, same]
    exact contains_iff.mp known
  · rw [contains_iff, more]
    rcases asked with known | rfl
    · obtain ⟨old, member⟩ := contains_iff.mp known
      exact ⟨old, List.mem_cons_of_mem _ member⟩
    · exact ⟨kept, List.mem_cons_self⟩

/-- With room for every call, nothing is given up that can be read. -/
theorem losses_of_room {statement : Statement} (readable : Statement.parse sql = .ok statement)
    {calls : List CacheCall} (room : cache.size + calls.length ≤ cache.capacity) :
    cache.losses sql (calls.map .call) = 0 := by
  induction calls generalizing cache with
  | nil => rfl
  | cons call rest ih =>
      rw [List.length_cons] at room
      have space : cache.size < cache.capacity := by omega
      have kept : cache.givesUp sql (.call call) = false := by
        rw [givesUp, Bool.and_eq_false_imp]
        intro asked
        rw [contains_after_call space readable, Bool.not_true]
        refine (Bool.or_eq_true_iff.mp asked).imp_right fun read => ?_
        rw [readings_call] at read
        split at read
        · simp at read
        · exact (List.mem_singleton.mp (List.contains_iff_mem.mp read)).symm
      have later : (cache.after (.call call)).size + rest.length ≤
          (cache.after (.call call)).capacity := by
        obtain ⟨capacity, entries⟩ := entries_after_call space call
        rw [capacity, size]
        rcases entries with ⟨same, _⟩ | ⟨_, more⟩
        · rw [same, ← size]
          omega
        · rw [more, List.length_cons, ← size]
          omega
      rw [List.map_cons, losses, kept, ih later, Bool.toNat_false]

end Calls

theorem cache_transparent (capacity : Nat) (events : List CacheEvent) :
    (∀ sql, (((ofCapacity capacity).afterAll events).getOrParse sql).1 =
        (Statement.parse sql).mapError .ofParse) ∧
      (∀ text, (((ofCapacity capacity).afterAll events).prepare text).1 =
        PreparedStatement.ofText text) ∧
      (∀ sql statement, (sql, statement) ∈ ((ofCapacity capacity).afterAll events).entries →
        Statement.parse sql = .ok statement) ∧
      (∀ sql cause, Statement.parse sql = .error cause →
        ((ofCapacity capacity).afterAll events).contains sql = false) ∧
      (∀ sql, ((ofCapacity capacity).allReadings events).count sql ≤
        (ofCapacity capacity).losses sql events + 1) ∧
      ∀ calls : List CacheCall, events = calls.map .call → calls.length ≤ capacity →
        ∀ sql statement, Statement.parse sql = .ok statement →
          ((ofCapacity capacity).allReadings events).count sql ≤ 1 := by
  have faithful := (faithful_ofCapacity capacity).afterAll events
  have bound (sql : String) := count_allReadings (ofCapacity capacity) sql events
  refine ⟨getOrParse_eq faithful, prepare_eq faithful, faithful, ?_, fun sql => ?_, ?_⟩
  · intro sql cause turned_away
    rw [Bool.eq_false_iff]
    intro known
    obtain ⟨statement, member⟩ := contains_iff.mp known
    exact nomatch turned_away.symm.trans (faithful sql statement member)
  · exact Nat.le_trans (Nat.le_add_right ..) (bound sql)
  · rintro calls rfl room sql statement readable
    have nothing_lost : (ofCapacity capacity).losses sql (calls.map .call) = 0 :=
      losses_of_room readable (by simpa [ofCapacity, size] using room)
    have once := bound sql
    rw [nothing_lost] at once
    omega

end StatementCache

end ShardedSql
