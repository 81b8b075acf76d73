import ShardedSql.Prepared

/-!
A cache of statements by their texts. Only texts that can be read are kept, so a text that was
turned away is read again the next time.
-/

namespace ShardedSql

open Sql

structure StatementCache where
  /-- The number of statements that are kept at most. -/
  capacity : Nat
  /-- Texts with what they say, the latest first. -/
  entries : List (String × Statement)

namespace StatementCache

def ofCapacity (capacity : Nat) : StatementCache :=
  ⟨capacity, []⟩

def size (cache : StatementCache) : Nat :=
  cache.entries.length

def find? (cache : StatementCache) (sql : String) : Option Statement :=
  (cache.entries.find? (·.1 == sql)).map (·.2)

def contains (cache : StatementCache) (sql : String) : Bool :=
  (cache.find? sql).isSome

/-- Keeps a statement; a full cache gives up its oldest one. -/
def insert (cache : StatementCache) (sql : String) (statement : Statement) : StatementCache :=
  { cache with entries := ((sql, statement) :: cache.entries).take cache.capacity }

/-- Gives up a text, as a cache may at any time. -/
def forget (cache : StatementCache) (sql : String) : StatementCache :=
  { cache with entries := cache.entries.filter (·.1 != sql) }

/-- What a text says. It is read with `parse` unless the cache knows it. -/
def getOrParseWith [Monad m] (cache : StatementCache)
    (parse : String → m (Except ParseError Statement)) (sql : String) :
    m (Except ShardError Statement × StatementCache) :=
  match cache.find? sql with
  | some statement => return (.ok statement, cache)
  | none => do
      match ← parse sql with
      | .ok statement => return (.ok statement, cache.insert sql statement)
      -- What was turned away is not kept.
      | .error cause => return (.error (.ofParse cause), cache)

def getOrParse (cache : StatementCache) (sql : String) :
    Except ShardError Statement × StatementCache :=
  Id.run (cache.getOrParseWith (fun text => pure (Statement.parse text)) sql)

/-- Splits off the head comment and reads the rest. -/
def prepare (cache : StatementCache) (text : String) :
    Except ShardError PreparedStatement × StatementCache :=
  let (head, body) := HeadComment.split text
  let (statement, cache) := cache.getOrParse body
  (statement.map fun s => ⟨head, body, s⟩, cache)

end StatementCache

end ShardedSql
