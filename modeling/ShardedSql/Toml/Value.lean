/-!
Documents in TOML: values, and tables of values that remember how they came to be, since that
decides what may still be added to them. Main statement: a key that was set is found.
-/

namespace ShardedSql.Toml

/-- How a table came to be. -/
inductive Origin where
  /-- The document itself, or a table with a header of its own. -/
  | header
  /-- A table that is only passed through by the header of another. -/
  | passed
  /-- A table that dotted keys lead through. -/
  | dotted
  /-- A table in braces, which is complete. -/
  | braces
deriving DecidableEq, Repr

mutual

inductive Value where
  | text (content : String)
  | integer (n : Int)
  /-- A floating-point number, as written. -/
  | float (written : String)
  /-- A day, a time or both, as written. -/
  | moment (written : String)
  | boolean (b : Bool)
  | array (items : List Value)
  | table (content : Table)
  /-- Tables whose headers repeat one name. -/
  | tables (contents : List Table)

structure Table where
  origin : Origin
  entries : List (String × Value)

end

namespace Table

def empty (origin : Origin) : Table :=
  ⟨origin, []⟩

def find? (table : Table) (key : String) : Option Value :=
  (table.entries.find? (·.1 == key)).map (·.2)

/-- The entries with a value set in place, or behind the others if its key is new. -/
def setEntry (key : String) (value : Value) : List (String × Value) → List (String × Value)
  | [] => [(key, value)]
  | entry :: rest =>
      if entry.1 == key then (key, value) :: rest else entry :: setEntry key value rest

def set (table : Table) (key : String) (value : Value) : Table :=
  { table with entries := setEntry key value table.entries }

theorem find_setEntry (key : String) (value : Value) (entries : List (String × Value)) :
    (setEntry key value entries).find? (·.1 == key) = some (key, value) := by
  induction entries with
  | nil => simp [setEntry]
  | cons entry rest ih =>
      simp only [setEntry]
      split
      · simp
      · simp_all

theorem find?_set (table : Table) (key : String) (value : Value) :
    (table.set key value).find? key = some value := by
  simp [set, find?, find_setEntry]

/-- Whether a path may lead through a table. A header may pass every table but one in braces; dotted
keys may not pass a table that has its own header either. -/
def opensTo (table : Table) (step : Origin) : Bool :=
  match step, table.origin with
  | _, .braces => false
  | .dotted, .header => false
  | _, _ => true

/-- Changes the table at the end of a path; tables missing on the way are made with the origin of
the step. Of repeated tables the last one is meant. -/
def changeAt (step : Origin) (change : Table → Option Table) :
    List String → Table → Option Table
  | [], table => change table
  | key :: path, table =>
      match table.find? key with
      | none => do
          let child ← changeAt step change path (empty step)
          return table.set key (.table child)
      | some (.table child) =>
          if child.opensTo step then do
            let changed ← changeAt step change path child
            return table.set key (.table changed)
          else none
      | some (.tables contents) => do
          let last ← contents.getLast?
          let changed ← changeAt step change path last
          return table.set key (.tables (contents.dropLast ++ [changed]))
      | some _ => none

/-- Adds a value under a key that has none. A table that dotted keys do not lead to takes plain keys
only, and one that they lead to takes dotted keys only. -/
def addTo (plain : Bool) (key : String) (value : Value) (table : Table) : Option Table :=
  if (table.origin == .dotted) == plain || (table.find? key).isSome then none
  else some (table.set key value)

/-- Adds a value under dotted keys. -/
def assign (path : List String) (key : String) (value : Value) : Table → Option Table :=
  changeAt .dotted (addTo path.isEmpty key value) path

/-- Gives a table its own header; it has to be new, or only passed through so far. -/
def openTable (path : List String) (key : String) : Table → Option Table :=
  changeAt .passed (fun parent =>
    match parent.find? key with
    | none => some (parent.set key (.table (empty .header)))
    | some (.table child) =>
        if child.origin == .passed then
          some (parent.set key (.table { child with origin := .header }))
        else none
    | some _ => none) path

/-- Adds one more table to those of a name. -/
def openRepeated (path : List String) (key : String) : Table → Option Table :=
  changeAt .passed (fun parent =>
    match parent.find? key with
    | none => some (parent.set key (.tables [empty .header]))
    | some (.tables contents) => some (parent.set key (.tables (contents ++ [empty .header])))
    | some _ => none) path

end Table

end ShardedSql.Toml
