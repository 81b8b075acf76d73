/-!
The rows of a merged answer. Concatenated answers keep the list of each shard and read the lists one
after the other; every view of the rows is a view of that one list.
-/

namespace ShardedSql

inductive MergedRows (R : Type) where
  /-- The lists of the shards, in their order. -/
  | concatenated (groups : List (List R))
  /-- A list of its own. -/
  | listed (rows : List R)

/-- A position behind the last of the rows. -/
structure RowOutOfRange where
  index : Nat
  size : Nat
deriving DecidableEq

def RowOutOfRange.message (error : RowOutOfRange) : String :=
  "row " ++ toString error.index ++ " out of range for " ++ toString error.size ++ " rows"

namespace MergedRows

variable {R : Type}

def groups : MergedRows R → List (List R)
  | .concatenated groups => groups
  | .listed rows => [rows]

/-- The rows in one list. -/
def toList (merged : MergedRows R) : List R :=
  merged.groups.flatten

/-- Every row is held in memory, so that the number of all rows fits a machine word. -/
def size (merged : MergedRows R) : Nat :=
  merged.groups.foldl (fun total group => total + group.length) 0

theorem foldl_length (groups : List (List R)) (total : Nat) :
    groups.foldl (fun total group => total + group.length) total =
      total + groups.flatten.length := by
  induction groups generalizing total with
  | nil => rfl
  | cons group groups ih =>
      rw [List.foldl_cons, ih, List.flatten_cons, List.length_append, Nat.add_assoc]

theorem size_eq (merged : MergedRows R) : merged.size = merged.toList.length :=
  (foldl_length merged.groups 0).trans (Nat.zero_add _)

def isEmpty (merged : MergedRows R) : Bool :=
  merged.groups.all List.isEmpty

/-- The row at an index of the groups read one after the other. -/
def getIn (index : Nat) : List (List R) → Option R
  | [] => none
  | group :: groups =>
      -- A group that is passed stands before the index as a whole: the difference is exact.
      if index < group.length then group[index]? else getIn (index - group.length) groups

theorem getIn_eq (groups : List (List R)) (index : Nat) :
    getIn index groups = groups.flatten[index]? := by
  induction groups generalizing index with
  | nil => simp [getIn]
  | cons group groups ih =>
      simp only [getIn, List.flatten_cons, List.getElem?_append, ih]

def get? (merged : MergedRows R) (index : Nat) : Option R :=
  getIn index merged.groups

/-- The row at an index that has to be one of the rows. -/
def get (merged : MergedRows R) (index : Nat) : Except RowOutOfRange R :=
  match merged.get? index with
  | some row => .ok row
  | none => .error ⟨index, merged.size⟩

/-! ## Row by row -/

/-- The next row of groups read one after the other, and what is left of them. -/
def next? : List (List R) → Option (R × List (List R))
  | [] => none
  | [] :: groups => next? groups
  | (row :: group) :: groups => some (row, group :: groups)

theorem next?_eq_none_iff {groups : List (List R)} : next? groups = none ↔ groups.flatten = [] := by
  fun_induction next? groups with
  | case1 => simp
  | case2 groups ih => simpa using ih
  | case3 row group groups => simp

theorem flatten_of_next? {groups rest : List (List R)} {row : R}
    (found : next? groups = some (row, rest)) : groups.flatten = row :: rest.flatten := by
  fun_induction next? groups with
  | case1 => cases found
  | case2 groups ih => simpa using ih found
  | case3 row group groups =>
      cases found
      rfl

/-- The rows that are left to read. -/
def readAll (groups : List (List R)) : List R :=
  match _found : next? groups with
  | none => []
  | some (row, rest) => row :: readAll rest
termination_by groups.flatten.length
decreasing_by
  rw [flatten_of_next? _found]
  exact Nat.lt_succ_self _

/-- Whether the same rows are left to read on both sides. -/
def sameRows [BEq R] (left right : List (List R)) : Bool :=
  match _found : next? left, next? right with
  | none, none => true
  | some (a, left), some (b, right) => a == b && sameRows left right
  | none, some _ => false
  | some _, none => false
termination_by left.flatten.length
decreasing_by
  rw [flatten_of_next? _found]
  exact Nat.lt_succ_self _

theorem readAll_eq (groups : List (List R)) : readAll groups = groups.flatten := by
  fun_induction readAll groups with
  | case1 groups found => exact (next?_eq_none_iff.mp found).symm
  | case2 groups row rest found ih => rw [ih, flatten_of_next? found]

theorem sameRows_eq [BEq R] (left right : List (List R)) :
    sameRows left right = (left.flatten == right.flatten) := by
  fun_induction sameRows left right with
  | case1 left right left_end right_end =>
      rw [next?_eq_none_iff.mp left_end, next?_eq_none_iff.mp right_end]
      rfl
  | case2 left right a left_rest b right_rest left_next right_next ih =>
      rw [flatten_of_next? left_next, flatten_of_next? right_next, ih]
      rfl
  | case3 left right first left_end right_next =>
      rw [next?_eq_none_iff.mp left_end, flatten_of_next? right_next]
      rfl
  | case4 left right first left_next right_end =>
      rw [flatten_of_next? left_next, next?_eq_none_iff.mp right_end]
      rfl

/-- Equality of the rows, however they are grouped. -/
instance [BEq R] : BEq (MergedRows R) where
  beq left right := sameRows left.groups right.groups

/-- Equality with rows in one list. -/
def equalsList [BEq R] (merged : MergedRows R) (rows : List R) : Bool :=
  sameRows merged.groups [rows]

/-- The rows, read one by one. -/
def rows (merged : MergedRows R) : List R :=
  readAll merged.groups

/-- The rows in one list; where there is but one list, that list itself. -/
def intoList : MergedRows R → List R
  | .listed rows => rows
  | .concatenated [rows] => rows
  | .concatenated groups => readAll groups

end MergedRows

end ShardedSql
