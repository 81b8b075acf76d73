/-!
Finite sets of names, kept in order and without repetition, so that equal sets are equal values and
the order in which names are listed says nothing but their own order. Main statements: what
membership means after each operation, and that sets with the same members are equal.
-/

namespace ShardedSql

structure NameSet where
  toList : List String
  sorted : toList.Pairwise (· < ·)
deriving DecidableEq

namespace NameSet

instance : Membership String NameSet where
  mem set name := name ∈ set.toList

instance (name : String) (set : NameSet) : Decidable (name ∈ set) :=
  inferInstanceAs (Decidable (name ∈ set.toList))

theorem mem_def {name : String} {set : NameSet} : name ∈ set ↔ name ∈ set.toList :=
  Iff.rfl

def empty : NameSet :=
  ⟨[], .nil⟩

instance : EmptyCollection NameSet where
  emptyCollection := empty

def isEmpty (set : NameSet) : Bool :=
  set.toList.isEmpty

def size (set : NameSet) : Nat :=
  set.toList.length

/-- A sorted list with one more name at its place. -/
def insertSorted (name : String) : List String → List String
  | [] => [name]
  | first :: rest =>
      if name < first then name :: first :: rest
      else if name = first then first :: rest
      else first :: insertSorted name rest

theorem mem_insertSorted {name other : String} {names : List String} :
    other ∈ insertSorted name names ↔ other = name ∨ other ∈ names := by
  induction names with
  | nil => simp [insertSorted]
  | cons first rest ih =>
      simp only [insertSorted]
      split
      · simp
      · split
        · next h => simp [h]
        · simp only [List.mem_cons, ih]
          grind

theorem lt_of_not_lt_of_ne {a b : String} (not_lt : ¬ a < b) (ne : a ≠ b) : b < a := by
  have le : b ≤ a := String.not_lt.1 not_lt
  exact String.not_le.1 fun ge => ne (String.le_antisymm ge le)

theorem sorted_insertSorted {name : String} {names : List String}
    (sorted : names.Pairwise (· < ·)) : (insertSorted name names).Pairwise (· < ·) := by
  induction names with
  | nil => simp [insertSorted]
  | cons first rest ih =>
      obtain ⟨below, rest_sorted⟩ := List.pairwise_cons.1 sorted
      simp only [insertSorted]
      split
      · next lt =>
          refine List.pairwise_cons.2 ⟨?_, sorted⟩
          intro other member
          rcases List.mem_cons.1 member with rfl | later
          · exact lt
          · exact String.lt_trans lt (below other later)
      · next not_lt =>
          split
          · exact sorted
          · next ne =>
              refine List.pairwise_cons.2 ⟨?_, ih rest_sorted⟩
              intro other member
              rcases mem_insertSorted.1 member with rfl | later
              · exact lt_of_not_lt_of_ne not_lt ne
              · exact below other later

def insert (set : NameSet) (name : String) : NameSet :=
  ⟨insertSorted name set.toList, sorted_insertSorted set.sorted⟩

/-- The set of the listed names. -/
def ofList (names : List String) : NameSet :=
  names.foldl insert empty

def union (left right : NameSet) : NameSet :=
  right.toList.foldl insert left

instance : Union NameSet where
  union := union

@[simp]
theorem mem_insert {set : NameSet} {name other : String} :
    other ∈ set.insert name ↔ other = name ∨ other ∈ set :=
  mem_insertSorted

theorem not_mem_empty {name : String} : ¬ name ∈ (∅ : NameSet) := by
  intro member
  exact absurd member (List.not_mem_nil (a := name))

theorem mem_foldl_insert {names : List String} {set : NameSet} {name : String} :
    name ∈ names.foldl insert set ↔ name ∈ set ∨ name ∈ names := by
  induction names generalizing set with
  | nil => simp
  | cons first rest ih =>
      simp only [List.foldl_cons, ih, mem_insert, List.mem_cons]
      grind

@[simp]
theorem mem_ofList {names : List String} {name : String} : name ∈ ofList names ↔ name ∈ names := by
  simp only [ofList, mem_foldl_insert]
  exact ⟨fun h => h.elim (fun member => absurd member not_mem_empty) id, .inr⟩

@[simp]
theorem mem_union {left right : NameSet} {name : String} :
    name ∈ left ∪ right ↔ name ∈ left ∨ name ∈ right :=
  mem_foldl_insert

theorem eq_of_sorted {left right : List String} (left_sorted : left.Pairwise (· < ·))
    (right_sorted : right.Pairwise (· < ·)) (same : ∀ name, name ∈ left ↔ name ∈ right) :
    left = right := by
  induction left generalizing right with
  | nil =>
      cases right with
      | nil => rfl
      | cons name _ => exact absurd ((same name).2 (List.mem_cons_self ..)) (List.not_mem_nil)
  | cons a left ih =>
      cases right with
      | nil => exact absurd ((same a).1 (List.mem_cons_self ..)) (List.not_mem_nil)
      | cons b right =>
          obtain ⟨a_below, left_rest⟩ := List.pairwise_cons.1 left_sorted
          obtain ⟨b_below, right_rest⟩ := List.pairwise_cons.1 right_sorted
          have heads : a = b := by
            rcases List.mem_cons.1 ((same a).1 (List.mem_cons_self ..)) with h | a_later
            · exact h
            · rcases List.mem_cons.1 ((same b).2 (List.mem_cons_self ..)) with h | b_later
              · exact h.symm
              · exact absurd (String.lt_trans (a_below b b_later) (b_below a a_later))
                  (String.lt_irrefl a)
          subst heads
          congr 1
          refine ih left_rest right_rest fun name => ?_
          constructor
          · intro member
            rcases List.mem_cons.1 ((same name).1 (List.mem_cons_of_mem _ member)) with rfl | h
            · exact absurd (a_below _ member) (String.lt_irrefl _)
            · exact h
          · intro member
            rcases List.mem_cons.1 ((same name).2 (List.mem_cons_of_mem _ member)) with rfl | h
            · exact absurd (b_below _ member) (String.lt_irrefl _)
            · exact h

/-- Sets with the same members are equal. -/
theorem ext {left right : NameSet} (same : ∀ name, name ∈ left ↔ name ∈ right) : left = right := by
  obtain ⟨l, hl⟩ := left
  obtain ⟨r, hr⟩ := right
  have : l = r := eq_of_sorted hl hr same
  subst this
  rfl

end NameSet

end ShardedSql
