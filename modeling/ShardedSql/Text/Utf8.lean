/-!
Positions in a text are byte offsets into its UTF-8 form. A cut is possible only between two
characters.
-/

namespace ShardedSql.Text

/-- The number of bytes the characters take in UTF-8. -/
def byteLength : List Char → Nat
  | [] => 0
  | c :: rest => c.utf8Size + byteLength rest

@[simp]
theorem byteLength_append (left right : List Char) :
    byteLength (left ++ right) = byteLength left + byteLength right := by
  induction left with
  | nil => simp [byteLength]
  | cons c rest ih => simp [byteLength, ih, Nat.add_assoc]

/-- The characters split after exactly `count` bytes, when a character ends there. -/
def splitBytes (count : Nat) : List Char → Option (List Char × List Char)
  | [] => if count = 0 then some ([], []) else none
  | c :: rest =>
      if count = 0 then some ([], c :: rest)
      else if count < c.utf8Size then none
      else (splitBytes (count - c.utf8Size) rest).map fun (before, after) => (c :: before, after)

/-- The text between two byte offsets, when both are at character boundaries and in order. -/
def slice? (text : String) (start stop : Nat) : Option String := do
  let (_, rest) ← splitBytes start text.toList
  if start ≤ stop then
    let (covered, _) ← splitBytes (stop - start) rest
    return String.ofList covered
  else none

theorem splitBytes_append {count : Nat} {chars before after : List Char}
    (h : splitBytes count chars = some (before, after)) :
    before ++ after = chars ∧ byteLength before = count := by
  induction chars generalizing count before after with
  | nil =>
      simp only [splitBytes] at h
      split at h <;> simp_all [byteLength]
  | cons c rest ih =>
      simp only [splitBytes] at h
      split at h
      · simp_all [byteLength]
      · split at h
        · simp at h
        · obtain ⟨⟨front, back⟩, split_rest, pair_eq⟩ := Option.map_eq_some_iff.1 h
          have ⟨joined_eq, length_eq⟩ := ih split_rest
          simp only [Prod.mk.injEq] at pair_eq
          obtain ⟨rfl, rfl⟩ := pair_eq
          refine ⟨by simp [joined_eq], ?_⟩
          simp only [byteLength, length_eq]
          omega

end ShardedSql.Text
