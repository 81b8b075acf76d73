import ShardedSql.Proofs.PatchedSegments

/-!
Renaming keeps the structure of a text. The segments of a renamed text are the segments of the text,
renamed one by one, so that to rename again is to rename each word again. Main statement: literals
and comments stay as they are and no segment comes or goes; where no new name is an old one, the
renamed text stays as it is when it is renamed again, and the renamings of one list may be made in
two steps.
-/

namespace ShardedSql

open Text Sql Segment

/-- Each new name is a word. -/
def NewWords (renamings : List Renaming) : Prop :=
  ∀ entry ∈ renamings, entry.new ≠ "" ∧ ∀ c ∈ entry.new.toList, isNameChar c = true

/-- No new name is an old one, in whatever case. -/
def NewNames (renamings : List Renaming) : Prop :=
  ∀ entry ∈ renamings, ∀ other ∈ renamings, sameWord other.old entry.new = false

/-- No table is renamed twice. -/
def DistinctNames (renamings : List Renaming) : Prop :=
  renamings.Pairwise fun entry other => sameWord entry.old other.old = false

instance (renamings : List Renaming) : Decidable (NewWords renamings) :=
  have (entry : Renaming) : Decidable (∀ c ∈ entry.new.toList, isNameChar c = true) :=
    List.decidableBAll _ _
  inferInstanceAs (Decidable (∀ entry ∈ renamings, _ ∧ _))

instance (renamings : List Renaming) : Decidable (NewNames renamings) :=
  inferInstanceAs (Decidable (∀ entry ∈ renamings, _))

instance (renamings : List Renaming) : Decidable (DistinctNames renamings) :=
  inferInstanceAs (Decidable (List.Pairwise _ renamings))

namespace Segment

/-! ## One word after the other -/

section Words

variable {first second : List Renaming} {w : List Char}

theorem renamed_of_find {entry : Renaming}
    (found : first.find? (fun entry => sameChars entry.old.toList w) = some entry) :
    renamed first w = entry.new.toList := by
  rw [renamed, found]

theorem renamed_of_find_none
    (missing : first.find? (fun entry => sameChars entry.old.toList w) = none) :
    renamed first w = w := by
  rw [renamed, missing]

/-- A new name is kept by renamings that do not rename it. -/
theorem renamed_new {entry : Renaming}
    (kept : ∀ other ∈ second, sameWord other.old entry.new = false) :
    renamed second entry.new.toList = entry.new.toList := by
  apply renamed_of_find_none
  rw [List.find?_eq_none]
  intro other member
  simpa [sameWord] using kept other member

/-- The entries of the first list are looked at before those of the second. -/
theorem renamed_renamed
    (kept : ∀ entry ∈ first, ∀ other ∈ second, sameWord other.old entry.new = false) :
    renamed second (renamed first w) = renamed (first ++ second) w := by
  cases found : first.find? (fun entry => sameChars entry.old.toList w) with
  | none =>
      rw [renamed_of_find_none found, renamed, renamed, List.find?_append, found, Option.none_or]
  | some entry =>
      rw [renamed_of_find found, renamed_new (kept entry (List.mem_of_find?_eq_some found)), renamed,
        List.find?_append, found, Option.some_or]

/-- Where no word has two entries, the entries of the second list may be looked at first. -/
theorem renamed_renamed_swapped
    (kept : ∀ entry ∈ second, ∀ other ∈ first, sameWord other.old entry.new = false)
    (distinct : ∀ entry ∈ first, ∀ other ∈ second, sameWord entry.old other.old = false) :
    renamed first (renamed second w) = renamed (first ++ second) w := by
  cases found : first.find? (fun entry => sameChars entry.old.toList w) with
  | none =>
      have whole : renamed (first ++ second) w = renamed second w := by
        rw [renamed, List.find?_append, found, Option.none_or, renamed]
      rw [whole]
      cases behind : second.find? (fun entry => sameChars entry.old.toList w) with
      | none => rw [renamed_of_find_none behind, renamed_of_find_none found]
      | some entry =>
          rw [renamed_of_find behind, renamed_new (kept entry (List.mem_of_find?_eq_some behind))]
  | some entry =>
      have missing : second.find? (fun entry => sameChars entry.old.toList w) = none := by
        rw [List.find?_eq_none]
        intro other member same
        have here := List.find?_some found
        have apart := distinct entry (List.mem_of_find?_eq_some found) other member
        simp only [sameWord, sameChars, beq_iff_eq, beq_eq_false_iff_ne] at *
        exact apart (here.trans same.symm)
      rw [renamed_of_find_none missing, renamed_of_find found, renamed, List.find?_append, found,
        Option.some_or]

end Words

/-! ## One stretch of text after the other -/

section Texts

variable {renamings first second both : List Renaming} {chars : List Char}

theorem renamedWord_word (words : NewWords renamings) (afterPoint : Bool) {w : List Char}
    (others : List Char) (nonempty : w ≠ []) (inside : ∀ c ∈ w, isNameChar c = true) :
    renamedWord renamings afterPoint w others ≠ [] ∧
      ∀ c ∈ renamedWord renamings afterPoint w others, isNameChar c = true := by
  refine renamedWord_of_new afterPoint others nonempty inside fun entry member _ => ?_
  obtain ⟨some_char, names⟩ := words entry member
  exact ⟨by simpa using some_char, names⟩

theorem not_edge_of_isNameChar {c : Char} (name : isNameChar c = true) : c ∉ edgeChars := by
  intro edge
  simp only [edgeChars, List.mem_cons, List.not_mem_nil, or_false] at edge
  rcases edge with rfl | rfl | rfl | rfl | rfl | rfl <;> cases name

theorem patched_renameText (words : NewWords renamings) (afterPoint : Bool) (chars : List Char) :
    Patched chars (renameText renamings afterPoint chars) := by
  induction chars using words_induction generalizing afterPoint with
  | nil => rw [renameText]; exact .nil
  | other c rest other ih =>
      rw [renameText_other _ _ _ other]
      exact .char c (ih _)
  | word w others nonempty inside stop ih =>
      obtain ⟨nonempty', inside'⟩ := renamedWord_word words afterPoint others nonempty inside
      rw [renameText_word _ _ nonempty inside stop]
      exact .patch nonempty (fun c member => not_edge_of_isNameChar (inside c member)) nonempty'
        (fun c member => not_edge_of_isNameChar (inside' c member)) (ih _)

/-- Where no word begins, a renamed text begins as it did. -/
theorem head_renameText (afterPoint : Bool) (ends : EndsName chars) :
    (renameText renamings afterPoint chars).head? = chars.head? := by
  cases chars with
  | nil => rw [renameText]
  | cons c rest => rw [renameText_other _ _ _ (ends c rfl)]; rfl

/-- Words renamed once more, each where it was. -/
theorem renameText_renameText (words : NewWords first)
    (composes : ∀ w, renamed second (renamed first w) = renamed both w) (afterPoint : Bool)
    (chars : List Char) :
    renameText second afterPoint (renameText first afterPoint chars) =
      renameText both afterPoint chars := by
  induction chars using words_induction generalizing afterPoint with
  | nil => simp only [renameText]
  | other c rest other ih => simp only [renameText_other _ _ _ other, ih]
  | word w others nonempty inside stop ih =>
      obtain ⟨nonempty', inside'⟩ := renamedWord_word words afterPoint others nonempty inside
      have head : (renameText first false others).head? = others.head? :=
        head_renameText false stop
      have stop' : EndsName (renameText first false others) := by rwa [EndsName, head]
      have word : renamedWord second afterPoint (renamedWord first afterPoint w others)
          (renameText first false others) = renamedWord both afterPoint w others := by
        simp only [renamedWord, head]
        split
        · rfl
        · exact composes w
      rw [renameText_word _ _ nonempty inside stop, renameText_word _ _ nonempty' inside' stop',
        renameText_word _ _ nonempty inside stop, ih, word]

/-! ## Whole texts -/

def renamedSegment (renamings : List Renaming) (segment : Segment) : Segment :=
  ⟨segment.kind, rename renamings segment⟩

theorem rename_renamedSegment (words : NewWords first)
    (composes : ∀ w, renamed second (renamed first w) = renamed both w) (segment : Segment) :
    rename second (renamedSegment first segment) = rename both segment := by
  obtain ⟨kind, text⟩ := segment
  cases kind with
  | literal => rfl
  | comment => rfl
  | code => exact renameText_renameText words composes false text
  | hint => exact renameText_renameText words composes false text

theorem patched_renamedSegment (words : NewWords renamings) (segment : Segment) :
    PatchedSegment segment (renamedSegment renamings segment) := by
  obtain ⟨kind, text⟩ := segment
  cases kind with
  | literal => exact .same _
  | comment => exact .same _
  | code => exact .code (patched_renameText words false text)
  | hint => exact .hint (patched_renameText words false text)

/-- The segments of a renamed text are the renamed segments. -/
theorem segments_renameWords (words : NewWords renamings) (sql : String) :
    segments (renameWords renamings sql).toList =
      (segments sql.toList).map (renamedSegment renamings) := by
  have patched : List.Forall₂ PatchedSegment (segments sql.toList)
      ((segments sql.toList).map (renamedSegment renamings)) := by
    rw [List.forall₂_map_right_iff, List.forall₂_same]
    exact fun segment _ => patched_renamedSegment words segment
  rw [← segments_patched patched, renameWords, String.toList_ofList, textOf, List.flatMap_map]
  rfl

theorem renameWords_renameWords (words : NewWords first)
    (composes : ∀ w, renamed second (renamed first w) = renamed both w) (sql : String) :
    renameWords second (renameWords first sql) = renameWords both sql := by
  rw [renameWords, segments_renameWords words, List.flatMap_map, renameWords]
  simp only [rename_renamedSegment words composes]

end Texts

/-- The segment is of the same kind, and the same if it is a literal or a comment. -/
def Keeps (segment segment' : Segment) : Prop :=
  segment'.kind = segment.kind ∧
    (segment.kind = .literal ∨ segment.kind = .comment → segment' = segment)

end Segment

/-- Where new names are words, the segments of a text stay what they are, literals and comments as
they are written. Where moreover no new name is an old one, the renamed text has no word left to
rename; where also no table is renamed twice, the renamings may be made in two steps, in either
order. -/
theorem renameWords_keeps (renamings : List Renaming) (sql : String)
    (words : NewWords renamings) :
    List.Forall₂ Segment.Keeps (segments sql.toList)
        (segments (renameWords renamings sql).toList) ∧
      (NewNames renamings →
        renameWords renamings (renameWords renamings sql) = renameWords renamings sql ∧
        (DistinctNames renamings → ∀ first second, first ++ second = renamings →
          renameWords second (renameWords first sql) = renameWords renamings sql ∧
          renameWords first (renameWords second sql) = renameWords renamings sql)) := by
  refine ⟨?_, fun new => ⟨?_, ?_⟩⟩
  · rw [segments_renameWords words, List.forall₂_map_right_iff, List.forall₂_same]
    rintro ⟨kind, text⟩ -
    refine ⟨rfl, ?_⟩
    rintro (rfl | rfl) <;> rfl
  · apply renameWords_renameWords words
    intro w
    rcases renamed_cases renamings w with same | ⟨entry, member, _, replaced⟩
    · rw [same, same]
    · rw [replaced, renamed_new (new entry member)]
  · rintro distinct first second rfl
    simp only [NewWords, NewNames, DistinctNames, List.forall_mem_append,
      List.pairwise_append] at words new distinct
    constructor
    · apply renameWords_renameWords words.1
      exact fun w => renamed_renamed fun entry member => (new.1 entry member).2
    · apply renameWords_renameWords words.2
      exact fun w => renamed_renamed_swapped (fun entry member => (new.2 entry member).1)
        distinct.2.2

/-- A hint, a column behind its table, a table behind its schema, a comment, and a literal that is
never closed. -/
def hintedText : String :=
  "SELECT /*+ INDEX(t) */ t.orders, s.T.id FROM Orders -- t
WHERE a = 'orders"

/-- The word `t_0` is new, though the word `t` is old. -/
def hintedNames : List Renaming :=
  [⟨"orders", "orders_1"⟩, ⟨"t", "t_0"⟩]

theorem renameWords_keeps_hinted :
    NewWords hintedNames ∧ NewNames hintedNames ∧ DistinctNames hintedNames ∧
      renameWords hintedNames hintedText =
        "SELECT /*+ INDEX(t_0) */ t_0.orders, s.t_0.id FROM orders_1 -- t
WHERE a = 'orders" ∧
      List.Forall₂ Segment.Keeps (segments hintedText.toList)
        (segments (renameWords hintedNames hintedText).toList) ∧
      renameWords hintedNames (renameWords hintedNames hintedText) =
        renameWords hintedNames hintedText ∧
      renameWords [⟨"orders", "orders_1"⟩] (renameWords [⟨"t", "t_0"⟩] hintedText) =
        renameWords hintedNames hintedText := by
  have words : NewWords hintedNames := by decide
  have new : NewNames hintedNames := by decide
  have distinct : DistinctNames hintedNames := by decide
  obtain ⟨keeps, later⟩ := renameWords_keeps hintedNames hintedText words
  obtain ⟨again, steps⟩ := later new
  exact ⟨words, new, distinct, by decide +kernel, keeps, again,
    (steps distinct [⟨"orders", "orders_1"⟩] [⟨"t", "t_0"⟩] rfl).2⟩

end ShardedSql
