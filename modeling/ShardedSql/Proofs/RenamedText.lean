import ShardedSql.Proofs.Lexing
import ShardedSql.Segment.Rename

/-!
Renaming in a text, one stretch after the other. A text is renamed segment by segment, and a segment
word by word; `renamedAfter` renames from any place on. Main statements: what becomes of a word, of
another character, of a literal or comment, and of a stretch of code, each with the renamed rest of
the text behind it.
-/

namespace ShardedSql.Segment

open Text Sql

/-- No word goes on into these characters. -/
def EndsName (chars : List Char) : Prop :=
  ∀ c, chars.head? = some c → isNameChar c = false

theorem endsName_nil : EndsName [] := by
  simp [EndsName]

theorem endsName_cons {c : Char} (rest : List Char) (mark : isNameChar c = false) :
    EndsName (c :: rest) := by
  intro d head
  cases head
  exact mark

/-- A line comment ends where no name goes on. -/
theorem endsName_of_stop {tail : List Char} (stop : tail = [] ∨ tail.head? = some '\n') :
    EndsName tail := by
  rcases stop with rfl | newline
  · exact endsName_nil
  · intro d head
    rw [newline] at head
    cases head
    decide

theorem endsName_dropWhile (chars : List Char) : EndsName (chars.dropWhile isNameChar) :=
  fun _ head => head?_dropWhile_of_some head

/-- Induction along the words of a text and the characters between them. -/
@[elab_as_elim]
theorem words_induction {motive : List Char → Prop} (nil : motive [])
    (other : ∀ c rest, isNameChar c = false → motive rest → motive (c :: rest))
    (word : ∀ w others, w ≠ [] → (∀ c ∈ w, isNameChar c = true) → EndsName others →
      motive others → motive (w ++ others))
    (chars : List Char) : motive chars := by
  match chars with
  | [] => exact nil
  | c :: rest =>
      cases name : isNameChar c with
      | false => exact other c rest name (words_induction nil other word rest)
      | true =>
          have later := words_induction nil other word (rest.dropWhile isNameChar)
          have whole := word (c :: rest.takeWhile isNameChar) (rest.dropWhile isNameChar)
            (by simp) ?_ (endsName_dropWhile rest) later
          · rwa [List.cons_append, List.takeWhile_append_dropWhile] at whole
          · intro d member
            rcases List.mem_cons.mp member with rfl | inside
            · exact name
            · exact List.mem_takeWhile_imp inside
termination_by chars.length
decreasing_by
  · simp
  · have := (List.dropWhile_sublist isNameChar (l := rest)).length_le
    simp only [List.length_cons]
    omega

section Words

variable (renamings : List Renaming) (afterPoint : Bool)

/-- What becomes of a word between what stands before it and behind it. -/
def renamedWord (word others : List Char) : List Char :=
  if afterPoint && others.head? ≠ some '.' then word else renamed renamings word

theorem renameText_word {w others : List Char} (nonempty : w ≠ [])
    (inside : ∀ c ∈ w, isNameChar c = true) (stop : EndsName others) :
    renameText renamings afterPoint (w ++ others) =
      renamedWord renamings afterPoint w others ++ renameText renamings false others := by
  cases w with
  | nil => exact absurd rfl nonempty
  | cons c w =>
      have later : ∀ d ∈ w, isNameChar d = true := fun d member =>
        inside d (List.mem_cons_of_mem _ member)
      rw [List.cons_append, renameText, if_pos (inside c (List.mem_cons_self ..)),
        takeWhile_append_of_stop later stop, dropWhile_append_of_stop later stop]
      rfl

theorem renameText_other {c : Char} (rest : List Char) (other : isNameChar c = false) :
    renameText renamings afterPoint (c :: rest) = c :: renameText renamings (c == '.') rest := by
  rw [renameText, if_neg (by simp [other])]

/-- A text is renamed up to a mark and behind it. -/
theorem renameText_append {c : Char} (before after : List Char) (other : isNameChar c = false)
    (no_point : c ≠ '.') :
    renameText renamings afterPoint (before ++ c :: after) =
      renameText renamings afterPoint before ++ c :: renameText renamings false after := by
  have mark (afterPoint : Bool) : renameText renamings afterPoint (c :: after) =
      c :: renameText renamings false after := by
    rw [renameText_other _ _ _ other, beq_false_of_ne no_point]
  induction before using words_induction generalizing afterPoint with
  | nil => rw [List.nil_append, mark, renameText, List.nil_append]
  | other d rest between ih =>
      rw [List.cons_append, renameText_other _ _ _ between, renameText_other _ _ _ between, ih,
        List.cons_append]
  | word w others nonempty inside stop ih =>
      -- The mark ends a word as the end of the text does, and it is no point.
      have stop' : EndsName (others ++ c :: after) := by
        intro d head
        cases others with
        | nil =>
            cases head
            exact other
        | cons e others => exact stop d head
      have same : renamedWord renamings afterPoint w (others ++ c :: after) =
          renamedWord renamings afterPoint w others := by
        cases others with
        | nil => simp [renamedWord, no_point]
        | cons e others => rfl
      rw [List.append_assoc, renameText_word _ _ nonempty inside stop',
        renameText_word _ _ nonempty inside stop, ih, same, List.append_assoc]

end Words

/-! ## Code before segments -/

theorem opened?_of_other {c : Char} (rest : List Char) (literal : c ≠ '\'') (line : c ≠ '-')
    (block : c ≠ '/') : opened? c rest = none := by
  unfold opened?
  split
  · exact absurd rfl literal
  · exact absurd rfl line
  · exact absurd rfl block
  · exact absurd rfl block
  · rfl

theorem opened?_of_nameChar {c : Char} (rest : List Char) (name : isNameChar c = true) :
    opened? c rest = none := by
  refine opened?_of_other rest ?_ ?_ ?_ <;>
    · rintro rfl
      cases name

theorem kind_of_opened {c : Char} {rest : List Char} {kind : SegmentKind} {extra : Nat}
    (opened : opened? c rest = some (kind, extra)) : kind ≠ .code := by
  unfold opened? at opened
  split at opened <;> cases opened <;> decide

/-- Code put before segments. -/
def addText (run : List Char) : List Segment → List Segment
  | ⟨.code, text⟩ :: rest => ⟨.code, run ++ text⟩ :: rest
  | segments => ⟨.code, run⟩ :: segments

theorem addCode_eq_addText (c : Char) (all : List Segment) : addCode c all = addText [c] all := by
  rcases all with _ | ⟨⟨kind, text⟩, rest⟩
  · rfl
  · cases kind <;> rfl

theorem addText_addText (run more : List Char) (all : List Segment) :
    addText run (addText more all) = addText (run ++ more) all := by
  rcases all with _ | ⟨⟨kind, text⟩, rest⟩
  · simp [addText]
  · cases kind <;> simp [addText]

/-- Nothing but code begins in `run` before `tail`. -/
def Unopened (tail : List Char) : List Char → Prop
  | [] => True
  | c :: rest => opened? c (rest ++ tail) = none ∧ Unopened tail rest

theorem segments_of_unopened {run tail : List Char} (nonempty : run ≠ [])
    (unopened : Unopened tail run) : segments (run ++ tail) = addText run (segments tail) := by
  induction run with
  | nil => exact absurd rfl nonempty
  | cons c rest ih =>
      obtain ⟨here, later⟩ := unopened
      rw [List.cons_append, segments, here]
      dsimp only
      rw [addCode_eq_addText]
      cases rest with
      | nil => rfl
      | cons d rest => rw [ih (by simp) later, addText_addText, List.singleton_append]

/-- How the segments of a text begin. -/
theorem segments_cases (chars : List Char) :
    (chars = [] ∧ segments chars = []) ∨
      (∃ segment rest, segments chars = segment :: rest ∧ segment.kind ≠ .code ∧
        EndsName chars ∧ chars.head? ≠ some '.') ∨
      ∃ text rest, segments chars = ⟨.code, text⟩ :: rest ∧ text.head? = chars.head? := by
  cases chars with
  | nil => exact .inl ⟨rfl, by rw [segments]⟩
  | cons c rest =>
      cases opened : opened? c rest with
      | some found =>
          obtain ⟨kind, extra⟩ := found
          refine .inr (.inl ⟨_, _, by rw [segments, opened], kind_of_opened opened, ?_, ?_⟩)
          · intro d head
            cases head
            cases name : isNameChar c with
            | false => rfl
            | true => simp [opened?_of_nameChar rest name] at opened
          · rintro head
            cases head
            cases opened
      | none =>
          refine .inr (.inr ?_)
          rw [segments, opened]
          dsimp only
          unfold addCode
          split
          · exact ⟨_, _, rfl, rfl⟩
          · exact ⟨_, _, rfl, rfl⟩

/-! ## From a place on -/

section Renaming

variable (renamings : List Renaming) (afterPoint : Bool)

def renamedFrom : List Segment → List Char
  | ⟨.code, text⟩ :: rest =>
      renameText renamings afterPoint text ++ rest.flatMap (rename renamings)
  | all => all.flatMap (rename renamings)

/-- The characters with their words renamed; `afterPoint` says that a point stands before them. -/
def renamedAfter (chars : List Char) : List Char :=
  renamedFrom renamings afterPoint (segments chars)

theorem renamedFrom_false (all : List Segment) :
    renamedFrom renamings false all = all.flatMap (rename renamings) := by
  unfold renamedFrom
  split
  · rfl
  · rfl

theorem renamedFrom_of_ne_code {segment : Segment} {rest : List Segment}
    (other : segment.kind ≠ .code) :
    renamedFrom renamings afterPoint (segment :: rest) =
      (segment :: rest).flatMap (rename renamings) := by
  obtain ⟨kind, text⟩ := segment
  cases kind with
  | code => exact absurd rfl other
  | _ => rfl

theorem renameWords_eq (sql : String) :
    renameWords renamings sql = String.ofList (renamedAfter renamings false sql.toList) := by
  rw [renameWords, renamedAfter, renamedFrom_false]

theorem renamedAfter_nil : renamedAfter renamings afterPoint [] = [] := by
  rw [renamedAfter, segments]
  rfl

theorem renamedAfter_opened {c : Char} {rest : List Char} {kind : SegmentKind} {extra : Nat}
    (opened : opened? c rest = some (kind, extra)) :
    renamedAfter renamings afterPoint (c :: rest) =
      rename renamings ⟨kind, c :: rest.take extra⟩ ++
        renamedAfter renamings false (rest.drop extra) := by
  rw [renamedAfter, segments, opened]
  dsimp only
  rw [renamedFrom_of_ne_code _ _ (kind_of_opened opened), List.flatMap_cons, renamedAfter,
    renamedFrom_false]

theorem renamedAfter_word {w others : List Char} (nonempty : w ≠ [])
    (inside : ∀ c ∈ w, isNameChar c = true) (stop : EndsName others) :
    renamedAfter renamings afterPoint (w ++ others) =
      renamedWord renamings afterPoint w others ++ renamedAfter renamings false others := by
  have unopened : Unopened others w := by
    clear nonempty
    induction w with
    | nil => trivial
    | cons c w ih =>
        exact ⟨opened?_of_nameChar _ (inside c (List.mem_cons_self ..)),
          ih fun d member => inside d (List.mem_cons_of_mem _ member)⟩
  have alone (nothing : others.head? ≠ some '.') : renameText renamings afterPoint w =
      renamedWord renamings afterPoint w others := by
    have whole := renameText_word renamings afterPoint nonempty inside endsName_nil
    rw [List.append_nil, renameText, List.append_nil] at whole
    rw [whole]
    simp [renamedWord, nothing]
  rw [renamedAfter, segments_of_unopened nonempty unopened, renamedAfter]
  -- Code that follows directly is in one segment with the word.
  rcases segments_cases others with ⟨rfl, none⟩ | ⟨segment, rest, first, other, _, no_point⟩ |
    ⟨text, rest, first, head⟩
  · rw [none, ← alone (by simp)]
    rfl
  · rw [first, ← alone no_point, renamedFrom_of_ne_code _ _ other]
    obtain ⟨kind, text⟩ := segment
    cases kind with
    | code => exact absurd rfl other
    | _ => rfl
  · have stop' : EndsName text := by rwa [EndsName, head]
    have same : renamedWord renamings afterPoint w text =
        renamedWord renamings afterPoint w others := by rw [renamedWord, head, renamedWord]
    rw [first]
    simp only [addText, renamedFrom]
    rw [renameText_word _ _ nonempty inside stop', same, List.append_assoc]

/-- A stretch of code that ends in a mark. -/
theorem renamedAfter_code {c : Char} {run tail : List Char} (other : isNameChar c = false)
    (no_point : c ≠ '.') (unopened : Unopened tail (run ++ [c])) :
    renamedAfter renamings afterPoint (run ++ c :: tail) =
      renameText renamings afterPoint run ++ c :: renamedAfter renamings false tail := by
  have alone : renameText renamings afterPoint (run ++ [c]) =
      renameText renamings afterPoint run ++ [c] := by
    rw [renameText_append _ _ _ _ other no_point, renameText]
  have whole : run ++ c :: tail = (run ++ [c]) ++ tail := by simp
  rw [whole, renamedAfter, segments_of_unopened (by simp) unopened, renamedAfter]
  -- As for a word: code in `tail` goes on in the segment of the run.
  rcases segments tail with _ | ⟨⟨kind, text⟩, rest⟩
  · simp [addText, renamedFrom, alone]
  · cases kind with
    | code =>
        simp only [addText, renamedFrom, List.append_assoc, List.singleton_append]
        rw [renameText_append _ _ _ _ other no_point, List.append_assoc, List.cons_append]
    | _ => simp [addText, renamedFrom, alone]

theorem renamedAfter_other {c : Char} {rest : List Char} (opened : opened? c rest = none)
    (other : isNameChar c = false) :
    renamedAfter renamings afterPoint (c :: rest) =
      c :: renamedAfter renamings (c == '.') rest := by
  have first : segments ([c] ++ rest) = addText [c] (segments rest) :=
    segments_of_unopened (by simp) ⟨opened, trivial⟩
  have alone : renameText renamings afterPoint [c] = [c] := by
    rw [renameText_other _ _ _ other, renameText]
  rw [List.singleton_append] at first
  rw [renamedAfter, first, renamedAfter]
  rcases segments rest with _ | ⟨⟨kind, text⟩, later⟩
  · simp [addText, renamedFrom, alone]
  · cases kind with
    | code =>
        simp only [addText, renamedFrom, List.singleton_append]
        rw [renameText_other _ _ _ other, List.cons_append]
    | _ => simp [addText, renamedFrom, alone]

end Renaming

end ShardedSql.Segment
