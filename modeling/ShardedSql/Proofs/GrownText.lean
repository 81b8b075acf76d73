import ShardedSql.Proofs.RenamedTokens

/-!
What renaming tables to shards does to the characters of a text: some letters change their case, and
behind some names a suffix grows. Main statement: the renamed text is grown from the text, whatever
the renamer takes for code.
-/

namespace ShardedSql.Segment

open Text Sql

/-- The second text is the first one, but for the case of letters and for suffixes behind names;
`named` says that a character of names stands before. -/
inductive Grown : Bool → List Char → List Char → Prop where
  | nil {named : Bool} : Grown named [] []
  | char {named : Bool} {c c' : Char} {rest rest' : List Char} (same : c.toLower = c'.toLower)
      (later : Grown (isNameChar c) rest rest') : Grown named (c :: rest) (c' :: rest')
  | suffix {g rest rest' : List Char} (ends : EndsName rest)
      (word : ∀ d ∈ g, isWordChar d = true) (later : Grown false rest rest') :
      Grown true rest ('_' :: g ++ rest')

section Building

variable {named : Bool} {tail tail' : List Char}

theorem Grown.weaken (grown : Grown false tail tail') : Grown named tail tail' := by
  cases grown with
  | nil => exact .nil
  | char same later => exact .char same later

theorem Grown.copy (w : List Char) (grown : Grown false tail tail') :
    Grown named (w ++ tail) (w ++ tail') := by
  induction w generalizing named with
  | nil => exact grown.weaken
  | cons c w ih => exact .char rfl ih

theorem Grown.respell {w v : List Char} (same : foldCase v = foldCase w)
    (inside : ∀ c ∈ w, isNameChar c = true) (grown : Grown true tail tail') :
    Grown true (w ++ tail) (v ++ tail') := by
  induction w generalizing v with
  | nil =>
      cases v with
      | nil => exact grown
      | cons d v => cases same
  | cons c w ih =>
      cases v with
      | nil => cases same
      | cons d v =>
          simp only [foldCase, List.map_cons, List.cons.injEq] at same
          refine .char same.1.symm ?_
          rw [inside c (List.mem_cons_self ..)]
          exact ih same.2 fun e member => inside e (List.mem_cons_of_mem _ member)

end Building

/-! ## Looking back from the grown text -/

section Inversion

variable {named : Bool} {chars chars' tail : List Char}

theorem eq_of_mark {c c' : Char} (mark : isNameChar c = false) (same : c.toLower = c'.toLower) :
    c' = c := by
  rcases eq_or_letters same with rfl | ⟨letter, _⟩
  · rfl
  · rw [isNameChar_of_isAlpha c letter] at mark
    cases mark

theorem ne_of_isNameChar {c d : Char} (name : isNameChar c = true) (mark : isNameChar d = false) :
    c ≠ d := by
  rintro rfl
  rw [name] at mark
  cases mark

theorem isWordChar_of_toLower {c c' : Char} (same : c.toLower = c'.toLower) :
    isWordChar c = isWordChar c' :=
  congr_of_letters (fun _ letter => isWordChar_of_startsWord (startsWord_of_isAlpha letter)) c c'
    same

/-- Before the grown text stands a suffix or nothing. -/
theorem Grown.front (grown : Grown named chars chars') :
    ∃ g rest', chars' = g ++ rest' ∧ Grown false chars rest' ∧
      (g = [] ∨ EndsName chars ∧ ∃ w, g = '_' :: w ∧ ∀ d ∈ w, isWordChar d = true) := by
  cases grown with
  | nil => exact ⟨[], [], rfl, .nil, .inl rfl⟩
  | char same later => exact ⟨[], _, rfl, .char same later, .inl rfl⟩
  | suffix ends word later => exact ⟨_, _, rfl, later, .inr ⟨ends, _, rfl, word⟩⟩

/-- Only where no suffix grows does a grown text start with what stands in no name. -/
theorem Grown.head {d : Char} (grown : Grown named chars chars') (mark : isNameChar d = false)
    (head : chars'.head? = some d) : chars.head? = some d := by
  cases grown with
  | nil => cases head
  | @char _ c _ _ _ same later =>
      cases head
      exact congrArg some (eq_of_mark mark same.symm)
  | suffix =>
      cases head
      cases mark

theorem Grown.endsName (grown : Grown false chars chars') (ends : EndsName chars) :
    EndsName chars' := by
  cases grown with
  | nil => exact endsName_nil
  | @char _ c c' _ _ same later =>
      intro d head
      cases head
      rw [eq_of_mark (ends c rfl) same]
      exact ends c rfl

theorem Grown.mark {c : Char} (mark : isNameChar c = false)
    (grown : Grown false (c :: chars) chars') :
    ∃ rest', chars' = c :: rest' ∧ Grown false chars rest' := by
  cases grown with
  | char same later =>
      rw [eq_of_mark mark same]
      rw [mark] at later
      exact ⟨_, rfl, later⟩

theorem endsName_of_append {w others : List Char} (ends : EndsName (w ++ others)) : EndsName w := by
  cases w with
  | nil => exact endsName_nil
  | cons c w => exact ends

/-- A text grows in parts; a suffix behind the last name of the first part belongs to it. -/
theorem Grown.split {w : List Char} (grown : Grown named (w ++ tail) chars')
    (ends : EndsName tail) :
    ∃ w' tail', chars' = w' ++ tail' ∧ Grown named w w' ∧ Grown false tail tail' := by
  generalize whole : w ++ tail = all at grown
  induction grown generalizing w with
  | nil =>
      obtain ⟨rfl, rfl⟩ := List.append_eq_nil_iff.mp whole
      exact ⟨[], [], rfl, .nil, .nil⟩
  | @char _ c c' rest rest' same later ih =>
      cases w with
      | nil =>
          cases whole
          exact ⟨[], c' :: rest', rfl, .nil, .char same later⟩
      | cons d w =>
          cases whole
          obtain ⟨w', tail', rfl, first, second⟩ := ih rfl
          exact ⟨c' :: w', tail', rfl, .char same first, second⟩
  | @suffix g _ rest' ends_here word later ih =>
      subst whole
      obtain ⟨w', tail', rfl, first, second⟩ := ih rfl
      exact ⟨'_' :: g ++ w', tail', by rw [List.append_assoc],
        .suffix (endsName_of_append ends_here) word first, second⟩

theorem Grown.forall_mem {p : Char → Prop} (grown : Grown named chars chars')
    (respects : ∀ c c' : Char, c.toLower = c'.toLower → p c → p c')
    (words : ∀ c, isWordChar c = true → p c) (holds : ∀ c ∈ chars, p c) : ∀ c ∈ chars', p c := by
  induction grown with
  | nil => exact holds
  | @char _ c c' rest rest' same later ih =>
      obtain ⟨here, behind⟩ := List.forall_mem_cons.mp holds
      exact List.forall_mem_cons.mpr ⟨respects c c' same here, ih behind⟩
  | suffix ends word later ih =>
      intro c member
      rcases List.mem_append.mp member with before | behind
      · rcases List.mem_cons.mp before with rfl | inside
        · exact words _ (by decide)
        · exact words c (word c inside)
      · exact ih holds c behind

/-- A mark that stands in no name is in the grown text only if it was in the text. -/
theorem Grown.forall_ne {d : Char} (mark : isNameChar d = false) (grown : Grown named chars chars')
    (absent : ∀ c ∈ chars, c ≠ d) : ∀ c ∈ chars', c ≠ d := by
  refine grown.forall_mem (p := (· ≠ d)) ?_ ?_ absent
  · rintro c c' same other rfl
    exact other (eq_of_mark mark same.symm)
  · rintro c word rfl
    rw [isNameChar_of_isWordChar word] at mark
    cases mark

/-- A word grows to a word. -/
theorem Grown.words {w : List Char} (inside : ∀ d ∈ w, isWordChar d = true)
    (grown : Grown named (w ++ tail) chars') :
    ∃ w' tail', chars' = w' ++ tail' ∧ (∀ d ∈ w', isWordChar d = true) ∧
      Grown false tail tail' := by
  induction w generalizing named chars' with
  | nil =>
      obtain ⟨g, rest', rfl, later, rfl | ⟨_, w, rfl, word⟩⟩ := grown.front
      · exact ⟨[], rest', rfl, by simp, later⟩
      · exact ⟨_, rest', rfl, List.forall_mem_cons.mpr ⟨by decide, word⟩, later⟩
  | cons c w ih =>
      obtain ⟨here, inside⟩ := List.forall_mem_cons.mp inside
      cases grown with
      | @char _ _ c' _ _ same later =>
          obtain ⟨w', tail', rfl, word, behind⟩ := ih inside later
          refine ⟨c' :: w', tail', rfl, List.forall_mem_cons.mpr ⟨?_, word⟩, behind⟩
          rwa [← isWordChar_of_toLower same]
      | suffix ends =>
          have mark := ends c rfl
          rw [isNameChar_of_isWordChar here] at mark
          cases mark

/-- A quoted run grows to a quoted run. -/
theorem Grown.quoted {quote : Char} {escapes : Bool} {w content : List Char}
    (run : QuotedRun quote escapes w content) (mark : isNameChar quote = false)
    (grown : Grown named (w ++ tail) chars') :
    ∃ w' content' tail', chars' = w' ++ tail' ∧ QuotedRun quote escapes w' content' ∧
      Grown false tail tail' := by
  -- A suffix before the run is plain text in it.
  have front {named : Bool} {chars chars' : List Char} (grown : Grown named chars chars')
      (inner : ∀ rest', Grown false chars rest' → ∃ w' content' tail', rest' = w' ++ tail' ∧
        QuotedRun quote escapes w' content' ∧ Grown false tail tail') :
      ∃ w' content' tail', chars' = w' ++ tail' ∧ QuotedRun quote escapes w' content' ∧
        Grown false tail tail' := by
    obtain ⟨g, rest', rfl, later, rfl | ⟨_, v, rfl, word⟩⟩ := grown.front
    · exact inner rest' later
    · obtain ⟨w', content', tail', rfl, run', behind⟩ := inner rest' later
      have names : ∀ c ∈ '_' :: v, isNameChar c = true := List.forall_mem_cons.mpr
        ⟨by decide, fun c member => isNameChar_of_isWordChar (word c member)⟩
      refine ⟨'_' :: v ++ w', '_' :: v ++ content', tail', by rw [List.append_assoc],
        quotedRun_prepend (fun c member => ⟨?_, ?_⟩) run', behind⟩
      · exact ne_of_isNameChar (names c member) mark
      · exact fun escape => ne_of_isNameChar (names c member) (by decide) escape.2
  induction run generalizing named chars' with
  | close =>
      refine front grown fun rest' from_quote => ?_
      obtain ⟨tail', rfl, later⟩ := from_quote.mark mark
      exact ⟨[quote], [], tail', rfl, .close, later⟩
  | double _ ih =>
      refine front grown fun rest' from_quote => ?_
      obtain ⟨rest₁, rfl, from_second⟩ := from_quote.mark mark
      obtain ⟨rest₂, rfl, behind⟩ := from_second.mark mark
      obtain ⟨w', content', tail', rfl, run', later⟩ := ih behind
      exact ⟨quote :: quote :: w', quote :: content', tail', rfl, .double run', later⟩
  | escape allowed other _ ih =>
      refine front grown fun rest' from_escape => ?_
      obtain ⟨rest₁, rfl, from_escaped⟩ := from_escape.mark (by decide)
      -- What stands behind the backslash is part of the escape, whatever it is.
      cases from_escaped with
      | @char _ _ d' _ _ same behind =>
          obtain ⟨w', content', tail', rfl, run', later⟩ := ih behind
          exact ⟨'\\' :: d' :: w', unescape d' :: content', tail', rfl, .escape allowed other run',
            later⟩
  | plain other bare _ ih =>
      refine front grown fun rest' from_plain => ?_
      cases from_plain with
      | @char _ _ c' _ _ same behind =>
          obtain ⟨w', content', tail', rfl, run', later⟩ := ih behind
          refine ⟨c' :: w', c' :: content', tail', rfl, .plain ?_ ?_ run', later⟩
          · rintro rfl
            exact other (eq_of_mark mark same.symm)
          · rintro ⟨allowed, rfl⟩
            exact bare ⟨allowed, eq_of_mark (by decide) same.symm⟩

theorem Grown.unclosed (grown : Grown named chars chars') (unclosed : Unclosed chars) :
    Unclosed chars' := by
  induction grown with
  | nil => trivial
  | char same later ih =>
      refine ⟨?_, ih unclosed.2⟩
      rintro ⟨rfl, slash⟩
      exact unclosed.1 ⟨eq_of_mark (by decide) same.symm, later.head (by decide) slash⟩
  | suffix ends word later ih =>
      refine (unclosed_append ?_).mpr (ih unclosed)
      refine List.forall_mem_cons.mpr ⟨by decide, ?_⟩
      rintro d member rfl
      exact absurd (word '*' member) (by decide +kernel)

end Inversion

/-! ## Renaming -/

/-- Each new name is the old one with an underscore and a word behind it. -/
def AddsSuffixes (renamings : List Renaming) : Prop :=
  ∀ entry ∈ renamings, ∃ g : List Char, (∀ d ∈ g, isWordChar d = true) ∧
    entry.new.toList = entry.old.toList ++ '_' :: g

section Renaming

variable {renamings : List Renaming} (suffixes : AddsSuffixes renamings)
include suffixes

theorem grown_renamedWord {named afterPoint : Bool} {w others tail tail' : List Char}
    (nonempty : w ≠ []) (inside : ∀ c ∈ w, isNameChar c = true) (ends : EndsName tail)
    (grown : Grown false tail tail') :
    Grown named (w ++ tail) (renamedWord renamings afterPoint w others ++ tail') := by
  unfold renamedWord
  split
  · exact grown.copy w
  · rcases renamed_cases renamings w with same | ⟨entry, member, same, new⟩
    · rw [same]
      exact grown.copy w
    · obtain ⟨g, word, spelled⟩ := suffixes entry member
      have later : Grown true tail ('_' :: g ++ tail') := .suffix ends word grown
      rw [new, spelled, List.append_assoc]
      -- The first character may stand behind anything, all others stand behind one of the name.
      cases w with
      | nil => exact absurd rfl nonempty
      | cons c w =>
          cases old : entry.old.toList with
          | nil =>
              rw [old] at same
              cases same
          | cons d v =>
              rw [old] at same
              simp only [foldCase, List.map_cons, List.cons.injEq] at same
              refine .char same.1.symm ?_
              rw [inside c (List.mem_cons_self ..)]
              exact later.respell same.2 fun e member => inside e (List.mem_cons_of_mem _ member)

theorem grown_renameText {named : Bool} (afterPoint : Bool) (chars : List Char)
    {tail tail' : List Char} (ends : EndsName tail) (grown : Grown false tail tail') :
    Grown named (chars ++ tail) (renameText renamings afterPoint chars ++ tail') := by
  induction chars using words_induction generalizing named afterPoint with
  | nil =>
      rw [renameText]
      exact grown.weaken
  | other c rest other ih =>
      rw [renameText_other _ _ _ other]
      exact .char rfl (ih _)
  | word w others nonempty inside stop ih =>
      have stop' : EndsName (others ++ tail) := by
        cases others with
        | nil => exact ends
        | cons d others => exact stop
      rw [renameText_word _ _ nonempty inside stop, List.append_assoc, List.append_assoc]
      exact grown_renamedWord suffixes nonempty inside stop' (ih false)

omit suffixes in
/-- A hint goes to the end of the text or ends in a slash. -/
theorem hint_end {c : Char} {rest : List Char} {extra : Nat}
    (opened : opened? c rest = some (.hint, extra)) :
    rest.drop extra = [] ∨ ∃ inside, c :: rest.take extra = inside ++ ['/'] := by
  unfold opened? at opened
  split at opened <;> cases opened
  next body =>
    unfold blockLength
    split
    · next inside after closed =>
        have whole := cutAtPair_eq closed
        have parts : inside ++ '*' :: '/' :: after = inside ++ ['*', '/'] ++ after := by simp
        have length : inside.length + 2 = (inside ++ ['*', '/']).length := by simp
        refine .inr ⟨'/' :: '*' :: inside ++ ['*'], ?_⟩
        rw [whole, parts, List.take_succ_cons, length, List.take_left]
        simp
    · exact .inl (by simp)

theorem grown_hint {c : Char} {rest tail' : List Char} {extra : Nat}
    (opened : opened? c rest = some (.hint, extra)) (grown : Grown false (rest.drop extra) tail')
    {named : Bool} :
    Grown named (c :: rest.take extra ++ rest.drop extra)
      (renameText renamings false (c :: rest.take extra) ++ tail') := by
  rcases hint_end opened with nothing | ⟨inside, closed⟩
  · rw [nothing] at grown ⊢
    exact grown_renameText suffixes false _ endsName_nil grown
  · have slash : EndsName ('/' :: rest.drop extra) := endsName_cons _ (by decide)
    have front : Grown named (inside ++ '/' :: rest.drop extra)
        (renameText renamings false inside ++ '/' :: tail') :=
      grown_renameText suffixes false inside slash (.char rfl grown)
    have alone : renameText renamings false ['/'] = ['/'] := by
      rw [renameText_other _ _ _ (by decide), renameText]
    have text := renameText_append renamings false inside [] (c := '/') (by decide) (by decide)
    rw [closed, text, renameText]
    simpa using front

/-- A text whose tables are renamed to shards is grown from the text. -/
theorem grown_renamedAfter {named : Bool} (afterPoint : Bool) (chars : List Char) :
    Grown named chars (renamedAfter renamings afterPoint chars) := by
  -- By length, since a word, a quote or a comment is passed in one step.
  induction length : chars.length using Nat.strong_induction_on
    generalizing chars named afterPoint with
  | _ n ih =>
      cases chars with
      | nil =>
          rw [renamedAfter_nil]
          exact .nil
      | cons c rest =>
          cases opened : opened? c rest with
          | some found =>
              obtain ⟨kind, extra⟩ := found
              have shorter : (rest.drop extra).length < n := by
                rw [← length, List.length_drop, List.length_cons]
                omega
              have later : Grown false (rest.drop extra)
                  (renamedAfter renamings false (rest.drop extra)) := ih _ shorter _ _ rfl
              have whole : c :: rest = c :: rest.take extra ++ rest.drop extra := by simp
              rw [renamedAfter_opened _ _ opened, whole]
              cases kind with
              | code => exact absurd rfl (kind_of_opened opened)
              | literal => exact later.copy _
              | comment => exact later.copy _
              | hint => exact grown_hint suffixes opened later
          | none =>
              cases name : isNameChar c with
              | false =>
                  rw [renamedAfter_other _ _ opened name]
                  have shorter : rest.length < n := by
                    rw [← length, List.length_cons]
                    exact Nat.lt_succ_self _
                  exact .char rfl (ih _ shorter _ _ rfl)
              | true =>
                  have ends := endsName_dropWhile rest
                  have whole : c :: rest =
                      c :: rest.takeWhile isNameChar ++ rest.dropWhile isNameChar := by simp
                  have inside : ∀ d ∈ c :: rest.takeWhile isNameChar, isNameChar d = true :=
                    List.forall_mem_cons.mpr ⟨name, fun d member => List.mem_takeWhile_imp member⟩
                  have shorter : (rest.dropWhile isNameChar).length < n := by
                    have := (List.dropWhile_sublist isNameChar (l := rest)).length_le
                    rw [← length, List.length_cons]
                    omega
                  rw [whole, renamedAfter_word _ _ (List.cons_ne_nil _ _) inside ends]
                  exact grown_renamedWord suffixes (List.cons_ne_nil _ _) inside ends
                    (ih _ shorter _ _ rfl)

end Renaming

end ShardedSql.Segment
