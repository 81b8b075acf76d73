import ShardedSql.Proofs.RespelledStatement
import ShardedSql.Proofs.WrittenHead

/-!
Texts without the blanks at their ends and without their head comment. The lexer passes blanks and
comments on its own, so that taking them off takes no token away, also where the text is not to be
read. Main statement: the statement behind a head comment is the statement of the whole text, but
for the places of columns, and there is none behind it if the whole text is none.
-/

namespace ShardedSql

open Sql Text Sql.Writing

namespace Sql

/-! ## Cuts before blanks -/

/-- Two cuts of one lexeme, of a rest and of the same with something behind it: the second stops
where the first does, or the first takes the whole rest and the second at least that. -/
structure Cut.Reaches (rest : List Char) (cut cut' : Cut) : Prop where
  lexeme : cut'.lexeme = cut.lexeme
  extra : (cut'.extra = cut.extra ∧ cut.extra ≤ rest.length) ∨
    (cut.extra = rest.length ∧ rest.length ≤ cut'.extra)

section Trailing

variable {c quote : Char} {escapes : Bool} {rest trail : List Char}

theorem Cut.Reaches.same {cut : Cut} (within : cut.extra ≤ rest.length) :
    Cut.Reaches rest cut cut :=
  ⟨rfl, .inl ⟨rfl, within⟩⟩

theorem Cut.Reaches.whole {lexeme : Lexeme} {all more : Nat} (taken : all = rest.length)
    (reaches : rest.length ≤ more) : Cut.Reaches rest ⟨lexeme, all⟩ ⟨lexeme, more⟩ :=
  ⟨rfl, .inr ⟨taken, reaches⟩⟩

theorem length_of_quotedRun {content : List Char} {n : Nat}
    (run : quotedRun quote escapes rest = some (content, n)) : n ≤ rest.length := by
  obtain ⟨w, tail, rfl, rfl, _, _⟩ := quotedRun_of_eq run
  rw [List.length_append]
  exact Nat.le_add_right ..

variable (trailing : ∀ d ∈ trail, isBlank d = true)

include trailing

theorem breaks_trailing : Breaks trail :=
  fun d head => mem_breakChars_of_blank (trailing d (List.mem_of_mem_head? head))

theorem head?_trailing {d : Char} (bare : isBlank d = false) :
    (rest ++ trail).head? = some d ↔ rest.head? = some d := by
  cases rest with
  | cons e rest => rfl
  | nil =>
      refine ⟨fun head => ?_, nofun⟩
      rw [trailing d (List.mem_of_mem_head? head)] at bare
      cases bare

/-- Blanks close no quoted run. -/
theorem quotedRun_trailing (bare : isBlank quote = false) :
    quotedRun quote escapes (rest ++ trail) = quotedRun quote escapes rest := by
  cases found : quotedRun quote escapes (rest ++ trail) with
  | some run =>
      obtain ⟨content, n⟩ := run
      obtain ⟨w, tail, whole, rfl, run, stop⟩ := quotedRun_of_eq found
      rcases List.append_eq_append_iff.mp whole with ⟨more, rfl, taken⟩ | ⟨left, rfl, rfl⟩
      · -- A run that went on into the blanks would end in one.
        obtain ⟨inside, closed⟩ := run.closed
        rcases List.eq_nil_or_concat more with rfl | ⟨more, d, rfl⟩
        · have stop : ([] : List Char).head? ≠ some quote := nofun
          have ended := run.eq stop
          rw [List.append_nil, List.append_nil] at ended
          rw [ended, List.append_nil]
        · rw [List.concat_eq_append, ← List.append_assoc] at closed
          obtain ⟨_, same⟩ := List.append_inj' closed rfl
          obtain rfl : d = quote := List.singleton_inj.mp same
          rw [trailing d (by simp [taken])] at bare
          cases bare
      · rw [run.eq]
        exact fun head => stop ((head?_trailing trailing bare).mpr head)
  | none =>
      cases before : quotedRun quote escapes rest with
      | none => rfl
      | some run =>
          obtain ⟨content, n⟩ := run
          obtain ⟨w, tail, rfl, rfl, run, stop⟩ := quotedRun_of_eq before
          rw [List.append_assoc, run.eq] at found
          · cases found
          · exact fun head => stop ((head?_trailing trailing bare).mp head)

theorem cutString_trailing : Cut.Reaches rest (cutString rest) (cutString (rest ++ trail)) := by
  unfold cutString
  rw [quotedRun_trailing trailing (by decide)]
  split
  · next run => exact .same (length_of_quotedRun run)
  · exact .whole rfl (by simp)

theorem cutQuotedName_trailing (opens : isQuote quote = true) :
    Cut.Reaches rest (cutQuotedName quote rest) (cutQuotedName quote (rest ++ trail)) := by
  have bare : isBlank quote = false := by rcases quote_cases opens with rfl | rfl <;> decide
  unfold cutQuotedName
  rw [quotedRun_trailing trailing bare]
  split
  · next run => exact .same (length_of_quotedRun run)
  · exact .whole rfl (by simp)

theorem cutBlob_trailing :
    Cut.Reaches ('\'' :: rest) (cutBlob rest) (cutBlob (rest ++ trail)) := by
  unfold cutBlob
  rw [quotedRun_trailing trailing (by decide)]
  split
  · exact .whole rfl (by simp)
  · next length run =>
      have within : length + 1 ≤ ('\'' :: rest).length :=
        Nat.succ_le_succ (length_of_quotedRun run)
      dsimp only
      split
      · exact .same within
      · split <;> exact .same within

theorem cutWord_trailing : Cut.Reaches rest (cutWord c rest) (cutWord c (rest ++ trail)) := by
  have taken : (rest ++ trail).takeWhile isWordChar = rest.takeWhile isWordChar :=
    (takeWhile_break (breaks_trailing trailing) (fun _ breaks => (breakChars_apart breaks).1)
      rest).1
  have within : (rest.takeWhile isWordChar).length ≤ rest.length :=
    (List.takeWhile_sublist _).length_le
  unfold cutWord
  rw [taken]
  dsimp only
  split <;> exact .same within

theorem cutNumber_trailing :
    Cut.Reaches rest (cutNumber c rest) (cutNumber c (rest ++ trail)) := by
  rw [cutNumber_break (breaks_trailing trailing)]
  obtain ⟨w, tail, rfl, extra, _⟩ := cutNumber_shape c rest
  refine .same ?_
  rw [extra, List.length_append]
  exact Nat.le_add_right ..

theorem symbolAt_trailing : symbolAt c (rest ++ trail) = symbolAt c rest := by
  cases rest with
  | cons d rest => rfl
  | nil =>
      cases trail with
      | nil => rfl
      | cons d trail =>
          have single : doubleSymbol c d = none :=
            doubleSymbol_of_break (breaks_trailing trailing d rfl)
          simp [symbolAt, single]

/-- The token that is cut off is the same before blanks. -/
theorem tokenAt_trailing : Cut.Reaches rest (tokenAt c rest) (tokenAt c (rest ++ trail)) := by
  unfold tokenAt
  rw [symbolAt_trailing trailing]
  split
  · next symbol =>
      refine .same ?_
      rw [length_of_symbolAt symbol, List.length_take]
      exact Nat.min_le_right ..
  · simp only [head?_trailing (d := '\'') trailing (by decide)]
    split
    · exact cutString_trailing trailing
    split
    · next opens => exact cutQuotedName_trailing trailing (by simpa [isQuote] using opens)
    split
    · next marked =>
        obtain ⟨quote, rest, rfl⟩ : ∃ quote rest', rest = quote :: rest' := by
          cases rest with
          | nil => cases marked.2
          | cons quote rest => exact ⟨quote, rest, rfl⟩
        cases marked.2
        exact cutBlob_trailing trailing
    split
    · exact cutNumber_trailing trailing
    split
    · exact cutWord_trailing trailing
    · exact .same (Nat.zero_le _)

theorem cutAtPair_trailing :
    cutAtPair '*' '/' (rest ++ trail) =
      (cutAtPair '*' '/' rest).map fun cut => (cut.1, cut.2 ++ trail) := by
  have no_mark {d : Char} (bare : isBlank d = false) : d ∉ trail := by
    intro member
    rw [trailing d member] at bare
    cases bare
  cases before : cutAtPair '*' '/' rest with
  | some cut =>
      obtain ⟨inside, after⟩ := cut
      obtain rfl := cutAtPair_eq before
      rw [List.append_assoc]
      exact cutAtPair_iff.mpr (cutAtPair_iff.mp before)
  | none =>
      cases found : cutAtPair '*' '/' (rest ++ trail) with
      | none => rfl
      | some cut =>
          obtain ⟨inside, after⟩ := cut
          have whole := cutAtPair_eq found
          rw [whole] at found
          rcases List.append_eq_append_iff.mp whole with ⟨more, _, taken⟩ | ⟨left, rfl, taken⟩
          · exact absurd (by simp [taken]) (no_mark (d := '/') (by decide))
          -- A mark that closes the comment stands in the text, as blanks hold none.
          · match left with
            | [] =>
                obtain rfl : '*' :: '/' :: after = trail := taken
                exact absurd (by simp) (no_mark (d := '*') (by decide))
            | [_] =>
                obtain rfl : '/' :: after = trail := (List.cons.inj taken).2
                exact absurd (by simp) (no_mark (d := '/') (by decide))
            | first :: second :: left =>
                obtain ⟨rfl, same⟩ : '*' = first ∧ '/' :: after = second :: left ++ trail :=
                  List.cons.inj taken
                obtain ⟨rfl, _⟩ : '/' = second ∧ after = left ++ trail := List.cons.inj same
                rw [cutAtPair_iff.mpr (cutAtPair_iff.mp found)] at before
                cases before

/-- Blanks neither open nor close a comment, but a comment that ends with its line takes them in. -/
theorem commentAt_trailing :
    Option.Rel (Cut.Reaches rest) (commentAt c rest) (commentAt c (rest ++ trail)) := by
  have breaks : BreaksOff rest (rest ++ trail) :=
    ⟨rest, [], trail, (List.append_nil _).symm, rfl, breaks_trailing trailing⟩
  cases before : commentAt c rest with
  | none =>
      rw [commentAt_of_breaksOff breaks before]
      exact .none
  | some cut =>
      unfold commentAt at before
      split at before
      · next line =>
          cases before
          refine .some ?_
          change Cut.Reaches _ _ ⟨_, 1 + ((line ++ trail).takeWhile (· ≠ '\n')).length⟩
          rw [List.takeWhile_append]
          split
          · next taken =>
              refine .whole (by rw [taken, Nat.add_comm]; rfl) ?_
              simp only [List.length_cons, List.length_append]
              omega
          · refine .same ?_
            have within : (line.takeWhile (· ≠ '\n')).length ≤ line.length :=
              (List.takeWhile_sublist _).length_le
            simp only [List.length_cons]
            omega
      · next body =>
          rw [List.cons_append, commentAt, cutAtPair_trailing trailing]
          split at before
          · next inside after closed =>
              cases before
              rw [closed]
              refine .some (.same ?_)
              rw [cutAtPair_eq closed]
              simp
              omega
          · next unclosed =>
              cases before
              rw [unclosed]
              exact .some (.whole rfl (by simp))
      · cases before

/-- What starts with a character is the same before blanks. -/
theorem cutAtHead_trailing : Cut.Reaches rest (cutAtHead c rest) (cutAtHead c (rest ++ trail)) := by
  unfold cutAtHead
  split
  · exact .same (Nat.zero_le _)
  · have comments :
        Option.Rel (Cut.Reaches rest) (commentAt c rest) (commentAt c (rest ++ trail)) :=
      commentAt_trailing trailing
    generalize commentAt c rest = comment at comments ⊢
    generalize commentAt c (rest ++ trail) = comment' at comments ⊢
    cases comments with
    | none => exact tokenAt_trailing trailing
    | some reaches => exact reaches

theorem kindsIn_blanks : kindsIn trail = [] := by
  have behind := (writtenChars_leading trailing [] []).2
  rw [List.append_nil] at behind
  rw [behind]
  simp [kindsIn, lexemes]

/-- Blanks behind a text add no token, whatever the text is. -/
theorem kindsIn_trailing (chars : List Char) : kindsIn (chars ++ trail) = kindsIn chars := by
  induction chars using lexemes.induct with
  | case1 =>
      rw [List.nil_append, kindsIn_blanks trailing]
      simp [kindsIn, lexemes]
  | case2 c rest cut ih =>
      have reaches : Cut.Reaches rest (cutAtHead c rest) (cutAtHead c (rest ++ trail)) :=
        cutAtHead_trailing trailing
      obtain ⟨lexeme, extra⟩ := reaches
      rw [List.cons_append, kindsIn_cons, kindsIn_cons, lexeme]
      congr 1
      rcases extra with ⟨same, within⟩ | ⟨taken, reaches⟩
      · rw [same, List.drop_append_of_le_length within]
        exact ih
      · rw [taken, List.drop_length, List.drop_append, List.drop_eq_nil_of_le reaches,
          List.nil_append, kindsIn_blanks fun d member => trailing d (List.mem_of_mem_drop member)]
        simp [kindsIn, lexemes]

end Trailing

theorem kindsIn_trim (chars : List Char) : kindsIn (trim chars) = kindsIn chars := by
  obtain ⟨lead, trail, whole, leading, trailing, _⟩ := exists_padding chars
  generalize trim chars = inner at whole ⊢
  rw [whole, (writtenChars_leading leading [] _).2, kindsIn_trailing trailing]

/-! ## Texts of the same tokens -/

/-- The statement without the places of its columns. -/
def Statement.unplaced (statement : Statement) : Statement :=
  statement.named .identity

/-- Both texts are statements, the same but for the places of columns, or neither is one. -/
def ReadAlike (text text' : String) : Prop :=
  match Statement.parse text, Statement.parse text' with
  | .ok statement, .ok statement' => statement'.unplaced = statement.unplaced
  | .error _, .error _ => True
  | _, _ => False

theorem exists_parse_of_tokenKinds {text text' : String} {statement : Statement}
    (kinds : tokenKinds text' = tokenKinds text) (parsed : Statement.parse text = .ok statement) :
    ∃ statement', Statement.parse text' = .ok statement' ∧
      statement'.unplaced = statement.unplaced := by
  have respelled : tokenKinds text' = Respelling.identity.kinds false (tokenKinds text) := by
    rw [Respelling.identity_kinds, kinds]
  obtain ⟨statement', parsed', same⟩ :=
    parse_respelled respelled (Respelling.identity_keepsLabels _) parsed
  rw [Respelling.identity_names] at same
  exact ⟨statement', parsed', same⟩

/-- What a text says depends on the kinds of its tokens alone. -/
theorem readAlike_of_tokenKinds {text text' : String} (kinds : tokenKinds text' = tokenKinds text) :
    ReadAlike text text' := by
  unfold ReadAlike
  cases first : Statement.parse text with
  | ok statement =>
      obtain ⟨statement', second, same⟩ := exists_parse_of_tokenKinds kinds first
      rw [second]
      exact same
  | error reason =>
      cases second : Statement.parse text' with
      | error reason' => trivial
      | ok statement' =>
          obtain ⟨statement, first', _⟩ := exists_parse_of_tokenKinds kinds.symm second
          rw [first] at first'
          cases first'

end Sql

/-! ## Texts behind their head comment -/

namespace HeadComment

/-- A text is split behind the comment it starts with, or stays whole. -/
theorem splitChars_cases (chars : List Char) :
    (∃ inside after, trim chars = '/' :: '*' :: (inside ++ '*' :: '/' :: after) ∧
      cutAtPair '*' '/' (inside ++ '*' :: '/' :: after) = some (inside, after) ∧
      splitChars chars = (ofChars inside, trim after)) ∨
    splitChars chars = (empty, trim chars) := by
  unfold splitChars
  dsimp only
  split
  · exact .inr rfl
  · next rest _ opened =>
      split
      · next inside after closed =>
          obtain rfl := cutAtPair_eq closed
          exact .inl ⟨inside, after, opened, closed, rfl⟩
      · exact .inr rfl
  · exact .inr rfl

/-- Without its head comment a text holds the same tokens. -/
theorem tokenKinds_split (text : String) : tokenKinds (split text).2 = tokenKinds text := by
  have kinds : kindsIn (splitChars text.toList).2 = kindsIn text.toList := by
    rcases splitChars_cases text.toList with ⟨inside, after, opened, closed, cut⟩ | cut
    · have lexed : Lexed .comment ('/' :: '*' :: (inside ++ ['*', '/'])) after := .block closed
      have behind := kindsIn_of_lexed lexed (by simp)
      have whole : '/' :: '*' :: (inside ++ ['*', '/']) ++ after = trim text.toList := by
        rw [opened]
        simp
      rw [whole, kindsIn_trim] at behind
      rw [cut, kindsIn_trim, behind]
      rfl
    · rw [cut, kindsIn_trim]
  rw [tokenKinds_eq, tokenKinds_eq, ← kinds]
  exact congrArg kindsIn String.toList_ofList

/-- The statement behind the head comment is the statement of the whole text. -/
theorem readAlike_split (text : String) : ReadAlike text (split text).2 :=
  readAlike_of_tokenKinds (tokenKinds_split text)

end HeadComment

end ShardedSql
