import ShardedSql.Prepared
import ShardedSql.Proofs.WrittenText

/-!
Blanks around a statement and the comment before it, in a text with something else written in the
places of its question marks. Main statement: the written text has the same head comment, and behind
it the statement of the text with the same written in its places.
-/

namespace ShardedSql

open Sql Text Sql.Writing

/-! ## Blanks at either end -/

/-- Neither the first nor the last character is a blank. -/
structure Unpadded (chars : List Char) : Prop where
  first : ∀ c, chars.head? = some c → isBlank c = false
  last : ∀ c, chars.getLast? = some c → isBlank c = false

section Blanks

variable {chars lead trail : List Char}

theorem dropWhile_blank_of_first (first : ∀ c, chars.head? = some c → isBlank c = false) :
    chars.dropWhile isBlank = chars := by
  cases chars with
  | nil => rfl
  | cons c rest => rw [List.dropWhile_cons_of_neg (by simp [first c rfl])]

/-- Trimming takes off the blanks at either end and nothing else. -/
theorem trim_padded (leading : ∀ c ∈ lead, isBlank c = true)
    (trailing : ∀ c ∈ trail, isBlank c = true) (bare : Unpadded chars) :
    trim (lead ++ (chars ++ trail)) = chars := by
  have behind : (chars ++ trail).reverse.dropWhile isBlank = chars.reverse := by
    rw [List.reverse_append,
      List.dropWhile_append_of_pos fun c member => trailing c (List.mem_reverse.mp member)]
    apply dropWhile_blank_of_first
    rw [List.head?_reverse]
    exact bare.last
  rw [trim, List.dropWhile_append_of_pos leading]
  cases chars with
  | nil =>
      have nothing : trail.dropWhile isBlank = [] := List.dropWhile_eq_nil_iff.mpr trailing
      rw [List.nil_append, nothing]
      rfl
  | cons c rest =>
      have front : (c :: rest ++ trail).dropWhile isBlank = c :: rest ++ trail :=
        dropWhile_blank_of_first bare.first
      rw [front, behind, List.reverse_reverse]

theorem exists_padding (chars : List Char) :
    ∃ lead trail, chars = lead ++ (trim chars ++ trail) ∧ (∀ c ∈ lead, isBlank c = true) ∧
      (∀ c ∈ trail, isBlank c = true) ∧ Unpadded (trim chars) := by
  generalize bare : chars.dropWhile isBlank = behind
  have split : behind =
      (behind.reverse.dropWhile isBlank).reverse ++ (behind.reverse.takeWhile isBlank).reverse := by
    rw [← List.reverse_append, List.takeWhile_append_dropWhile, List.reverse_reverse]
  have trimmed : trim chars = (behind.reverse.dropWhile isBlank).reverse := by rw [trim, bare]
  refine ⟨chars.takeWhile isBlank, (behind.reverse.takeWhile isBlank).reverse, ?_, ?_, ?_, ?_, ?_⟩
  · rw [trimmed, ← split, ← bare, List.takeWhile_append_dropWhile]
  · intro c member
    exact List.mem_takeWhile_imp member
  · intro c member
    exact List.mem_takeWhile_imp (List.mem_reverse.mp member)
  · intro c head
    have head_behind : behind.head? = some c := by
      rw [split, ← trimmed, List.head?_append_of_ne_nil _ (by rintro none; simp [none] at head)]
      exact head
    have stop := List.head?_dropWhile_not isBlank chars
    rw [bare, head_behind] at stop
    simpa using stop
  · intro c last
    rw [trimmed, List.getLast?_reverse] at last
    have stop := List.head?_dropWhile_not isBlank behind.reverse
    rw [last] at stop
    simpa using stop

end Blanks

/-! ## Written texts between blanks -/

namespace Sql.Writing

section Padding

variable {lexeme : Lexeme} {c : Char} {w tail chars lead trail : List Char}

theorem writtenChars_leading (leading : ∀ c ∈ lead, isBlank c = true) (pieces : List (List Char))
    (chars : List Char) :
    writtenChars pieces (lead ++ chars) = lead ++ writtenChars pieces chars ∧
      kindsIn (lead ++ chars) = kindsIn chars := by
  induction lead with
  | nil => exact ⟨rfl, rfl⟩
  | cons c lead ih =>
      have blank : Lexed .blank [c] (lead ++ chars) := .blank (leading c (List.mem_cons_self ..))
      obtain ⟨same, kinds⟩ := ih fun d member => leading d (List.mem_cons_of_mem c member)
      constructor
      · have first : writtenChars pieces (c :: (lead ++ chars)) =
            c :: writtenChars pieces (lead ++ chars) :=
          writtenChars_stays blank (by simp) (by simp)
        rw [List.cons_append, first, same]
        rfl
      · have first : kindsIn (c :: (lead ++ chars)) = kindsIn (lead ++ chars) :=
          kindsIn_of_lexed blank (by simp)
        rw [List.cons_append, first, kinds]

/-- What is cut off at the end of a text stays what it is before blanks, but for a comment that ends
with its line: it takes blanks in. -/
theorem lexed_trailing (lexed : Lexed lexeme (c :: w) tail)
    (trailing : ∀ c ∈ trail, isBlank c = true) :
    Lexed lexeme (c :: w) (tail ++ trail) ∨
      lexeme = .comment ∧ tail = [] ∧
        ∃ inside more, trail = inside ++ more ∧ Lexed .comment (c :: (w ++ inside)) more := by
  by_cases closed : lexeme = .comment ∧ tail = []
  · obtain ⟨rfl, rfl⟩ := closed
    cases lexed with
    | @line line _ inside stop =>
        have whole : trail = trail.takeWhile (· ≠ '\n') ++ trail.dropWhile (· ≠ '\n') :=
          List.takeWhile_append_dropWhile.symm
        refine .inr ⟨rfl, rfl, _, _, whole, ?_⟩
        change Lexed .comment ('-' :: '-' :: (line ++ trail.takeWhile (· ≠ '\n'))) _
        apply Lexed.line
        · intro d member
          rcases List.mem_append.mp member with before | blank
          · exact inside d before
          · simpa using List.mem_takeWhile_imp blank
        · cases head : (trail.dropWhile (· ≠ '\n')).head? with
          | none => exact .inl (List.head?_eq_none_iff.mp head)
          | some d =>
              have newline := List.head?_dropWhile_not (· ≠ '\n') trail
              rw [head] at newline
              exact .inr (by simpa using newline)
    | block closes => exact .inl (.block (cutAtPair_iff.mpr (cutAtPair_iff.mp closes)))
  · have meets : Meets tail (tail ++ trail) := by
      refine .inr ⟨tail, [], trail, (List.append_nil _).symm, rfl, .inl rfl, ?_⟩
      intro d head
      exact mem_breakChars_of_blank (trailing d (List.mem_of_mem_head? head))
    exact .inl (lexed_of_meets lexed meets fun comment last => absurd ⟨comment, last⟩ closed)

theorem writtenChars_trailing (lexes : Lexes chars) (trailing : ∀ c ∈ trail, isBlank c = true)
    (pieces : List (List Char)) :
    writtenChars pieces (chars ++ trail) = writtenChars pieces chars ++ trail ∧
      kindsIn (chars ++ trail) = kindsIn chars := by
  have nothing : kindsIn [] = [] := by simp [kindsIn, lexemes]
  have blanks {trail : List Char} (trailing : ∀ c ∈ trail, isBlank c = true)
      (pieces : List (List Char)) :
      writtenChars pieces trail = trail ∧ kindsIn trail = [] := by
    have behind := writtenChars_leading trailing pieces []
    rw [writtenChars_nil, List.append_nil, nothing] at behind
    exact behind
  induction lexes generalizing pieces with
  | nil =>
      rw [writtenChars_nil, nothing]
      exact blanks trailing pieces
  | @cons lexeme c w tail lexed clear later ih =>
      rcases lexed_trailing lexed trailing with kept | ⟨rfl, rfl, inside, more, rfl, longer⟩
      · obtain ⟨piece, others, _, _, same⟩ := exists_piece clear c w pieces
        rw [List.append_assoc, kindsIn_of_lexed kept clear, kindsIn_of_lexed lexed clear,
          same _ kept, same _ lexed, (ih others).1, (ih others).2, List.append_assoc]
        exact ⟨rfl, rfl⟩
      · have behind : writtenChars pieces more = more ∧ kindsIn more = [] :=
          blanks (fun d member => trailing d (List.mem_append_right inside member)) pieces
        have whole : c :: w ++ [] ++ (inside ++ more) = c :: (w ++ inside) ++ more := by simp
        rw [whole, kindsIn_of_lexed longer clear, kindsIn_of_lexed lexed clear,
          writtenChars_stays longer clear (by simp), writtenChars_stays lexed clear (by simp),
          behind.1, behind.2, writtenChars_nil, nothing, whole]
        exact ⟨rfl, rfl⟩

/-- At either end, a written text has the character of the text or one that is no blank. -/
theorem ends_writtenChars (lexes : Lexes chars) {pieces : List (List Char)}
    (fine : ∀ piece ∈ pieces, IsPiece piece) :
    ((writtenChars pieces chars).head? = chars.head? ∨
      ∃ c ∈ breakChars, isBlank c = false ∧ (writtenChars pieces chars).head? = some c) ∧
    ((writtenChars pieces chars).getLast? = chars.getLast? ∨
      ∃ c, isBlank c = false ∧ (writtenChars pieces chars).getLast? = some c) := by
  induction lexes generalizing pieces with
  | nil =>
      rw [writtenChars_nil]
      exact ⟨.inl rfl, .inl rfl⟩
  | @cons lexeme c w tail lexed clear later ih =>
      obtain ⟨piece, others, shape, fewer, same⟩ := exists_piece clear c w pieces
      have last := (ih fun other member => fine other (fewer other member)).2
      rw [same tail lexed, List.head?_append, List.getLast?_append, List.getLast?_append]
      constructor
      · rcases shape with rfl | member
        · exact .inl rfl
        · obtain ⟨d, breaks, bare, first⟩ := (fine piece member).first
          exact .inr ⟨d, breaks, bare, by rw [first, Option.some_or]⟩
      · rcases last with kept | ⟨d, bare, found⟩
        · rw [kept]
          cases tail.getLast? with
          | some d => exact .inl rfl
          | none =>
              rcases shape with rfl | member
              · exact .inl rfl
              · exact .inr (fine piece member).last
        · exact .inr ⟨d, bare, by rw [found, Option.some_or]⟩

theorem unpadded_writtenChars (lexes : Lexes chars) (bare : Unpadded chars)
    {pieces : List (List Char)} (fine : ∀ piece ∈ pieces, IsPiece piece) :
    Unpadded (writtenChars pieces chars) := by
  obtain ⟨first, last⟩ := ends_writtenChars lexes fine
  constructor
  · intro c head
    rcases first with same | ⟨d, _, bare_here, found⟩
    · exact bare.first c (same ▸ head)
    · rw [found] at head
      cases head
      exact bare_here
  · intro c head
    rcases last with same | ⟨d, bare_here, found⟩
    · exact bare.last c (same ▸ head)
    · rw [found] at head
      cases head
      exact bare_here

/-- Trimming a written text is writing into the trimmed text. -/
theorem trim_writtenChars (lexes : Lexes (trim chars)) {pieces : List (List Char)}
    (fine : ∀ piece ∈ pieces, IsPiece piece) :
    trim (writtenChars pieces chars) = writtenChars pieces (trim chars) ∧
      kindsIn chars = kindsIn (trim chars) := by
  obtain ⟨lead, trail, whole, leading, trailing, bare⟩ := exists_padding chars
  generalize trim chars = inner at whole lexes bare ⊢
  have front := writtenChars_leading leading pieces (inner ++ trail)
  have back := writtenChars_trailing lexes trailing pieces
  rw [whole, front.1, front.2, back.1, back.2]
  exact ⟨trim_padded leading trailing (unpadded_writtenChars lexes bare fine), rfl⟩

theorem clear_of_lexes (lexes : Lexes chars) (reason : LexError) :
    .error reason ∉ kindsIn chars := by
  induction lexes with
  | nil => simp [kindsIn, lexemes]
  | @cons lexeme c w tail lexed clear later ih =>
      rw [kindsIn_of_lexed lexed clear, List.mem_append]
      rintro (here | behind)
      · cases lexeme with
        | token kind =>
            have failed : .error reason = kind := List.mem_singleton.mp here
            exact clear reason (congrArg Lexeme.token failed.symm)
        | blank => cases here
        | comment => cases here
      · exact ih behind

/-- What starts with a slash is a block comment or the symbol. -/
theorem lexed_slash (lexed : Lexed lexeme ('/' :: w) tail)
    (clear : ∀ reason, lexeme ≠ .token (.error reason)) :
    (∃ inside, w = '*' :: (inside ++ ['*', '/']) ∧
      cutAtPair '*' '/' (inside ++ '*' :: '/' :: tail) = some (inside, tail)) ∨
      w = [] ∧ tail.head? ≠ some '*' := by
  cases lexed with
  | @block inside _ closes => exact .inl ⟨inside, rfl, closes⟩
  | symbol bare comment symbol =>
      rcases symbolAt_cases symbol with ⟨d, rfl, double⟩ | ⟨rfl, _, _⟩
      · cases double
      · refine .inr ⟨rfl, ?_⟩
        intro star
        cases tail with
        | nil => cases star
        | cons d rest =>
            cases star
            simp only [List.nil_append, commentAt] at comment
            split at comment <;> cases comment
  | blank blank => exact absurd blank (by decide)
  | quotedName opens => exact absurd opens (by decide)
  | blob marker => exact absurd marker (by decide)
  | number digit => exact absurd digit (by decide)
  | word starts => exact absurd starts (by decide)
  | error reason => exact absurd rfl (clear reason)

/-- A written text opens a comment only where the text does. -/
theorem comment_of_writtenChars (lexes : Lexes chars) {pieces : List (List Char)}
    (fine : ∀ piece ∈ pieces, IsPiece piece) {body : List Char}
    (opened : writtenChars pieces chars = '/' :: '*' :: body) :
    ∃ inside tail others, chars = '/' :: '*' :: (inside ++ '*' :: '/' :: tail) ∧
      cutAtPair '*' '/' (inside ++ '*' :: '/' :: tail) = some (inside, tail) ∧
      body = inside ++ '*' :: '/' :: writtenChars others tail := by
  cases lexes with
  | nil =>
      rw [writtenChars_nil] at opened
      cases opened
  | @cons lexeme c w tail lexed clear later =>
      obtain ⟨piece, others, rfl | member, fewer, same⟩ := exists_piece clear c w pieces
      · rw [same tail lexed] at opened
        obtain ⟨rfl, behind⟩ := List.cons.inj opened
        rcases lexed_slash lexed clear with ⟨inside, rfl, closes⟩ | ⟨rfl, no_star⟩
        · refine ⟨inside, tail, others, by simp, closes, ?_⟩
          rw [← (List.cons.inj behind).2]
          simp
        · change writtenChars others tail = '*' :: body at behind
          have ends := ends_writtenChars later fun other member => fine other (fewer other member)
          rw [behind] at ends
          rcases ends.1 with kept | ⟨d, breaks, _, found⟩
          · exact absurd kept.symm no_star
          · cases found
            exact absurd breaks (by decide +kernel)
      · obtain ⟨d, breaks, _, first⟩ := (fine piece member).first
        have head := congrArg List.head? opened
        rw [same tail lexed, List.head?_append, first] at head
        cases head
        exact absurd breaks (by decide +kernel)

end Padding

end Sql.Writing

/-! ## The head comment of a written text -/

namespace HeadComment

open Sql.Writing

variable {chars rest inside after : List Char} {pieces : List (List Char)}

theorem splitChars_comment (opened : trim chars = '/' :: '*' :: rest)
    (no_hint : rest.head? ≠ some '+') (closed : cutAtPair '*' '/' rest = some (inside, after)) :
    splitChars chars = (ofChars inside, trim after) := by
  unfold splitChars
  cases rest with
  | nil => simp_all
  | cons c rest =>
      have other : c ≠ '+' := by simpa using no_hint
      simp_all

theorem splitChars_whole (unclosed : ∀ rest, trim chars = '/' :: '*' :: rest →
    rest.head? = some '+' ∨ cutAtPair '*' '/' rest = none) :
    splitChars chars = (empty, trim chars) := by
  unfold splitChars
  dsimp only
  split
  · rfl
  · next rest not_hint opened =>
      rcases unclosed rest opened with hint | unclosed
      · cases rest with
        | nil => cases hint
        | cons c rest =>
            cases hint
            exact (not_hint rest rfl).elim
      · rw [unclosed]
  · rfl

theorem splitChars_written_comment (opened : trim chars = '/' :: '*' :: rest)
    (no_hint : rest.head? ≠ some '+') (closed : cutAtPair '*' '/' rest = some (inside, after))
    (lexes : Lexes (trim after)) (fine : ∀ piece ∈ pieces, IsPiece piece) :
    splitChars (writtenChars pieces chars) = (ofChars inside, writtenChars pieces (trim after)) ∧
      kindsIn chars = kindsIn (trim after) := by
  obtain rfl := cutAtPair_eq closed
  obtain ⟨inner, inner_kinds⟩ := trim_writtenChars lexes fine
  have lexed : Lexed .comment ('/' :: '*' :: (inside ++ ['*', '/'])) after := .block closed
  have whole : trim chars = '/' :: '*' :: (inside ++ ['*', '/']) ++ after := by
    rw [opened]
    simp
  have lexes_after : Lexes after := by
    apply lexes_of_clear
    rw [inner_kinds]
    exact clear_of_lexes lexes
  have lexes_whole : Lexes (trim chars) := by
    rw [whole]
    exact .cons lexed (by simp) lexes_after
  obtain ⟨outer, outer_kinds⟩ := trim_writtenChars lexes_whole fine
  rw [whole, writtenChars_stays lexed (by simp) (by simp)] at outer
  rw [whole, kindsIn_of_lexed lexed (by simp)] at outer_kinds
  have opened' : trim (writtenChars pieces chars) =
      '/' :: '*' :: (inside ++ '*' :: '/' :: writtenChars pieces after) := by
    rw [outer]
    simp
  constructor
  · rw [← inner]
    apply splitChars_comment opened'
    · cases inside with
      | nil => simp
      | cons c inside => exact no_hint
    · exact cutAtPair_iff.mpr (cutAtPair_iff.mp closed)
  · exact outer_kinds.trans inner_kinds

theorem splitChars_written_whole (unclosed : ∀ rest, trim chars = '/' :: '*' :: rest →
    rest.head? = some '+' ∨ cutAtPair '*' '/' rest = none) (lexes : Lexes (trim chars))
    (fine : ∀ piece ∈ pieces, IsPiece piece) :
    splitChars (writtenChars pieces chars) = (empty, writtenChars pieces (trim chars)) ∧
      kindsIn chars = kindsIn (trim chars) := by
  obtain ⟨same, kinds⟩ := trim_writtenChars lexes fine
  constructor
  · rw [← same]
    apply splitChars_whole
    rw [same]
    intro rest opened
    obtain ⟨inside, tail, others, text, closed, rfl⟩ := comment_of_writtenChars lexes fine opened
    rcases unclosed _ text with hint | unclosed
    · cases inside with
      | nil => cases hint
      | cons c inside => exact .inl hint
    · rw [unclosed] at closed
      cases closed
  · exact kinds

/-- A written text has the head comment of the text, before the written statement. -/
theorem splitChars_writtenChars {head : HeadComment} {body : List Char}
    (cut : splitChars chars = (head, body)) (lexes : Lexes body)
    (fine : ∀ piece ∈ pieces, IsPiece piece) :
    splitChars (writtenChars pieces chars) = (head, writtenChars pieces body) ∧
      kindsIn chars = kindsIn body := by
  by_cases comment : ∃ rest inside after, trim chars = '/' :: '*' :: rest ∧
      rest.head? ≠ some '+' ∧ cutAtPair '*' '/' rest = some (inside, after)
  · obtain ⟨rest, inside, after, opened, no_hint, closed⟩ := comment
    rw [splitChars_comment opened no_hint closed] at cut
    cases cut
    exact splitChars_written_comment opened no_hint closed lexes fine
  · have unclosed (rest : List Char) (opened : trim chars = '/' :: '*' :: rest) :
        rest.head? = some '+' ∨ cutAtPair '*' '/' rest = none := by
      by_contra neither
      rw [not_or] at neither
      obtain ⟨⟨inside, after⟩, closed⟩ := Option.ne_none_iff_exists'.mp neither.2
      exact comment ⟨rest, inside, after, opened, neither.1, closed⟩
    rw [splitChars_whole unclosed] at cut
    cases cut
    exact splitChars_written_whole unclosed lexes fine

/-- Something else written in the places of the question marks of a text is written in those of its
statement: the head comment stays. -/
theorem split_writtenText {text body : String} {head : HeadComment} {parsed : Statement}
    (cut : split text = (head, body)) (read : Statement.parse body = .ok parsed)
    (fine : ∀ piece ∈ pieces, IsPiece piece) :
    split (writtenText pieces text) = (head, writtenText pieces body) ∧
      tokenKinds text = tokenKinds body := by
  have lexes := lexes_of_parse read
  unfold split at cut ⊢
  cases found : splitChars text.toList with
  | mk front rest =>
      rw [found] at cut
      cases cut
      rw [String.toList_ofList] at lexes
      obtain ⟨same, kinds⟩ := splitChars_writtenChars found lexes fine
      rw [writtenText, String.toList_ofList, same, writtenText, tokenKinds_eq, tokenKinds_eq,
        String.toList_ofList]
      exact ⟨rfl, kinds⟩

end HeadComment

end ShardedSql
