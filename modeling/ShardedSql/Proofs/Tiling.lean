import ShardedSql.Proofs.RenamedTokens

/-!
The places of tokens. A text is laid out in tokens and in what separates them: blanks, comments to
the end of a line, and closed block comments. Main statement: the tokens of any text stand in it one
behind the other, each at least one character long and cut between characters, with nothing but such
trivia before, between and behind them; the end is the last token and the only one of its kind, and
whoever asks for more tokens gets the end again.
-/

namespace ShardedSql

open Sql Text

namespace Text

/-! ## Cuts at the ends of characters -/

theorem splitBytes_append_eq (before after : List Char) :
    splitBytes (byteLength before) (before ++ after) = some (before, after) := by
  induction before with
  | nil => cases after <;> rfl
  | cons c before ih =>
      have positive := c.utf8Size_pos
      have some_bytes : c.utf8Size + byteLength before ≠ 0 := by omega
      have whole : ¬ c.utf8Size + byteLength before < c.utf8Size := by omega
      rw [List.cons_append, byteLength, splitBytes, if_neg some_bytes, if_neg whole,
        Nat.add_sub_cancel_left, ih]
      rfl

theorem slice?_of_append {text : String} {before covered after : List Char}
    (whole : text.toList = before ++ (covered ++ after)) :
    slice? text (byteLength before) (byteLength before + byteLength covered) =
      some (String.ofList covered) := by
  simp [slice?, whole, splitBytes_append_eq]

theorem byteLength_pos {c : Char} {rest : List Char} : 0 < byteLength (c :: rest) :=
  Nat.add_pos_left c.utf8Size_pos _

end Text

namespace Sql

/-! ## Trivia -/

/-- Blanks and comments in a row. A line comment goes on to the end of its line; only where the text
ends may it go without one. -/
inductive Trivia (ends : Prop) : List Char → Prop where
  | nil : Trivia ends []
  | blank {c : Char} {rest : List Char} (blank : isBlank c = true) (later : Trivia ends rest) :
      Trivia ends (c :: rest)
  | line {line rest : List Char} (inside : '\n' ∉ line) (later : Trivia ends rest) :
      Trivia ends ('-' :: '-' :: (line ++ '\n' :: rest))
  | lastLine {line : List Char} (inside : '\n' ∉ line) (last : ends) :
      Trivia ends ('-' :: '-' :: line)
  | block {inside rest : List Char} (closed : ¬ ['*', '/'] <:+: inside)
      (later : Trivia ends rest) :
      Trivia ends ('/' :: '*' :: (inside ++ '*' :: '/' :: rest))

theorem Trivia.imp {p q : Prop} {gap : List Char} (imp : p → q) (trivia : Trivia p gap) :
    Trivia q gap := by
  induction trivia with
  | nil => exact .nil
  | blank blank _ ih => exact .blank blank ih
  | line inside _ ih => exact .line inside ih
  | lastLine inside last => exact .lastLine inside (imp last)
  | block closed _ ih => exact .block closed ih

section Gap

variable {ends : Prop} {lexeme : Lexeme} {covered gap after : List Char}

theorem Trivia.of_newline {rest : List Char} (trivia : Trivia ends ('\n' :: rest)) :
    Trivia ends rest := by
  cases trivia with
  | blank _ later => exact later

/-- A lexeme that is no token is trivia, and so it is with the trivia behind it. What follows is no
blank, so that the end of a line comment's line is seen. -/
theorem Trivia.passed (lexed : Lexed lexeme covered (gap ++ after))
    (passed : ∀ kind, lexeme ≠ .token kind) (trivia : Trivia ends gap)
    (last : gap ++ after = [] → ends) (bare : ∀ c, after.head? = some c → isBlank c = false) :
    Trivia ends (covered ++ gap) := by
  cases lexed with
  | blank blank => exact .blank blank trivia
  | @line line _ inside stop =>
      have inside : '\n' ∉ line := fun member => inside _ member rfl
      cases gap with
      | nil =>
          rcases stop with nothing | newline
          · simpa using Trivia.lastLine inside (last nothing)
          · cases bare _ newline
      | cons c gap =>
          rcases stop with nothing | newline
          · cases nothing
          · cases newline
            simpa using Trivia.line inside trivia.of_newline
  | @block inside _ closes =>
      have closed := unclosed_iff.mp (cutAtPair_iff.mp closes)
      simpa using Trivia.block closed trivia
  | symbol => exact absurd rfl (passed _)
  | string => exact absurd rfl (passed _)
  | quotedName => exact absurd rfl (passed _)
  | blob => exact absurd rfl (passed _)
  | number => exact absurd rfl (passed _)
  | word => exact absurd rfl (passed _)
  | error => exact absurd rfl (passed _)

end Gap

/-! ## Tokens from a place on -/

/-- The tokens of characters, the first of which stands at `offset`. -/
def tokensFrom (offset : Nat) (chars : List Char) : List Token :=
  (placed offset (lexemes chars)).filterMap asToken

theorem kinds_tokensFrom (offset : Nat) (chars : List Char) :
    (tokensFrom offset chars).map (·.kind) = kindsIn chars :=
  kinds_placed offset (lexemes chars)

theorem kind_ne_eof {offset : Nat} {chars : List Char} {token : Token}
    (member : token ∈ tokensFrom offset chars) : token.kind ≠ .eof := by
  intro same
  apply eof_not_mem_kindsIn chars
  rw [← kinds_tokensFrom offset, ← same]
  exact List.mem_map_of_mem member

section Cons

variable (offset : Nat) {c : Char} {rest : List Char}

theorem tokensFrom_nil : tokensFrom offset [] = [] := by
  simp [tokensFrom, lexemes, placed]

theorem tokensFrom_token {kind : TokenKind} (cut : (cutAtHead c rest).lexeme = .token kind) :
    tokensFrom offset (c :: rest) =
      ⟨kind, ⟨offset, offset + byteLength (c :: rest.take (cutAtHead c rest).extra)⟩⟩ ::
        tokensFrom (offset + byteLength (c :: rest.take (cutAtHead c rest).extra))
          (rest.drop (cutAtHead c rest).extra) := by
  rw [tokensFrom, lexemes]
  simp only [cut, placed]
  rfl

theorem tokensFrom_passed (cut : ∀ kind, (cutAtHead c rest).lexeme ≠ .token kind) :
    tokensFrom offset (c :: rest) =
      tokensFrom (offset + byteLength (c :: rest.take (cutAtHead c rest).extra))
        (rest.drop (cutAtHead c rest).extra) := by
  rw [tokensFrom, lexemes]
  cases lexeme : (cutAtHead c rest).lexeme with
  | token kind => exact absurd lexeme (cut kind)
  | blank =>
      simp only [placed]
      rfl
  | comment =>
      simp only [placed]
      rfl

theorem byteLength_cut (c : Char) (rest : List Char) (count : Nat) :
    byteLength (c :: rest.take count) + byteLength (rest.drop count) = byteLength (c :: rest) := by
  rw [← byteLength_append, List.cons_append, List.take_append_drop]

theorem isBlank_of_token {kind : TokenKind} (cut : (cutAtHead c rest).lexeme = .token kind) :
    isBlank c = false := by
  unfold cutAtHead at cut
  split at cut
  · cases cut
  · next bare => exact Bool.eq_false_iff.mpr bare

end Cons

/-! ## The layout of a text -/

/-- Characters from `offset` on in tokens, none of which starts with a blank, and trivia. -/
inductive Tiled : Nat → List Char → List Token → Prop where
  | last {offset : Nat} {gap : List Char} (trivia : Trivia True gap) : Tiled offset gap []
  | token {offset start stop : Nat} {gap w rest : List Char} {c : Char} {kind : TokenKind}
      {tokens : List Token} (trivia : Trivia False gap) (bare : isBlank c = false)
      (starts : start = offset + byteLength gap) (stops : stop = start + byteLength (c :: w))
      (later : Tiled stop rest tokens) :
      Tiled offset (gap ++ (c :: w ++ rest)) (⟨kind, ⟨start, stop⟩⟩ :: tokens)

theorem Tiled.passed {offset : Nat} {lexeme : Lexeme} {covered rest : List Char}
    {tokens : List Token} (lexed : Lexed lexeme covered rest)
    (passed : ∀ kind, lexeme ≠ .token kind)
    (tiled : Tiled (offset + byteLength covered) rest tokens) :
    Tiled offset (covered ++ rest) tokens := by
  cases tiled with
  | last trivia =>
      rw [← List.append_nil rest] at lexed
      exact .last (trivia.passed lexed passed (fun _ => .intro) nofun)
  | @token _ start stop gap w rest c kind tokens trivia bare starts stops later =>
      have more : Trivia False (covered ++ gap) := by
        refine trivia.passed lexed passed (by simp) ?_
        rintro d ⟨⟩
        exact bare
      rw [← List.append_assoc]
      exact .token more bare (by rw [starts, byteLength_append, Nat.add_assoc]) stops later

theorem tiled_tokensFrom (offset : Nat) (chars : List Char) :
    Tiled offset chars (tokensFrom offset chars) := by
  induction chars using lexemes.induct generalizing offset with
  | case1 =>
      rw [tokensFrom_nil]
      exact .last .nil
  | case2 c rest cut ih =>
      have whole : c :: rest = c :: rest.take cut.extra ++ rest.drop cut.extra := by simp
      by_cases token : ∃ kind, (cutAtHead c rest).lexeme = .token kind
      · obtain ⟨kind, token⟩ := token
        rw [tokensFrom_token _ token, whole,
          ← List.nil_append (c :: rest.take cut.extra ++ rest.drop cut.extra)]
        exact .token .nil (isBlank_of_token token) rfl rfl (ih _)
      · have passed := not_exists.mp token
        rw [tokensFrom_passed _ passed, whole]
        exact .passed (lexed_cutAtHead c rest) passed (ih _)

/-- A span of one byte or more that takes whole characters of the text. -/
def Covers (text : String) (span : Span) : Prop :=
  span.start < span.stop ∧ (span.slice? text).isSome = true

/-- From the end of one span to the start of the other there is trivia. Only if that is the end of
the text, the trivia may end in a line comment. -/
def Parted (text : String) (left right : Span) : Prop :=
  ∃ gap, slice? text left.stop right.start = some gap ∧
    Trivia (right.start = byteLength text.toList) gap.toList

section Layout

variable {text : String} {offset : Nat} {front chars : List Char} {tokens : List Token}

theorem Tiled.covers (tiled : Tiled offset chars tokens) (whole : text.toList = front ++ chars)
    (place : offset = byteLength front) : ∀ token ∈ tokens, Covers text token.span := by
  induction tiled generalizing front with
  | last => simp
  | @token offset start stop gap w rest c kind tokens _ _ starts stops _ ih =>
      have before : start = byteLength (front ++ gap) := by rw [byteLength_append, starts, place]
      have covered : text.toList = front ++ gap ++ (c :: w ++ rest) := by simp [whole]
      rw [List.forall_mem_cons]
      constructor
      · constructor
        · exact stops ▸ Nat.lt_add_of_pos_right byteLength_pos
        · rw [Span.slice?, stops, before, slice?_of_append covered]
          rfl
      · have behind : text.toList = front ++ gap ++ c :: w ++ rest := by
          rw [covered, List.append_assoc _ (c :: w)]
        exact ih behind (by rw [byteLength_append, stops, before])

theorem Tiled.parted (tiled : Tiled offset chars tokens) (whole : text.toList = front ++ chars)
    (place : offset = byteLength front) {left : Span} (behind : left.stop = offset) :
    (left :: (tokens.map (·.span) ++ [.point (byteLength text.toList)])).IsChain (Parted text) := by
  induction tiled generalizing front left with
  | @last offset gap trivia =>
      have covered : text.toList = front ++ (gap ++ []) := by simp [whole]
      have text_end : byteLength text.toList = byteLength front + byteLength gap := by
        rw [whole, byteLength_append]
      refine .cons_cons ⟨String.ofList gap, ?_, ?_⟩ (.singleton _)
      · rw [behind, place, Span.point, text_end, slice?_of_append covered]
      · rw [String.toList_ofList]
        exact trivia.imp fun _ => rfl
  | @token offset start stop gap w rest c kind tokens trivia _ starts stops _ ih =>
      have covered : text.toList = front ++ (gap ++ (c :: w ++ rest)) := whole
      refine .cons_cons ⟨String.ofList gap, ?_, ?_⟩ ?_
      · rw [behind, starts, place, slice?_of_append covered]
      · rw [String.toList_ofList]
        exact trivia.imp False.elim
      · have later : text.toList = front ++ gap ++ c :: w ++ rest := by simp [whole]
        exact ih later (by rw [byteLength_append, byteLength_append, stops, starts, place]) rfl

theorem Tiled.inside (tiled : Tiled offset chars tokens) :
    ∀ token ∈ tokens, offset ≤ token.span.start ∧
      token.span.stop ≤ offset + byteLength chars := by
  induction tiled with
  | last => simp
  | @token offset start stop gap w rest c kind tokens _ _ starts stops _ ih =>
      rw [List.forall_mem_cons, byteLength_append, byteLength_append]
      constructor
      · dsimp only
        omega
      · intro token member
        have := ih token member
        omega

theorem Tiled.ordered (tiled : Tiled offset chars tokens) :
    tokens.Pairwise fun left right => left.span.stop ≤ right.span.start := by
  induction tiled with
  | last => exact .nil
  | token _ _ _ _ later ih => exact .cons (fun token member => (later.inside token member).1) ih

end Layout

/-! ## Asking for tokens one at a time -/

namespace Lexer

/-- Where the text ends. -/
def stop (lexer : Lexer) : Nat :=
  lexer.offset + byteLength lexer.rest

/-- The first of the tokens that are left comes next, and the end once there is none. -/
theorem next_cases (lexer : Lexer) :
    (tokensFrom lexer.offset lexer.rest = [] ∧
      lexer.next = (⟨.eof, .point lexer.stop⟩, ⟨lexer.stop, []⟩)) ∨
    ∃ token later,
      tokensFrom lexer.offset lexer.rest = token :: tokensFrom later.offset later.rest ∧
      lexer.next = (token, later) ∧ token.kind ≠ .eof ∧ later.stop = lexer.stop := by
  induction lexer using next.induct with
  | case1 offset => exact .inl ⟨tokensFrom_nil _, by simp [next, stop, byteLength]⟩
  | case2 offset c rest cut kind token =>
      have first := tokensFrom_token offset token
      refine .inr ⟨_, _, first, next_token token, kind_ne_eof (first ▸ List.mem_cons_self), ?_⟩
      simp only [stop, Nat.add_assoc, byteLength_cut]
  | case3 offset c rest cut behind passed ih =>
      have same : stop ⟨behind, rest.drop cut.extra⟩ = stop ⟨offset, c :: rest⟩ := by
        simp only [stop, behind, Nat.add_assoc, cut, byteLength_cut]
      rw [tokensFrom_passed _ passed, next_passed passed, ← same]
      exact ih

theorem take_end (place count : Nat) :
    take count ⟨place, []⟩ = List.replicate count ⟨.eof, .point place⟩ := by
  induction count with
  | zero => rfl
  | succ count ih => rw [take, next, ih, List.replicate_succ]

/-- Induction along the tokens that are left: there is only the end, or one comes next and the end
of the text stays where it is. -/
@[elab_as_elim]
theorem tokens_induction {motive : Lexer → List Token → Prop}
    (ended : ∀ lexer, tokensFrom lexer.offset lexer.rest = [] →
      lexer.next = (⟨.eof, .point lexer.stop⟩, ⟨lexer.stop, []⟩) →
      motive lexer [⟨.eof, .point lexer.stop⟩])
    (cons : ∀ lexer token later,
      tokensFrom lexer.offset lexer.rest = token :: tokensFrom later.offset later.rest →
      lexer.next = (token, later) → later.stop = lexer.stop → motive later later.tokens →
      motive lexer (token :: later.tokens))
    (lexer : Lexer) : motive lexer lexer.tokens := by
  induction lexer using tokens.induct with
  | case1 lexer token last =>
      rcases next_cases lexer with ⟨nothing, next⟩ | ⟨_, _, _, next, other, _⟩
      · rw [tokens, if_pos last, next]
        exact ended lexer nothing next
      · exact absurd ((congrArg (·.1.kind) next).symm.trans last) other
  | case2 lexer token other ih =>
      rcases next_cases lexer with ⟨_, next⟩ | ⟨first, later, left, next, _, same⟩
      · exact absurd (congrArg (·.1.kind) next) other
      · rw [next] at ih
        rw [tokens, if_neg other, next]
        exact cons lexer first later left next same ih

/-- Asking up to the end gives all the tokens that are left. -/
theorem tokens_eq (lexer : Lexer) :
    lexer.tokens = tokensFrom lexer.offset lexer.rest ++ [⟨.eof, .point lexer.stop⟩] := by
  induction lexer using tokens_induction with
  | ended lexer nothing _ => rw [nothing, List.nil_append]
  | cons lexer token later left _ same ih => rw [ih, left, same, List.cons_append]

/-- Asking for more tokens than there are gives the end as often as one asks. -/
theorem take_tokens (lexer : Lexer) (extra : Nat) :
    lexer.take (lexer.tokens.length + extra) =
      lexer.tokens ++ List.replicate extra ⟨.eof, .point lexer.stop⟩ := by
  induction lexer using tokens_induction with
  | ended lexer _ next =>
      rw [List.length_singleton, Nat.add_comm, take, next, take_end]
      rfl
  | cons lexer token later _ next same ih =>
      rw [List.length_cons, Nat.add_right_comm, take, next, ih, same, List.cons_append]

end Lexer

theorem tokenize_eq (text : String) : tokenize text = textTokens text ++ [endToken text] := by
  rw [tokenize, Lexer.tokens_eq, Lexer.stop, Lexer.ofText, Nat.zero_add]
  rfl

/-- A text is tokens and trivia, with the end as its last token, for as long as one asks. -/
theorem tokenize_tiles (text : String) :
    ∃ tokens, tokenize text = tokens ++ [endToken text] ∧
      (∀ token ∈ tokens, token.kind ≠ .eof ∧ Covers text token.span) ∧
      ((tokenize text).Pairwise fun left right => left.span.stop ≤ right.span.start) ∧
      (.point 0 :: (tokenize text).map (·.span)).IsChain (Parted text) ∧
      ∀ extra, firstTokens ((tokenize text).length + extra) text =
        tokenize text ++ List.replicate extra (endToken text) := by
  have tiled : Tiled 0 text.toList (textTokens text) := tiled_tokensFrom 0 text.toList
  have whole : text.toList = [] ++ text.toList := rfl
  refine ⟨textTokens text, tokenize_eq text, fun token member => ?_, ?_, ?_, fun extra => ?_⟩
  · exact ⟨kind_ne_eof member, tiled.covers whole rfl token member⟩
  · rw [tokenize_eq, List.pairwise_append]
    refine ⟨tiled.ordered, List.pairwise_singleton _ _, fun token member last last_member => ?_⟩
    rw [List.mem_singleton.mp last_member]
    simpa [endToken, Span.point] using (tiled.inside token member).2
  · rw [tokenize_eq, List.map_append]
    exact tiled.parted whole rfl rfl
  · have asked := Lexer.take_tokens (.ofText text) extra
    rw [Lexer.stop, Lexer.ofText, Nat.zero_add] at asked
    exact asked

end Sql

end ShardedSql
