import ShardedSql.Proofs.FilledTokens
import ShardedSql.Proofs.RenamedTokens
import ShardedSql.Proofs.RespelledStatement

/-!
Texts with something else written in the places of question marks. Nothing that is cut off before a
question mark goes on with what may stand in its place. Main statement: such a text has the tokens
of the text, but for the question marks the tokens of what is written in their places.
-/

namespace ShardedSql.Sql

open Numeric Text

/-- The characters of lexemes with texts in the places of question marks, as far as there are
any. -/
def writtenPieces : List (List Char) → List (Lexeme × List Char) → List Char
  | _, [] => []
  | pieces, (lexeme, covered) :: rest =>
      if lexeme = .token (.symbol .question) then
        match pieces with
        | piece :: pieces => piece ++ writtenPieces pieces rest
        | [] => covered ++ writtenPieces [] rest
      else covered ++ writtenPieces pieces rest

/-- The characters of a text with the pieces in the places of its question marks. -/
def writtenChars (pieces : List (List Char)) (chars : List Char) : List Char :=
  writtenPieces pieces (lexemes chars)

def writtenText (pieces : List (List Char)) (text : String) : String :=
  String.ofList (writtenChars pieces text.toList)

/-- The kinds of tokens with others in the places of question marks, as far as there are any. -/
def writtenKinds : List (List TokenKind) → List TokenKind → List TokenKind
  | _, [] => []
  | pieces, kind :: rest =>
      if kind = .symbol .question then
        match pieces with
        | piece :: pieces => piece ++ writtenKinds pieces rest
        | [] => kind :: writtenKinds [] rest
      else kind :: writtenKinds pieces rest

namespace Writing

open Filling (allMarks allMarks_other)

/-! ## Texts that part at a question mark or at the end -/

/-- The code points of the blanks. -/
def blankCodes : List Nat :=
  [0x9, 0xA, 0xB, 0xC, 0xD, 0x20, 0x85, 0xA0, 0x1680, 0x2000, 0x2001, 0x2002, 0x2003, 0x2004,
    0x2005, 0x2006, 0x2007, 0x2008, 0x2009, 0x200A, 0x2028, 0x2029, 0x202F, 0x205F, 0x3000]

/-- Blanks, the question mark and the opening parenthesis: no word, number or symbol goes on with
one of them. -/
def breakChars : List Char :=
  '?' :: '(' :: blankCodes.map Char.ofNat

/-- The characters behind the first one of a number, a symbol or a mark of a comment, and quotes. -/
def joinChars : List Char :=
  ['.', 'e', 'E', '+', '-', '*', '=', '<', '>', '|', '\'', '"', '\x60']

theorem inRanges_of_break {c : Char} (breaks : c ∈ breakChars) :
    inRanges alphabeticRanges c = false ∧ inRanges numericRanges c = false := by
  have outside : (breakChars.all fun c =>
      !(inRanges alphabeticRanges c || inRanges numericRanges c)) = true := by
    simp only [inRanges, ← Array.any_toList]
    decide +kernel
  simpa using List.all_eq_true.mp outside c breaks

theorem breakChars_apart {c : Char} (breaks : c ∈ breakChars) :
    isWordChar c = false ∧ c.isDigit = false ∧ c ∉ joinChars := by
  have ascii : (breakChars.all fun c =>
      !(c.isAlpha || c.isDigit || (c == '_' || c == '$') || joinChars.contains c)) = true := by
    decide +kernel
  have apart := List.all_eq_true.mp ascii c breaks
  simp only [Bool.not_or, Bool.and_eq_true, Bool.not_eq_true', List.contains_eq_mem,
    decide_eq_false_iff_not] at apart
  obtain ⟨⟨⟨letter, digit⟩, sign⟩, joins⟩ := apart
  obtain ⟨alphabetic, numeric⟩ := inRanges_of_break breaks
  have word : isWordChar c = false := by
    rw [isWordChar, Bool.or_assoc, isAlphanumeric, isAlphabetic, isNumeric, letter, digit,
      alphabetic, numeric]
    simpa using sign
  exact ⟨word, digit, joins⟩

theorem mem_breakChars_of_blank {c : Char} (blank : isBlank c = true) : c ∈ breakChars := by
  have code : c.toNat ∈ blankCodes := by
    simp only [isBlank, Bool.or_eq_true, Bool.and_eq_true, decide_eq_true_eq, beq_iff_eq] at blank
    simp only [blankCodes, List.mem_cons, List.not_mem_nil, or_false]
    omega
  have listed : Char.ofNat c.toNat ∈ blankCodes.map Char.ofNat := List.mem_map_of_mem code
  rw [Char.ofNat_toNat] at listed
  exact List.mem_cons_of_mem _ (List.mem_cons_of_mem _ listed)

/-- Nothing at all, or something that begins with a break. -/
def Breaks (chars : List Char) : Prop :=
  ∀ c, chars.head? = some c → c ∈ breakChars

/-- The second text is the first one up to some place, where it breaks. -/
def BreaksOff (chars chars' : List Char) : Prop :=
  ∃ x y y', chars = x ++ y ∧ chars' = x ++ y' ∧ Breaks y'

/-- The second text is the first one up to a question mark or the end, where it breaks. -/
def Meets (chars chars' : List Char) : Prop :=
  chars' = chars ∨
    ∃ x y y', chars = x ++ y ∧ chars' = x ++ y' ∧ (y = [] ∨ y.head? = some '?') ∧ Breaks y'

section Texts

variable {c : Char} {w tail tail' chars chars' : List Char}

theorem breaks_of_parting {y : List Char} (parting : y = [] ∨ y.head? = some '?') : Breaks y := by
  intro c head
  rcases parting with rfl | question
  · cases head
  · rw [question] at head
    cases head
    exact List.mem_cons_self ..

theorem Meets.append (w : List Char) (meets : Meets tail tail') :
    Meets (w ++ tail) (w ++ tail') := by
  rcases meets with rfl | ⟨x, y, y', rfl, rfl, parting, breaks⟩
  · exact .inl rfl
  · exact .inr ⟨w ++ x, y, y', by simp, by simp, parting, breaks⟩

theorem Meets.breaksOff (meets : Meets chars chars') : BreaksOff chars chars' := by
  rcases meets with rfl | ⟨x, y, y', whole, whole', _, breaks⟩
  · exact ⟨chars', [], [], (List.append_nil _).symm, (List.append_nil _).symm, nofun⟩
  · exact ⟨x, y, y', whole, whole', breaks⟩

theorem BreaksOff.append (w : List Char) (breaks : BreaksOff tail tail') :
    BreaksOff (w ++ tail) (w ++ tail') := by
  obtain ⟨x, y, y', rfl, rfl, breaks⟩ := breaks
  exact ⟨w ++ x, y, y', by simp, by simp, breaks⟩

/-- The second text starts with a character that is no break if the first one does. -/
theorem BreaksOff.head_eq (breaks : BreaksOff chars chars') {c : Char}
    (head : chars'.head? = some c) (other : c ∉ breakChars) : chars.head? = some c := by
  obtain ⟨x, y, y', rfl, rfl, breaks⟩ := breaks
  cases x with
  | nil => exact absurd (breaks c head) other
  | cons d x => exact head

theorem BreaksOff.head_cases (breaks : BreaksOff chars chars') :
    chars'.head? = chars.head? ∨ Breaks chars' := by
  obtain ⟨x, y, y', rfl, rfl, breaks⟩ := breaks
  cases x with
  | nil => exact .inr breaks
  | cons d x => exact .inl rfl

theorem not_mem_breakChars (joins : c ∈ joinChars) : c ∉ breakChars :=
  fun breaks => (breakChars_apart breaks).2.2 joins

theorem commentAt_of_breaksOff {rest rest' : List Char} (breaks : BreaksOff rest rest')
    (comment : commentAt c rest = none) : commentAt c rest' = none := by
  have opened {d : Char} (head : rest'.head? = some d) (joins : d ∈ joinChars) :
      ∃ tail, rest = d :: tail := by
    have head := breaks.head_eq head (not_mem_breakChars joins)
    cases rest with
    | nil => cases head
    | cons e tail => exact ⟨tail, by rw [Option.some.inj head]⟩
  unfold commentAt
  split
  · obtain ⟨tail, rfl⟩ := opened rfl (by decide)
    cases comment
  · obtain ⟨tail, rfl⟩ := opened rfl (by decide)
    simp only [commentAt] at comment
    split at comment <;> cases comment
  · rfl

theorem doubleSymbol_of_break {d : Char} (breaks : d ∈ breakChars) : doubleSymbol c d = none := by
  have apart := (breakChars_apart breaks).2.2
  unfold doubleSymbol
  split <;> first | rfl | exact absurd (by decide) apart

theorem symbolAt_of_breaksOff {mark : Symbol} (breaks : BreaksOff tail tail')
    (symbol : symbolAt c (w ++ tail) = some (mark, w.length)) :
    symbolAt c (w ++ tail') = some (mark, w.length) := by
  rcases symbolAt_cases symbol with ⟨d, rfl, found⟩ | ⟨rfl, found, single⟩
  · simp [symbolAt, found]
  · have single' : tail'.head?.bind (doubleSymbol c) = none := by
      rcases breaks.head_cases with same | breaks
      · rw [same]
        exact single
      · cases head : tail'.head? with
        | none => rfl
        | some d => exact doubleSymbol_of_break (breaks d head)
    simp [symbolAt, single', found]

/-! ## Numbers before a break -/

section Numbers

variable {y : List Char} (stop : Breaks y)

include stop

theorem takeWhile_break {p : Char → Bool} (apart : ∀ c ∈ breakChars, p c = false)
    (x : List Char) :
    (x ++ y).takeWhile p = x.takeWhile p ∧ (x ++ y).dropWhile p = x.dropWhile p ++ y := by
  induction x with
  | nil =>
      cases y with
      | nil => exact ⟨rfl, rfl⟩
      | cons d y => simp [apart d (stop d rfl)]
  | cons e x ih =>
      cases inside : p e with
      | false => simp [inside]
      | true => simp [inside, ih]

theorem digits_break (x : List Char) :
    (x ++ y).takeWhile Char.isDigit = x.takeWhile Char.isDigit ∧
      (x ++ y).dropWhile Char.isDigit = x.dropWhile Char.isDigit ++ y :=
  takeWhile_break stop (fun _ breaks => (breakChars_apart breaks).2.1) x

theorem ne_of_join {d e : Char} (joins : e ∈ joinChars) (head : y.head? = some d) : d ≠ e := by
  rintro rfl
  exact not_mem_breakChars joins (stop d head)

theorem fractionDigits_break (x : List Char) : fractionDigits (x ++ y) = fractionDigits x := by
  cases x with
  | nil =>
      cases y with
      | nil => rfl
      | cons d y =>
          have no_point : d ≠ '.' := ne_of_join stop (by decide) rfl
          simp [fractionDigits, no_point]
  | cons e x =>
      by_cases point : e = '.'
      · subst point
        simp only [List.cons_append, fractionDigits, (digits_break stop x).1]
      · simp [fractionDigits, point]

theorem exponentPart_break (x : List Char) : exponentPart (x ++ y) = exponentPart x := by
  cases x with
  | nil =>
      cases y with
      | nil => rfl
      | cons d y =>
          have lower : d ≠ 'e' := ne_of_join stop (by decide) rfl
          have upper : d ≠ 'E' := ne_of_join stop (by decide) rfl
          simp [exponentPart, lower, upper]
  | cons e x =>
      by_cases letter : e = 'e' ∨ e = 'E'
      · obtain ⟨sign, unsigned, rfl, signed⟩ := exists_sign x
        have signed' : sign = ['+'] ∨ sign = ['-'] ∨
            sign = [] ∧ (unsigned ++ y).head? ≠ some '-' ∧ (unsigned ++ y).head? ≠ some '+' := by
          rcases signed with rfl | rfl | ⟨rfl, no_minus, no_plus⟩
          · exact .inl rfl
          · exact .inr (.inl rfl)
          · cases unsigned with
            | nil =>
                exact .inr (.inr ⟨rfl, fun head => ne_of_join stop (by decide) head rfl,
                  fun head => ne_of_join stop (by decide) head rfl⟩)
            | cons f unsigned => exact .inr (.inr ⟨rfl, no_minus, no_plus⟩)
        rw [exponentPart_signed letter signed, List.cons_append, List.append_assoc,
          exponentPart_signed letter signed', (digits_break stop unsigned).1]
      · simp [exponentPart, letter]

/-- A number is cut the same way whatever breaks it off. -/
theorem cutNumber_break (c : Char) (x : List Char) : cutNumber c (x ++ y) = cutNumber c x := by
  obtain ⟨taken, dropped⟩ := digits_break stop x
  obtain ⟨f, behind, shape, _, length⟩ := fractionDigits_shape (x.dropWhile Char.isDigit)
  have short : (if (fractionDigits (x.dropWhile Char.isDigit)).isSome then
      ((fractionDigits (x.dropWhile Char.isDigit)).getD []).length + 1 else 0) ≤
        (x.dropWhile Char.isDigit).length := by
    rw [← length, shape, List.length_append]
    exact Nat.le_add_right ..
  unfold cutNumber
  simp only [taken, dropped, fractionDigits_break stop, List.drop_append_of_le_length short,
    exponentPart_break stop]

end Numbers

theorem cutNumber_of_meets {rest rest' : List Char} (meets : Meets rest rest') :
    cutNumber c rest' = cutNumber c rest := by
  rcases meets with rfl | ⟨x, y, y', rfl, rfl, parting, breaks⟩
  · rfl
  · rw [cutNumber_break breaks, cutNumber_break (breaks_of_parting parting)]

/-! ## Lexemes before a break -/

/-- What is cut off is cut off before a break as well, if a line that ends still does, and a number
that ends there. -/
theorem lexed_of_breaksOff {lexeme : Lexeme} (lexed : Lexed lexeme (c :: w) tail)
    (breaks : BreaksOff tail tail')
    (line : lexeme = .comment → tail = [] ∨ tail.head? = some '\n' →
      tail' = [] ∨ tail'.head? = some '\n')
    (numeral : ∀ kind, cutNumber c (w ++ tail) = .token kind w.length →
      cutNumber c (w ++ tail') = .token kind w.length) :
    Lexed lexeme (c :: w) tail' := by
  have kept {d : Char} (other : tail.head? ≠ some d) (joins : d ∈ joinChars) :
      tail'.head? ≠ some d :=
    fun head => other (breaks.head_eq head (not_mem_breakChars joins))
  cases lexed with
  | blank blank => exact .blank blank
  | line inside stop => exact .line inside (line rfl stop)
  | block closes => exact .block (cutAtPair_iff.mpr (cutAtPair_iff.mp closes))
  | symbol bare comment symbol =>
      exact .symbol bare (commentAt_of_breaksOff (breaks.append w) comment)
        (symbolAt_of_breaksOff breaks symbol)
  | string run stop => exact .string run (kept stop (by decide))
  | quotedName opens run stop =>
      apply Lexed.quotedName opens run (kept stop _)
      rcases quote_cases opens with rfl | rfl <;> decide
  | blob marker run stop even digits => exact .blob marker run (kept stop (by decide)) even digits
  | number digit shape number => exact .number digit shape (numeral _ number)
  | word starts bare inside stop noBlob =>
      apply Lexed.word starts bare inside
      · intro d head
        rcases breaks.head_cases with same | breaks
        · exact stop d (same ▸ head)
        · exact (breakChars_apart (breaks d head)).1
      · intro marker quote
        exact noBlob marker ((breaks.append w).head_eq quote (not_mem_breakChars (by decide)))
  | error reason => exact .error reason

/-- What is cut off before a question mark or the end is cut off before a break in its place, but
for a comment that the end of the text has closed. -/
theorem lexed_of_meets {lexeme : Lexeme} (lexed : Lexed lexeme (c :: w) tail)
    (meets : Meets tail tail') (stays : lexeme = .comment → tail = [] → tail' = []) :
    Lexed lexeme (c :: w) tail' := by
  apply lexed_of_breaksOff lexed meets.breaksOff
  · intro comment stop
    rcases stop with rfl | newline
    · exact .inl (stays comment rfl)
    · rcases meets with rfl | ⟨x, y, y', rfl, rfl, parting, breaks⟩
      · exact .inr newline
      · cases x with
        | nil => rcases parting with rfl | question <;> simp_all
        | cons d x => exact .inr newline
  · intro kind number
    rwa [cutNumber_of_meets (meets.append w)]

end Texts

/-! ## Texts without errors -/

/-- A text that is cut into lexemes without an error. -/
inductive Lexes : List Char → Prop where
  | nil : Lexes []
  | cons {lexeme : Lexeme} {c : Char} {w tail : List Char} (lexed : Lexed lexeme (c :: w) tail)
      (clear : ∀ reason, lexeme ≠ .token (.error reason)) (later : Lexes tail) :
      Lexes (c :: w ++ tail)

theorem lexes_of_clear {chars : List Char} (clear : ∀ reason, .error reason ∉ kindsIn chars) :
    Lexes chars := by
  induction chars using lexemes.induct with
  | case1 => exact .nil
  | case2 c rest cut ih =>
      have whole : c :: rest = c :: rest.take cut.extra ++ rest.drop cut.extra := by
        rw [List.cons_append, List.take_append_drop]
      simp only [kindsIn_cons, List.mem_append, not_or] at clear
      rw [whole]
      apply Lexes.cons (lexed_cutAtHead c rest)
      · intro reason failed
        apply (clear reason).1
        rw [failed]
        exact List.mem_singleton_self _
      · exact ih fun reason => (clear reason).2

theorem lexes_of_parse {text : String} {parsed : Statement}
    (read : Statement.parse text = .ok parsed) : Lexes text.toList := by
  apply lexes_of_clear
  intro reason
  rw [← tokenKinds_eq]
  exact error_not_mem_tokenKinds read reason

section Marks

variable {lexeme : Lexeme} {c : Char} {w tail : List Char}

/-- The token of a question mark covers nothing else. -/
theorem covered_of_question (lexed : Lexed lexeme (c :: w) tail)
    (question : lexeme = .token (.symbol .question)) : c :: w = ['?'] := by
  cases lexed with
  | symbol bare comment symbol =>
      cases question
      rcases symbolAt_cases symbol with ⟨d, rfl, double⟩ | ⟨rfl, single, _⟩
      · unfold doubleSymbol at double
        split at double <;> cases double
      · unfold singleSymbol at single
        split at single <;> first | rfl | cases single
  | number digit shape number =>
      cases question
      rcases isNumeral_of_cutNumber number with ⟨_, same⟩ | ⟨_, same⟩ | ⟨_, same⟩ <;> cases same
  | word =>
      unfold wordKind at question
      split at question <;> cases question
  | _ => cases question

/-- A lexeme that is no question mark counts for none. -/
theorem allMarks_kind? (other : lexeme ≠ .token (.symbol .question)) (kinds : List TokenKind) :
    allMarks (lexeme.kind?.toList ++ kinds) = allMarks kinds := by
  cases lexeme with
  | token kind => exact allMarks_other fun same => other (congrArg Lexeme.token same)
  | blank => rfl
  | comment => rfl

end Marks

theorem kindsIn_symbol {c : Char} {mark : Symbol} {rest : List Char} (bare : isBlank c = false)
    (comment : commentAt c rest = none) (single : singleSymbol c = some mark)
    (double : ∀ d, rest.head? = some d → doubleSymbol c d = none) :
    kindsIn (c :: rest) = .symbol mark :: kindsIn rest := by
  have symbol : symbolAt c ([] ++ rest) = some (mark, ([] : List Char).length) := by
    have no_double : rest.head?.bind (doubleSymbol c) = none := by
      cases head : rest.head? with
      | none => rfl
      | some d => exact double d head
    simp [symbolAt, no_double, single]
  have lexed : Lexed (.token (.symbol mark)) [c] rest := .symbol bare comment symbol
  exact kindsIn_of_lexed lexed (by simp)

/-! ## Written texts -/

/-- What may stand in the place of a question mark. -/
structure IsPiece (piece : List Char) : Prop where
  first : ∃ c ∈ breakChars, isBlank c = false ∧ piece.head? = some c
  last : ∃ c, isBlank c = false ∧ piece.getLast? = some c

/-- A text with the tokens that it stands for before any other. -/
def Reads (piece : List Char) (kinds : List TokenKind) : Prop :=
  ∀ rest, kindsIn (piece ++ rest) = kinds ++ kindsIn rest

section Chars

variable {lexeme : Lexeme} {c : Char} {w tail chars : List Char} {pieces : List (List Char)}

theorem breaks_of_piece {piece : List Char} (fine : IsPiece piece) (rest : List Char) :
    Breaks (piece ++ rest) := by
  obtain ⟨c, breaks, _, first⟩ := fine.first
  intro d head
  rw [List.head?_append, first] at head
  cases head
  exact breaks

theorem writtenChars_nil (pieces : List (List Char)) : writtenChars pieces [] = [] := by
  rw [writtenChars, lexemes]
  cases pieces <;> rfl

theorem writtenChars_mark {piece : List Char}
    (lexed : Lexed (.token (.symbol .question)) (c :: w) tail) :
    writtenChars (piece :: pieces) (c :: w ++ tail) = piece ++ writtenChars pieces tail := by
  rw [writtenChars, lexemes_of_lexed lexed (by simp)]
  simp [writtenPieces, writtenChars]

/-- All but question marks stay, and these as well when nothing is left to be written. -/
theorem writtenChars_stays (lexed : Lexed lexeme (c :: w) tail)
    (clear : ∀ reason, lexeme ≠ .token (.error reason))
    (stays : lexeme = .token (.symbol .question) → pieces = []) :
    writtenChars pieces (c :: w ++ tail) = c :: w ++ writtenChars pieces tail := by
  rw [writtenChars, lexemes_of_lexed lexed clear]
  by_cases question : lexeme = .token (.symbol .question)
  · obtain rfl := stays question
    simp [writtenPieces, writtenChars]
  · cases pieces <;> simp [writtenPieces, writtenChars, question]

/-- What stands for a lexeme in the written text, whatever follows it. -/
theorem exists_piece (clear : ∀ reason, lexeme ≠ .token (.error reason)) (c : Char)
    (w : List Char) (pieces : List (List Char)) :
    ∃ piece others, (piece = c :: w ∨ piece ∈ pieces) ∧ (∀ other ∈ others, other ∈ pieces) ∧
      ∀ tail, Lexed lexeme (c :: w) tail →
        writtenChars pieces (c :: w ++ tail) = piece ++ writtenChars others tail := by
  by_cases marked : lexeme = .token (.symbol .question) ∧ pieces ≠ []
  · obtain ⟨rfl, some_piece⟩ := marked
    obtain ⟨piece, others, rfl⟩ := List.exists_cons_of_ne_nil some_piece
    exact ⟨piece, others, .inr (List.mem_cons_self ..), fun other => List.mem_cons_of_mem piece,
      fun tail lexed => writtenChars_mark lexed⟩
  · refine ⟨c :: w, pieces, .inl rfl, fun _ => id, fun tail lexed => ?_⟩
    exact writtenChars_stays lexed clear fun same => not_not.mp fun more => marked ⟨same, more⟩

theorem writtenKinds_mark {piece : List TokenKind} {pieces : List (List TokenKind)}
    (kinds : List TokenKind) :
    writtenKinds (piece :: pieces) (.symbol .question :: kinds) =
      piece ++ writtenKinds pieces kinds := by
  simp [writtenKinds]

theorem writtenKinds_stays {pieces : List (List TokenKind)}
    (stays : lexeme = .token (.symbol .question) → pieces = []) (kinds : List TokenKind) :
    writtenKinds pieces (lexeme.kind?.toList ++ kinds) =
      lexeme.kind?.toList ++ writtenKinds pieces kinds := by
  cases lexeme with
  | token kind =>
      change writtenKinds pieces (kind :: kinds) = kind :: writtenKinds pieces kinds
      by_cases question : kind = .symbol .question
      · obtain rfl := stays (congrArg Lexeme.token question)
        simp [writtenKinds]
      · cases pieces <;> simp [writtenKinds, question]
  | blank => rfl
  | comment => rfl

/-- The tokens of a written text are the tokens of the text, with those of the pieces in the places
of question marks. -/
theorem kindsIn_writtenChars (lexes : Lexes chars) {read : List (List TokenKind)}
    (fine : ∀ piece ∈ pieces, IsPiece piece) (reads : List.Forall₂ Reads pieces read) :
    Meets chars (writtenChars pieces chars) ∧
      kindsIn (writtenChars pieces chars) = writtenKinds read (kindsIn chars) := by
  -- Along the lexemes: what is behind one meets the text behind it, so that it is cut off again.
  induction lexes generalizing pieces read with
  | nil =>
      rw [writtenChars_nil]
      cases read <;> exact ⟨.inl rfl, by simp [kindsIn, lexemes, writtenKinds]⟩
  | @cons lexeme c w tail lexed clear later ih =>
      rw [kindsIn_of_lexed lexed clear]
      by_cases marked : lexeme = .token (.symbol .question) ∧ pieces ≠ []
      · obtain ⟨rfl, some_piece⟩ := marked
        cases reads with
        | nil => exact absurd rfl some_piece
        | @cons piece kinds pieces read first others =>
            obtain ⟨fine_here, fine_later⟩ := List.forall_mem_cons.mp fine
            rw [writtenChars_mark lexed, covered_of_question lexed rfl]
            constructor
            · exact .inr ⟨[], _, _, rfl, rfl, .inr rfl, breaks_of_piece fine_here _⟩
            · rw [first, (ih fine_later others).2]
              exact (writtenKinds_mark _).symm
      · have stays (same : lexeme = .token (.symbol .question)) : pieces = [] :=
          not_not.mp fun more => marked ⟨same, more⟩
        have unread (same : lexeme = .token (.symbol .question)) : read = [] := by
          obtain rfl := stays same
          exact List.forall₂_nil_left_iff.mp reads
        have later := ih fine reads
        have closed (_ : lexeme = .comment) (last : tail = []) : writtenChars pieces tail = [] := by
          rw [last, writtenChars_nil]
        rw [writtenChars_stays lexed clear stays]
        constructor
        · exact later.1.append _
        · rw [kindsIn_of_lexed (lexed_of_meets lexed later.1 closed) clear, later.2,
            writtenKinds_stays unread]

end Chars

end Writing

end ShardedSql.Sql
