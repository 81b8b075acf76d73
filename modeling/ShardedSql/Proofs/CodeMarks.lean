import ShardedSql.Proofs.ParameterMarks

/-!
Where the placeholders of a text stand. Expansion takes the question marks in code for them, the
parser those that the lexer reads; a place is the number of bytes before it. Main statement: in a
text without lexical errors whose names open no literal and no comment, both mean the same places
exactly if no name is written with a question mark.
-/

namespace ShardedSql.Segment

open Text Sql
open Sql.Writing (covered_of_question)

/-- The places of the question marks among characters, the first of which stands at `offset`. -/
def marksIn (offset : Nat) : List Char → List Nat
  | [] => []
  | c :: rest => (if c = '?' then [offset] else []) ++ marksIn (offset + c.utf8Size) rest

/-- The places of the question marks in code. -/
def codeMarks (offset : Nat) : List Segment → List Nat
  | [] => []
  | segment :: rest =>
      (if segment.kind = .code then marksIn offset segment.text else []) ++
        codeMarks (offset + byteLength segment.text) rest

/-- The places of the question marks that expansion takes for placeholders. -/
def placeholderMarks (sql : String) : List Nat :=
  codeMarks 0 (segments sql.toList)

def questionStart? (token : Token) : Option Nat :=
  if token.kind = .symbol .question then some token.span.start else none

/-- The places of the question marks that the lexer reads. -/
def questionStarts (sql : String) : List Nat :=
  (textTokens sql).filterMap questionStart?

section Runs

variable {offset : Nat} {run : List Char}

theorem marksIn_append (offset : Nat) (run more : List Char) :
    marksIn offset (run ++ more) =
      marksIn offset run ++ marksIn (offset + byteLength run) more := by
  induction run generalizing offset with
  | nil => rfl
  | cons c rest ih =>
      simp only [List.cons_append, marksIn, ih, List.append_assoc, byteLength, Nat.add_assoc]

theorem marksIn_of_bare (bare : '?' ∉ run) (offset : Nat) : marksIn offset run = [] := by
  induction run generalizing offset with
  | nil => rfl
  | cons c rest ih =>
      have other : c ≠ '?' := fun same => bare (same ▸ List.mem_cons_self ..)
      rw [marksIn, if_neg other, ih fun later => bare (List.mem_cons_of_mem _ later)]
      rfl

theorem marksIn_eq_nil_iff : marksIn offset run = [] ↔ '?' ∉ run := by
  refine ⟨fun nothing => ?_, fun bare => marksIn_of_bare bare offset⟩
  induction run generalizing offset with
  | nil => exact List.not_mem_nil
  | cons c rest ih =>
      obtain ⟨here, later⟩ := List.append_eq_nil_iff.mp nothing
      intro member
      rcases List.mem_cons.mp member with rfl | behind
      · cases here
      · exact ih later behind

theorem mem_marksIn {place : Nat} (member : place ∈ marksIn offset run) :
    offset ≤ place ∧ place < offset + byteLength run := by
  induction run generalizing offset with
  | nil => cases member
  | cons c rest ih =>
      have size := c.utf8Size_pos
      simp only [byteLength]
      rcases List.mem_append.mp member with here | later
      · split at here
        · obtain rfl := List.mem_singleton.mp here
          omega
        · cases here
      · have := ih later
        omega

theorem length_marksIn (offset : Nat) (run : List Char) :
    (marksIn offset run).length = run.count '?' := by
  induction run generalizing offset with
  | nil => rfl
  | cons c rest ih =>
      rw [marksIn, List.length_append, ih, List.count_cons, Nat.add_comm]
      by_cases mark : c = '?' <;> simp [mark]

end Runs

/-! ## Along the lexemes -/

section Lexemes

variable {lexeme : Lexeme} {c : Char} {w tail chars : List Char} {offset : Nat}
  {behind : List Segment}

theorem codeMarks_addText (run : List Char) :
    codeMarks offset (addText run behind) =
      marksIn offset run ++ codeMarks (offset + byteLength run) behind := by
  rcases behind with _ | ⟨⟨kind, text⟩, rest⟩
  · simp [addText, codeMarks]
  · cases kind <;> simp [addText, codeMarks, marksIn_append, Nat.add_assoc]

/-- The place of a lexeme that is a question mark. -/
def markStart? (piece : Lexeme × Span) : Option Nat :=
  (asToken piece).bind questionStart?

theorem markStart?_of_ne (other : lexeme ≠ .token (.symbol .question)) (span : Span) :
    markStart? (lexeme, span) = none := by
  cases lexeme with
  | token kind =>
      have different : kind ≠ .symbol .question := fun same => other (by rw [same])
      simp [markStart?, asToken, questionStart?, different]
  | _ => rfl

theorem start_of_markStart {piece : Lexeme × Span} {place : Nat}
    (start : markStart? piece = some place) : place = piece.2.start := by
  obtain ⟨lexeme, span⟩ := piece
  by_cases question : lexeme = .token (.symbol .question)
  · rw [question] at start
    exact (Option.some.inj start).symm
  · rw [markStart?_of_ne question] at start
    cases start

/-- What a lexeme adds to the marks in code: the question marks in a name, and itself. -/
def lexemeMarks (offset : Nat) (lexeme : Lexeme) (covered : List Char) : List Nat :=
  if isName lexeme then marksIn offset covered
  else (markStart? (lexeme, ⟨offset, offset + byteLength covered⟩)).toList

theorem marksIn_of_isCodeLexeme (lexed : Lexed lexeme (c :: w) tail)
    (clear : ∀ reason, lexeme ≠ .token (.error reason)) (code : isCodeLexeme lexeme = true) :
    marksIn offset (c :: w) = lexemeMarks offset lexeme (c :: w) := by
  unfold lexemeMarks
  split
  · rfl
  · next unnamed =>
      by_cases question : lexeme = .token (.symbol .question)
      · rw [covered_of_question lexed question, question]
        rfl
      · rw [markStart?_of_ne question]
        exact marksIn_of_bare (bare_of_lexed lexed clear code question fun named =>
          absurd named unnamed) offset

theorem codeMarks_put (lexed : Lexed lexeme (c :: w) tail)
    (clear : ∀ reason, lexeme ≠ .token (.error reason)) :
    codeMarks offset (put lexeme (c :: w) behind) =
      lexemeMarks offset lexeme (c :: w) ++ codeMarks (offset + byteLength (c :: w)) behind := by
  by_cases code : isCodeLexeme lexeme = true
  · rw [put_of_isCodeLexeme code, codeMarks_addText, marksIn_of_isCodeLexeme lexed clear code]
  · cases lexed with
    | line => rfl
    | block => simp [put, codeMarks, commentKind_ne_code, lexemeMarks, isName, markStart?, asToken]
    | string => rfl
    | blob marker =>
        have bare : '?' ∉ [c] := by rcases marker with rfl | rfl <;> decide
        simp [put, codeMarks_addText, marksIn_of_bare bare, codeMarks, byteLength, lexemeMarks,
          isName, markStart?, asToken, questionStart?, Nat.add_assoc]
    | number digit shape number =>
        exact absurd (isCodeLexeme_numeral (isNumeral_of_cutNumber number)) code
    | word => exact absurd (isCodeLexeme_wordKind _) code
    | _ => exact absurd rfl code

/-- A mark inside a name is at none of the places behind it. -/
theorem marks_append_eq_iff {marks : List Nat} {pieces : List (Lexeme × List Char)} :
    marksIn offset (c :: w) ++ marks =
        (placed (offset + byteLength (c :: w)) pieces).filterMap markStart? ↔
      '?' ∉ c :: w ∧
        marks = (placed (offset + byteLength (c :: w)) pieces).filterMap markStart? := by
  constructor
  · intro same
    have bare : marksIn offset (c :: w) = [] := by
      apply List.eq_nil_iff_forall_not_mem.mpr
      intro place member
      have behind := List.mem_append_left marks member
      rw [same] at behind
      obtain ⟨piece, placed, start⟩ := List.mem_filterMap.mp behind
      have from_stop := start_of_mem_placed placed
      have inside := (mem_marksIn member).2
      have at_start := start_of_markStart start
      omega
    rw [bare] at same
    exact ⟨marksIn_eq_nil_iff.mp bare, same⟩
  · rintro ⟨bare, same⟩
    rw [marksIn_of_bare bare, same, List.nil_append]

theorem codeMarks_eq_iff (clear : Clear (lexemes chars)) (plain : PlainNames (lexemes chars))
    (offset : Nat) :
    codeMarks offset (segments chars) = (placed offset (lexemes chars)).filterMap markStart? ↔
      ∀ piece ∈ lexemes chars, isName piece.1 = true → '?' ∉ piece.2 := by
  induction chars using lexed_induction generalizing offset with
  | nil => simp [segments, codeMarks, placed]
  | cons lexeme c w tail lexed ih =>
      obtain ⟨fine, clear⟩ := clear.of_cons
      obtain ⟨plain_here, plain⟩ := plain.of_cons
      rw [segments_of_lexed lexed fine plain_here, codeMarks_put lexed fine,
        filterMap_placed_cons, List.forall_mem_cons,
        ← ih clear plain (offset + byteLength (c :: w))]
      unfold lexemeMarks
      -- Only a name may hold question marks that the lexer does not read.
      by_cases named : isName lexeme = true
      · have no_mark : lexeme ≠ .token (.symbol .question) := by
          rintro rfl
          cases named
        rw [if_pos named, markStart?_of_ne no_mark, Option.toList_none, List.nil_append,
          marks_append_eq_iff]
        simp [named]
      · rw [if_neg named, List.append_cancel_left_eq]
        simp [named]

end Lexemes

theorem questionStarts_eq (sql : String) :
    questionStarts sql = (placed 0 (lexemes sql.toList)).filterMap markStart? :=
  List.filterMap_filterMap

theorem placeholderMarks_eq_iff {sql : String} (clear : Clear (lexemes sql.toList))
    (plain : PlainNames (lexemes sql.toList)) :
    placeholderMarks sql = questionStarts sql ↔
      ∀ piece ∈ lexemes sql.toList, isName piece.1 = true → '?' ∉ piece.2 := by
  rw [questionStarts_eq]
  exact codeMarks_eq_iff clear plain 0

theorem length_questionStarts (sql : String) :
    (questionStarts sql).length = (tokenKinds sql).count (.symbol .question) := by
  rw [questionStarts, tokenKinds]
  induction textTokens sql with
  | nil => rfl
  | cons token rest ih =>
      rw [List.filterMap_cons, List.map_cons, List.count_cons, ← ih]
      by_cases question : token.kind = .symbol .question <;> simp [questionStart?, question]

end ShardedSql.Segment
