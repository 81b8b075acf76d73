import Mathlib.Data.List.Infix
import ShardedSql.Proofs.RenamedTokens

/-!
The segments of a text beside its lexemes. Where no name holds a mark that opens a segment, the
segments are the lexemes with neighbouring code put together. Main statement: in a text without
lexical errors the literals are the strings and the quoted parts of blobs, the comments and hints are
the comments between tokens, and all other tokens are inside code, exactly if no name is written with
such a mark.
-/

namespace ShardedSql.Segment

open Text Sql

/-! ## Runs of code -/

theorem unopened_append {run more tail : List Char} :
    Unopened tail (run ++ more) ↔ Unopened (more ++ tail) run ∧ Unopened tail more := by
  induction run with
  | nil => simp [Unopened]
  | cons c rest ih => simp [Unopened, ih, and_assoc]

theorem unopened_of_forall {run tail : List Char}
    (inside : ∀ c ∈ run, c ≠ '\'' ∧ c ≠ '-' ∧ c ≠ '/') : Unopened tail run := by
  induction run with
  | nil => trivial
  | cons c rest ih =>
      obtain ⟨literal, line, block⟩ := inside c (List.mem_cons_self ..)
      exact ⟨opened?_of_other _ literal line block,
        ih fun d member => inside d (List.mem_cons_of_mem _ member)⟩

theorem ne_mark_of_isNameChar {c : Char} (name : isNameChar c = true) :
    c ≠ '\'' ∧ c ≠ '-' ∧ c ≠ '/' := by
  refine ⟨?_, ?_, ?_⟩ <;>
    · rintro rfl
      cases name

theorem unopened_of_digits {ds tail : List Char} (digits : ∀ d ∈ ds, d.isDigit = true) :
    Unopened tail ds :=
  unopened_of_forall fun d member =>
    ne_mark_of_isNameChar (isNameChar_of_isDigit (digits d member))

theorem unopened_of_isNumberRest {c : Char} {w tail : List Char} (digit : c.isDigit = true)
    (shape : IsNumberRest w) : Unopened tail (c :: w) := by
  obtain ⟨a, f, x, rfl, whole, fraction, exponent⟩ := shape
  have front : Unopened (f ++ x ++ tail) (c :: a) := by
    refine unopened_of_digits fun d member => ?_
    rcases List.mem_cons.mp member with rfl | later
    · exact digit
    · exact whole d later
  have places : Unopened (x ++ tail) f := by
    rcases fraction with rfl | ⟨ds, rfl, _, digits⟩
    · trivial
    · exact ⟨opened?_of_other _ (by decide) (by decide) (by decide), unopened_of_digits digits⟩
  have power : Unopened tail x := by
    rcases exponent with rfl | ⟨e, sign, ds, rfl, letter, signed, nonempty, digits⟩
    · trivial
    · have behind : Unopened tail ds := unopened_of_digits digits
      have e_closed (rest : List Char) : opened? e rest = none := by
        rcases letter with rfl | rfl <;>
          exact opened?_of_other rest (by decide) (by decide) (by decide)
      rcases signed with rfl | rfl | rfl
      · exact ⟨e_closed _, behind⟩
      · exact ⟨e_closed _, opened?_of_other _ (by decide) (by decide) (by decide), behind⟩
      -- A digit follows the sign, so that no line comment begins there.
      · obtain ⟨d, ds, rfl⟩ := List.exists_cons_of_ne_nil nonempty
        have no_line : d ≠ '-' := ne_of_isDigit (digits d (List.mem_cons_self ..)) (by decide)
        exact ⟨e_closed _, opened?_of_minus (by simpa using no_line), behind⟩
  rw [← List.cons_append, unopened_append, unopened_append]
  exact ⟨front, places, power⟩

/-- A quote opens a literal, two hyphens or a slash and a star open a comment. -/
def HoldsMark (written : List Char) : Prop :=
  '\'' ∈ written ∨ ['-', '-'] <:+: written ∨ ['/', '*'] <:+: written

instance (written : List Char) : Decidable (HoldsMark written) :=
  inferInstanceAs (Decidable (_ ∨ _ ∨ _))

theorem unopened_iff (run : List Char) {last : Char} (tail : List Char)
    (plain : last ≠ '\'' ∧ last ≠ '-' ∧ last ≠ '/') :
    Unopened tail (run ++ [last]) ↔ ¬ HoldsMark (run ++ [last]) := by
  obtain ⟨literal, line, block⟩ := plain
  induction run with
  | nil =>
      have closed := opened?_of_other tail literal line block
      simp [Unopened, HoldsMark, closed, Ne.symm literal, List.infix_cons_iff]
  | cons c rest ih =>
      have next : (rest ++ [last] ++ tail).head? = (rest ++ [last]).head? := by
        cases rest <;> rfl
      rw [List.cons_append, Unopened, ih, opened?_eq_none_iff, next]
      simp only [HoldsMark, List.mem_cons, List.infix_cons_iff, pair_prefix_iff]
      rw [eq_comm (a := '\'') (b := c)]
      tauto

/-! ## Segments along the lexemes -/

def isName : Lexeme → Bool
  | .token (.identifier _) => true
  | _ => false

def isError : Lexeme → Bool
  | .token (.error _) => true
  | _ => false

/-- No name is written with a mark that opens a segment. -/
def PlainNames (pieces : List (Lexeme × List Char)) : Prop :=
  ∀ piece ∈ pieces, isName piece.1 = true → ¬ HoldsMark piece.2

instance (pieces : List (Lexeme × List Char)) : Decidable (PlainNames pieces) :=
  inferInstanceAs (Decidable (∀ piece ∈ pieces, _))

def Clear (pieces : List (Lexeme × List Char)) : Prop :=
  ∀ piece ∈ pieces, isError piece.1 = false

instance (pieces : List (Lexeme × List Char)) : Decidable (Clear pieces) :=
  inferInstanceAs (Decidable (∀ piece ∈ pieces, _))

theorem clear_lexemes_iff {chars : List Char} :
    Clear (lexemes chars) ↔ ∀ reason, .error reason ∉ kindsIn chars := by
  simp only [kindsIn, List.mem_filterMap, not_exists, not_and]
  constructor
  · rintro clear reason ⟨lexeme, written⟩ member kind
    cases lexeme with
    | token found =>
        cases kind
        exact absurd (clear _ member) (by simp [isError])
    | _ => cases kind
  · rintro clear ⟨lexeme, written⟩ member
    cases error : isError lexeme with
    | false => rfl
    | true =>
        unfold isError at error
        split at error
        · next reason => exact absurd rfl (clear reason _ member)
        · cases error

theorem clear_iff {sql : String} :
    Clear (lexemes sql.toList) ↔ ∀ reason, .error reason ∉ tokenKinds sql := by
  rw [tokenKinds_eq, clear_lexemes_iff]

theorem Clear.of_cons {piece : Lexeme × List Char} {pieces : List (Lexeme × List Char)}
    (clear : Clear (piece :: pieces)) :
    (∀ reason, piece.1 ≠ .token (.error reason)) ∧ Clear pieces := by
  obtain ⟨here, later⟩ := List.forall_mem_cons.mp clear
  refine ⟨fun reason same => ?_, later⟩
  rw [same] at here
  cases here

theorem PlainNames.of_cons {piece : Lexeme × List Char} {pieces : List (Lexeme × List Char)}
    (plain : PlainNames (piece :: pieces)) :
    (isName piece.1 = true → ¬ HoldsMark piece.2) ∧ PlainNames pieces :=
  List.forall_mem_cons.mp plain

/-- The kind of a comment's segment. -/
def commentKind (covered : List Char) : SegmentKind :=
  if covered.take 3 = ['/', '*', '+'] then .hint else .comment

theorem commentKind_slash (body : List Char) :
    commentKind ('/' :: '*' :: body) =
      if body.head? = some '+' then .hint else .comment := by
  cases body <;> simp [commentKind]

theorem commentKind_ne_code (covered : List Char) : commentKind covered ≠ .code := by
  unfold commentKind
  split <;> decide

/-- The segments of a text whose first lexeme is given, from the segments behind it. -/
def put : Lexeme → List Char → List Segment → List Segment
  | .comment, covered, behind => ⟨commentKind covered, covered⟩ :: behind
  | .token (.string _), covered, behind => ⟨.literal, covered⟩ :: behind
  | .token (.blob _), covered, behind =>
      addText (covered.take 1) (⟨.literal, covered.drop 1⟩ :: behind)
  | _, covered, behind => addText covered behind

/-- Whether all of a lexeme is code. -/
def isCodeLexeme : Lexeme → Bool
  | .comment => false
  | .token (.string _) => false
  | .token (.blob _) => false
  | _ => true

theorem put_of_isCodeLexeme {lexeme : Lexeme} (code : isCodeLexeme lexeme = true)
    (covered : List Char) (behind : List Segment) :
    put lexeme covered behind = addText covered behind := by
  unfold put
  split
  · cases code
  · cases code
  · cases code
  · rfl

section Put

variable {c : Char} {w tail : List Char}

theorem segments_of_opened {kind : SegmentKind}
    (opened : opened? c (w ++ tail) = some (kind, w.length)) :
    segments (c :: w ++ tail) = ⟨kind, c :: w⟩ :: segments tail := by
  rw [List.cons_append, segments, opened]
  simp only [List.take_left, List.drop_left]

theorem segments_line {line : List Char} (inside : ∀ c ∈ line, c ≠ '\n')
    (stop : tail = [] ∨ tail.head? = some '\n') :
    segments ('-' :: '-' :: line ++ tail) = ⟨.comment, '-' :: '-' :: line⟩ :: segments tail :=
  segments_of_opened (opened?_line inside stop)

theorem segments_block {inside : List Char}
    (closes : cutAtPair '*' '/' (inside ++ '*' :: '/' :: tail) = some (inside, tail)) :
    segments ('/' :: '*' :: (inside ++ ['*', '/']) ++ tail) =
      ⟨commentKind ('/' :: '*' :: (inside ++ ['*', '/'])), '/' :: '*' :: (inside ++ ['*', '/'])⟩ ::
        segments tail := by
  have kind : commentKind ('/' :: '*' :: (inside ++ ['*', '/'])) =
      if inside.head? = some '+' then .hint else .comment := by
    rw [commentKind_slash]
    cases inside <;> simp
  have whole : '*' :: (inside ++ ['*', '/']) ++ tail = '*' :: (inside ++ '*' :: '/' :: tail) := by
    simp
  refine segments_of_opened ?_
  rw [whole, opened?_block closes, kind]
  simp

theorem segments_literal {content : List Char} (run : QuotedRun '\'' true w content)
    (stop : tail.head? ≠ some '\'') :
    segments ('\'' :: w ++ tail) = ⟨.literal, '\'' :: w⟩ :: segments tail := by
  refine segments_of_opened ?_
  rw [opened?, literalLength_of_run run stop]

theorem unopened_blank (blank : isBlank c = true) : Unopened tail [c] := by
  refine ⟨opened?_of_other _ ?_ ?_ ?_, trivial⟩ <;>
    · rintro rfl
      cases blank

theorem unopened_symbol {mark : Symbol} (comment : commentAt c (w ++ tail) = none)
    (symbol : symbolAt c (w ++ tail) = some (mark, w.length)) : Unopened tail (c :: w) := by
  rcases symbolAt_cases symbol with ⟨d, rfl, found⟩ | ⟨rfl, found, _⟩
  · obtain ⟨⟨_, literal, _⟩, ⟨_, literal', line', block', _⟩, _⟩ := doubleSymbol_mark found
    exact ⟨opened?_of_commentAt comment literal, opened?_of_other _ literal' line' block', trivial⟩
  · exact ⟨opened?_of_commentAt comment (singleSymbol_mark found).2.1, trivial⟩

theorem unopened_word (starts : startsWord c = true) (inside : ∀ d ∈ w, isWordChar d = true) :
    Unopened tail (c :: w) :=
  unopened_of_forall fun d member =>
    ne_mark_of_isNameChar (isNameChar_of_mem_word starts inside d member)

theorem ne_mark_of_isQuote (opens : isQuote c = true) : c ≠ '\'' ∧ c ≠ '-' ∧ c ≠ '/' := by
  rcases quote_cases opens with rfl | rfl <;> decide

theorem unopened_quotedName {content : List Char} (opens : isQuote c = true)
    (run : QuotedRun c false w content) : Unopened tail (c :: w) ↔ ¬ HoldsMark (c :: w) := by
  obtain ⟨inside, rfl⟩ := run.closed
  exact unopened_iff (c :: inside) tail (ne_mark_of_isQuote opens)

theorem not_holdsMark_word (starts : startsWord c = true)
    (inside : ∀ d ∈ w, isWordChar d = true) : ¬ HoldsMark (c :: w) := by
  have names := isNameChar_of_mem_word starts inside
  have absent {d : Char} (mark : isNameChar d = false) : d ∉ c :: w := fun member =>
    Bool.false_ne_true (mark.symm.trans (names d member))
  rintro (literal | line | block)
  · exact absent (by decide) literal
  · exact absent (d := '-') (by decide) (line.subset (by simp))
  · exact absent (d := '/') (by decide) (block.subset (by simp))

/-- A name is code exactly if it holds no mark. -/
theorem unopened_name {lexeme : Lexeme} (lexed : Lexed lexeme (c :: w) tail)
    (named : isName lexeme = true) :
    Unopened tail (c :: w) ↔ ¬ HoldsMark (c :: w) := by
  cases lexed with
  | quotedName opens run stop => exact unopened_quotedName opens run
  | word starts bare inside stop noBlob =>
      exact iff_of_true (unopened_word starts inside) (not_holdsMark_word starts inside)
  | number digit shape number =>
      obtain ⟨_, rfl⟩ | ⟨_, rfl⟩ | ⟨_, rfl⟩ := isNumeral_of_cutNumber number <;> cases named
  | _ => cases named

theorem isCodeLexeme_numeral {kind : TokenKind} (numeral : IsNumeral kind) :
    isCodeLexeme (.token kind) = true := by
  rcases numeral with ⟨_, rfl⟩ | ⟨_, rfl⟩ | ⟨_, rfl⟩ <;> rfl

theorem isCodeLexeme_wordKind (word : List Char) :
    isCodeLexeme (.token (wordKind word)) = true := by
  unfold wordKind
  split <;> rfl

theorem put_numeral {kind : TokenKind} (numeral : IsNumeral kind) (covered : List Char)
    (behind : List Segment) : put (.token kind) covered behind = addText covered behind :=
  put_of_isCodeLexeme (isCodeLexeme_numeral numeral) covered behind

theorem put_wordKind (word covered : List Char) (behind : List Segment) :
    put (.token (wordKind word)) covered behind = addText covered behind :=
  put_of_isCodeLexeme (isCodeLexeme_wordKind word) covered behind

/-- A lexeme that is no name with a mark is a segment of its own or is put to the code. -/
theorem segments_of_lexed {lexeme : Lexeme} (lexed : Lexed lexeme (c :: w) tail)
    (clear : ∀ reason, lexeme ≠ .token (.error reason))
    (plain : isName lexeme = true → ¬ HoldsMark (c :: w)) :
    segments (c :: w ++ tail) = put lexeme (c :: w) (segments tail) := by
  have code (unopened : Unopened tail (c :: w)) :
      segments (c :: w ++ tail) = addText (c :: w) (segments tail) :=
    segments_of_unopened (List.cons_ne_nil c w) unopened
  cases lexed with
  | blank blank => exact code (unopened_blank blank)
  | line inside stop => exact segments_line inside stop
  | block closes => exact segments_block closes
  | symbol bare comment symbol => exact code (unopened_symbol comment symbol)
  | string run stop => exact segments_literal run stop
  | quotedName opens run stop => exact code ((unopened_quotedName opens run).mpr (plain rfl))
  | @blob _ w content _ bytes marker run stop even digits =>
      have closed (rest : List Char) : Unopened rest [c] := by
        rcases marker with rfl | rfl <;>
          exact ⟨opened?_of_other _ (by decide) (by decide) (by decide), trivial⟩
      have whole := segments_of_unopened (List.cons_ne_nil c []) (closed ('\'' :: w ++ tail))
      rw [segments_literal (run_of_blobBytes run digits) stop] at whole
      exact whole
  | number digit shape number =>
      rw [put_numeral (isNumeral_of_cutNumber number)]
      exact code (unopened_of_isNumberRest digit shape)
  | word starts bare inside stop noBlob =>
      rw [put_wordKind]
      exact code (unopened_word starts inside)
  | error reason => exact absurd rfl (clear reason)

end Put

/-! ## Where segments and tokens stand -/

/-- The spans of the segments of some kinds, the first segment starting at `offset`. -/
def spansOf (kinds : SegmentKind → Bool) (offset : Nat) : List Segment → List Span
  | [] => []
  | segment :: rest =>
      let stop := offset + byteLength segment.text
      (if kinds segment.kind then [⟨offset, stop⟩] else []) ++ spansOf kinds stop rest

def isLiteral (kind : SegmentKind) : Bool :=
  kind == .literal

def isSkipped (kind : SegmentKind) : Bool :=
  kind == .comment || kind == .hint

def isCode (kind : SegmentKind) : Bool :=
  kind == .code

/-- The quoted part of a string or a blob; an `X` before it is one byte long. -/
def quotedSpan? (token : Token) : Option Span :=
  match token.kind with
  | .string _ => some token.span
  | .blob _ => some ⟨token.span.start + 1, token.span.stop⟩
  | _ => none

def commentSpan? : Lexeme × Span → Option Span
  | (.comment, span) => some span
  | _ => none

/-- The segments of a text are what its lexemes say. -/
structure Agrees (sql : String) : Prop where
  literals : spansOf isLiteral 0 (segments sql.toList) = (textTokens sql).filterMap quotedSpan?
  comments : spansOf isSkipped 0 (segments sql.toList) =
    (placed 0 (lexemes sql.toList)).filterMap commentSpan?
  others : ∀ token ∈ textTokens sql, quotedSpan? token = none →
    ∃ span ∈ spansOf isCode 0 (segments sql.toList),
      span.start ≤ token.span.start ∧ token.span.stop ≤ span.stop

section Spans

variable {kinds : SegmentKind → Bool} {offset : Nat} {all : List Segment}

theorem spansOf_cons (segment : Segment) :
    spansOf kinds offset (segment :: all) =
      (if kinds segment.kind then [⟨offset, offset + byteLength segment.text⟩] else []) ++
        spansOf kinds (offset + byteLength segment.text) all :=
  rfl

theorem spansOf_addText (other : kinds .code = false) (run : List Char) :
    spansOf kinds offset (addText run all) = spansOf kinds (offset + byteLength run) all := by
  rcases all with _ | ⟨⟨kind, text⟩, rest⟩
  · simp [addText, spansOf, other]
  · cases kind <;> simp [addText, spansOf, other, Nat.add_assoc]

/-- What is inside code stays inside code when more code comes before. -/
theorem mem_spansOf_addText {run : List Char} {span : Span}
    (member : span ∈ spansOf isCode (offset + byteLength run) all) :
    ∃ wider ∈ spansOf isCode offset (addText run all),
      wider.start ≤ span.start ∧ span.stop ≤ wider.stop := by
  rcases all with _ | ⟨⟨kind, text⟩, rest⟩
  · cases member
  · cases kind with
    | code =>
        rw [spansOf_cons, List.mem_append] at member
        simp only [addText, spansOf_cons, byteLength_append]
        rcases member with here | later
        · obtain rfl := List.mem_singleton.mp here
          refine ⟨_, List.mem_append_left _ (List.mem_singleton_self _), ?_, ?_⟩
          · simp
          · simp [Nat.add_assoc]
        · rw [Nat.add_assoc] at later
          exact ⟨span, List.mem_append_right _ later, Nat.le_refl _, Nat.le_refl _⟩
    | _ => exact ⟨span, List.mem_append_right _ member, Nat.le_refl _, Nat.le_refl _⟩

theorem exists_spansOf_addText (run : List Char) :
    ∃ span ∈ spansOf isCode offset (addText run all),
      span.start ≤ offset ∧ offset + byteLength run ≤ span.stop := by
  rcases all with _ | ⟨⟨kind, text⟩, rest⟩
  · exact ⟨_, List.mem_append_left _ (List.mem_singleton_self _), Nat.le_refl _, Nat.le_refl _⟩
  · cases kind with
    | code =>
        refine ⟨_, List.mem_append_left _ (List.mem_singleton_self _), Nat.le_refl _, ?_⟩
        simp
    | _ =>
        exact ⟨_, List.mem_append_left _ (List.mem_singleton_self _), Nat.le_refl _, Nat.le_refl _⟩

end Spans

section Steps

variable {lexeme : Lexeme} {covered tail : List Char} {offset : Nat} {behind : List Segment}

/-- The quoted part of a string or a blob, if the lexeme is one. -/
def quotedPart? (piece : Lexeme × Span) : Option Span :=
  (asToken piece).bind quotedSpan?

theorem spansOf_literal_put (lexed : Lexed lexeme covered tail)
    (clear : ∀ reason, lexeme ≠ .token (.error reason)) :
    spansOf isLiteral offset (put lexeme covered behind) =
      (quotedPart? (lexeme, ⟨offset, offset + byteLength covered⟩)).toList ++
        spansOf isLiteral (offset + byteLength covered) behind := by
  have code : isLiteral .code = false := rfl
  cases lexed with
  | blank blank => exact spansOf_addText code _
  | line inside stop => rfl
  | @block inside =>
      have kind : isLiteral (commentKind ('/' :: '*' :: (inside ++ ['*', '/']))) = false := by
        unfold commentKind
        split <;> rfl
      simp [put, spansOf_cons, kind, quotedPart?, asToken]
  | symbol => exact spansOf_addText code _
  | string => rfl
  | quotedName => exact spansOf_addText code _
  | @blob x w _ _ _ marker =>
      have one : x.utf8Size = 1 := by rcases marker with rfl | rfl <;> rfl
      simp only [put, List.take_succ_cons, List.take_zero, List.drop_succ_cons, List.drop_zero]
      rw [spansOf_addText code, spansOf_cons]
      simp [quotedPart?, asToken, quotedSpan?, byteLength, one, isLiteral, Nat.add_assoc]
  | @number _ _ _ kind _ _ number =>
      have numeral := isNumeral_of_cutNumber number
      rw [put_numeral numeral, spansOf_addText code]
      rcases numeral with ⟨_, rfl⟩ | ⟨_, rfl⟩ | ⟨_, rfl⟩ <;> rfl
  | @word c w =>
      rw [put_wordKind, spansOf_addText code]
      unfold wordKind
      split <;> rfl
  | error reason => exact absurd rfl (clear reason)

theorem spansOf_skipped_put (lexed : Lexed lexeme covered tail)
    (clear : ∀ reason, lexeme ≠ .token (.error reason)) :
    spansOf isSkipped offset (put lexeme covered behind) =
      (commentSpan? (lexeme, ⟨offset, offset + byteLength covered⟩)).toList ++
        spansOf isSkipped (offset + byteLength covered) behind := by
  have code : isSkipped .code = false := rfl
  cases lexed with
  | blank blank => exact spansOf_addText code _
  | line inside stop => rfl
  | @block inside =>
      have kind : isSkipped (commentKind ('/' :: '*' :: (inside ++ ['*', '/']))) = true := by
        unfold commentKind
        split <;> rfl
      simp [put, spansOf_cons, kind, commentSpan?]
  | symbol => exact spansOf_addText code _
  | string => rfl
  | quotedName => exact spansOf_addText code _
  | blob =>
      simp only [put, List.take_succ_cons, List.take_zero, List.drop_succ_cons, List.drop_zero]
      rw [spansOf_addText code, spansOf_cons]
      simp [commentSpan?, byteLength, isSkipped, Nat.add_assoc]
  | number _ _ number =>
      rw [put_numeral (isNumeral_of_cutNumber number), spansOf_addText code]
      rfl
  | word =>
      rw [put_wordKind, spansOf_addText code]
      rfl
  | error reason => exact absurd rfl (clear reason)

/-- Code stays code when a lexeme is put before it. -/
theorem mem_spansOf_put (lexeme : Lexeme) {span : Span}
    (member : span ∈ spansOf isCode (offset + byteLength covered) behind) :
    ∃ wider ∈ spansOf isCode offset (put lexeme covered behind),
      wider.start ≤ span.start ∧ span.stop ≤ wider.stop := by
  have before (kind : SegmentKind) (offset : Nat) (text : List Char)
      (member : span ∈ spansOf isCode (offset + byteLength text) behind) :
      span ∈ spansOf isCode offset (⟨kind, text⟩ :: behind) :=
    List.mem_append_right _ member
  unfold put
  split
  · exact ⟨span, before _ _ _ member, Nat.le_refl _, Nat.le_refl _⟩
  · exact ⟨span, before _ _ _ member, Nat.le_refl _, Nat.le_refl _⟩
  · refine mem_spansOf_addText (before _ _ _ ?_)
    rwa [Nat.add_assoc, ← byteLength_append, List.take_append_drop]
  · exact mem_spansOf_addText member

theorem exists_spansOf_put {token : Token}
    (head : asToken (lexeme, ⟨offset, offset + byteLength covered⟩) = some token)
    (other : quotedSpan? token = none) :
    ∃ span ∈ spansOf isCode offset (put lexeme covered behind),
      span.start ≤ token.span.start ∧ token.span.stop ≤ span.stop := by
  cases lexeme with
  | blank => cases head
  | comment => cases head
  | token kind =>
      cases head
      have code : isCodeLexeme (.token kind) = true := by
        cases kind with
        | string => cases other
        | blob => cases other
        | _ => rfl
      rw [put_of_isCodeLexeme code]
      exact exists_spansOf_addText covered

theorem start_of_mem_placed {pieces : List (Lexeme × List Char)} {piece : Lexeme × Span}
    (member : piece ∈ placed offset pieces) : offset ≤ piece.2.start := by
  induction pieces generalizing offset with
  | nil => cases member
  | cons first rest ih =>
      rcases List.mem_cons.mp member with rfl | later
      · exact Nat.le_refl _
      · exact Nat.le_trans (Nat.le_add_right ..) (ih later)

theorem start_of_quotedPart {piece : Lexeme × Span} {span : Span}
    (part : quotedPart? piece = some span) : piece.2.start ≤ span.start := by
  obtain ⟨token, is_token, quoted⟩ := Option.bind_eq_some_iff.mp part
  obtain ⟨lexeme, whole⟩ := piece
  cases lexeme with
  | token kind =>
      cases is_token
      unfold quotedSpan? at quoted
      split at quoted <;> cases quoted
      · exact Nat.le_refl _
      · exact Nat.le_succ _
  | _ => cases is_token

theorem start_of_commentSpan {piece : Lexeme × Span} {span : Span}
    (part : commentSpan? piece = some span) : piece.2.start ≤ span.start := by
  unfold commentSpan? at part
  split at part <;> cases part
  exact Nat.le_refl _

end Steps

theorem opened_of_not_unopened {run tail : List Char} (marked : ¬ Unopened tail run) :
    ∃ before c after, run = before ++ c :: after ∧ Unopened (c :: after ++ tail) before ∧
      ∃ kind extra, opened? c (after ++ tail) = some (kind, extra) := by
  induction run with
  | nil => exact absurd trivial marked
  | cons d rest ih =>
      cases opened : opened? d (rest ++ tail) with
      | some found => exact ⟨[], d, rest, rfl, trivial, found.1, found.2, opened⟩
      | none =>
          obtain ⟨before, c, after, rfl, unopened, later⟩ := ih fun code => marked ⟨opened, code⟩
          refine ⟨d :: before, c, after, rfl, ⟨?_, unopened⟩, later⟩
          simpa using opened

theorem spansOf_segments {kinds : SegmentKind → Bool} {offset : Nat} (other : kinds .code = false)
    {run tail : List Char} (unopened : Unopened tail run) :
    spansOf kinds offset (segments (run ++ tail)) =
      spansOf kinds (offset + byteLength run) (segments tail) := by
  cases run with
  | nil => rfl
  | cons c rest =>
      rw [segments_of_unopened (List.cons_ne_nil c rest) unopened, spansOf_addText other]

/-- Where a name holds a mark, a segment begins inside of it. -/
theorem exists_spansOf_marked {run tail : List Char} (marked : ¬ Unopened tail run)
    (offset : Nat) :
    ∃ span, span.start < offset + byteLength run ∧
      (span ∈ spansOf isLiteral offset (segments (run ++ tail)) ∨
        span ∈ spansOf isSkipped offset (segments (run ++ tail))) := by
  obtain ⟨before, c, after, rfl, unopened, kind, extra, opened⟩ := opened_of_not_unopened marked
  have whole : before ++ c :: after ++ tail = before ++ (c :: after ++ tail) :=
    List.append_assoc ..
  have first : segments (c :: after ++ tail) =
      ⟨kind, c :: (after ++ tail).take extra⟩ :: segments ((after ++ tail).drop extra) := by
    rw [List.cons_append, segments, opened]
  rw [whole, spansOf_segments rfl unopened, spansOf_segments rfl unopened, first]
  have inside : offset + byteLength before < offset + byteLength (before ++ c :: after) := by
    have := c.utf8Size_pos
    simp only [byteLength_append, byteLength]
    omega
  have other := kind_of_opened opened
  refine ⟨⟨offset + byteLength before,
    offset + byteLength before + byteLength (c :: (after ++ tail).take extra)⟩, inside, ?_⟩
  cases kind with
  | code => exact absurd rfl other
  | literal => exact .inl (List.mem_append_left _ (List.mem_singleton_self _))
  | comment => exact .inr (List.mem_append_left _ (List.mem_singleton_self _))
  | hint => exact .inr (List.mem_append_left _ (List.mem_singleton_self _))

/-! ## Whole texts -/

theorem filterMap_placed_cons {α : Type} (part? : Lexeme × Span → Option α) (offset : Nat)
    (lexeme : Lexeme) (covered : List Char) (pieces : List (Lexeme × List Char)) :
    (placed offset ((lexeme, covered) :: pieces)).filterMap part? =
      (part? (lexeme, ⟨offset, offset + byteLength covered⟩)).toList ++
        (placed (offset + byteLength covered) pieces).filterMap part? := by
  simp only [placed, List.filterMap_cons]
  cases part? (lexeme, ⟨offset, offset + byteLength covered⟩) <;> rfl

section Texts

variable {chars : List Char}

/-- Where each lexeme that is put before segments adds its part to their spans, the spans are the
parts of all lexemes. -/
theorem spansOf_of_put {kinds : SegmentKind → Bool} {part? : Lexeme × Span → Option Span}
    (adds : ∀ {lexeme covered tail offset behind}, Lexed lexeme covered tail →
      (∀ reason, lexeme ≠ .token (.error reason)) →
      spansOf kinds offset (put lexeme covered behind) =
        (part? (lexeme, ⟨offset, offset + byteLength covered⟩)).toList ++
          spansOf kinds (offset + byteLength covered) behind)
    (clear : Clear (lexemes chars)) (plain : PlainNames (lexemes chars)) (offset : Nat) :
    spansOf kinds offset (segments chars) =
      (placed offset (lexemes chars)).filterMap part? := by
  induction chars using lexed_induction generalizing offset with
  | nil =>
      rw [segments]
      rfl
  | cons lexeme c w tail lexed ih =>
      obtain ⟨fine, clear⟩ := clear.of_cons
      obtain ⟨plain_here, plain⟩ := plain.of_cons
      rw [segments_of_lexed lexed fine plain_here, adds lexed fine, ih clear plain,
        filterMap_placed_cons]

theorem exists_spansOf_segments (clear : Clear (lexemes chars))
    (plain : PlainNames (lexemes chars)) (offset : Nat) :
    ∀ token ∈ (placed offset (lexemes chars)).filterMap asToken, quotedSpan? token = none →
      ∃ span ∈ spansOf isCode offset (segments chars),
        span.start ≤ token.span.start ∧ token.span.stop ≤ span.stop := by
  induction chars using lexed_induction generalizing offset with
  | nil => simp [placed]
  | cons lexeme c w tail lexed ih =>
      obtain ⟨fine, clear⟩ := clear.of_cons
      obtain ⟨plain_here, plain⟩ := plain.of_cons
      rw [segments_of_lexed lexed fine plain_here, filterMap_placed_cons]
      intro token member other
      rcases List.mem_append.mp member with here | later
      · exact exists_spansOf_put (by simpa using here) other
      · obtain ⟨span, inside, start, stop⟩ := ih clear plain _ token later other
        obtain ⟨wider, outside, start', stop'⟩ := mem_spansOf_put lexeme inside
        exact ⟨wider, outside, Nat.le_trans start' start, Nat.le_trans stop stop'⟩

/-- Behind a name, all that the lexer takes for quoted or for a comment starts behind it. -/
theorem start_of_part {part? : Lexeme × Span → Option Span}
    (later : ∀ piece span, part? piece = some span → piece.2.start ≤ span.start)
    {lexeme : Lexeme} {covered : List Char} {pieces : List (Lexeme × List Char)} {offset : Nat}
    (none_here : part? (lexeme, ⟨offset, offset + byteLength covered⟩) = none) {span : Span}
    (member : span ∈ (placed offset ((lexeme, covered) :: pieces)).filterMap part?) :
    offset + byteLength covered ≤ span.start := by
  rw [filterMap_placed_cons, none_here] at member
  obtain ⟨piece, placed_here, part⟩ := List.mem_filterMap.mp member
  exact Nat.le_trans (start_of_mem_placed placed_here) (later piece span part)

theorem no_part_of_isName {lexeme : Lexeme} (named : isName lexeme = true) (span : Span) :
    quotedPart? (lexeme, span) = none ∧ commentSpan? (lexeme, span) = none := by
  unfold isName at named
  split at named
  · exact ⟨rfl, rfl⟩
  · cases named

theorem plainNames_of_spansOf (clear : Clear (lexemes chars)) (offset : Nat)
    (literals : spansOf isLiteral offset (segments chars) =
      (placed offset (lexemes chars)).filterMap quotedPart?)
    (comments : spansOf isSkipped offset (segments chars) =
      (placed offset (lexemes chars)).filterMap commentSpan?) : PlainNames (lexemes chars) := by
  induction chars using lexed_induction generalizing offset with
  | nil => simp [PlainNames]
  | cons lexeme c w tail lexed ih =>
      obtain ⟨fine, clear⟩ := clear.of_cons
      have plain_here : isName lexeme = true → ¬ HoldsMark (c :: w) := by
        intro named holds
        have marked : ¬ Unopened tail (c :: w) := fun unopened =>
          (unopened_name lexed named).mp unopened holds
        obtain ⟨no_quote, no_comment⟩ := no_part_of_isName named
          ⟨offset, offset + byteLength (c :: w)⟩
        obtain ⟨span, inside, literal | comment⟩ := exists_spansOf_marked marked offset
        · rw [literals] at literal
          have := start_of_part (fun _ _ => start_of_quotedPart) no_quote literal
          omega
        · rw [comments] at comment
          have := start_of_part (fun _ _ => start_of_commentSpan) no_comment comment
          omega
      rw [segments_of_lexed lexed fine plain_here] at literals comments
      rw [spansOf_literal_put lexed fine, filterMap_placed_cons,
        List.append_cancel_left_eq] at literals
      rw [spansOf_skipped_put lexed fine, filterMap_placed_cons,
        List.append_cancel_left_eq] at comments
      exact List.forall_mem_cons.mpr ⟨plain_here, ih clear _ literals comments⟩

end Texts

/-- Without lexical errors, the splitter and the lexer agree on what is quoted, what is a comment and
what is code, exactly if no name is written with a mark that opens a literal or a comment. -/
theorem agrees_iff {sql : String} (clear : ∀ reason, .error reason ∉ tokenKinds sql) :
    Agrees sql ↔ PlainNames (lexemes sql.toList) := by
  have fine := clear_iff.mpr clear
  have parts : (textTokens sql).filterMap quotedSpan? =
      (placed 0 (lexemes sql.toList)).filterMap quotedPart? := List.filterMap_filterMap
  constructor
  · intro agrees
    exact plainNames_of_spansOf fine 0 (agrees.literals.trans parts) agrees.comments
  · intro plain
    have literals := spansOf_of_put spansOf_literal_put fine plain 0
    have comments := spansOf_of_put spansOf_skipped_put fine plain 0
    exact ⟨literals.trans parts.symm, comments, exists_spansOf_segments fine plain 0⟩

/-- A hint, a quoted name, a line comment with a quote in it, a string with quotes and a comment mark
in it, and a blob. -/
def mixedText : String :=
  "SELECT /*+ a */ \"id\" FROM t -- it's
WHERE s = 'it''s -- \\'' AND b = x'0A'"

theorem agrees_mixedText :
    (∀ reason, .error reason ∉ tokenKinds mixedText) ∧ Agrees mixedText := by
  have clear : ∀ reason, .error reason ∉ tokenKinds mixedText := clear_iff.mp (by decide +kernel)
  exact ⟨clear, (agrees_iff clear).mpr (by decide +kernel)⟩

/-- The quote in a quoted name opens a literal that takes the rest of the statement, so that the
table in it keeps its name. -/
theorem segments_open_name :
    (∀ reason, .error reason ∉ tokenKinds "SELECT `it's` FROM orders WHERE id = 1") ∧
      ¬ Agrees "SELECT `it's` FROM orders WHERE id = 1" ∧
      renameWords [⟨"orders", "orders_1"⟩] "SELECT `it's` FROM orders WHERE id = 1" =
        "SELECT `it's` FROM orders WHERE id = 1" := by
  refine ⟨clear_iff.mp (by decide +kernel), fun agrees => ?_, by decide +kernel⟩
  exact absurd agrees.literals (by decide +kernel)

end ShardedSql.Segment
