import ShardedSql.Proofs.FilledText
import ShardedSql.Proofs.GrownText
import ShardedSql.Proofs.LexedSegments
import ShardedSql.Proofs.LiteralPlaces
import ShardedSql.Proofs.PlainNames
import ShardedSql.Proofs.ShardStatements

/-!
Question marks in the text of a statement and in the texts for its shards. `Marks` counts them along
the characters, without telling words, numbers and symbols apart: what a suffix may change. Main
statements: what `Marks` counts are the parameters that the lexer finds, it counts the same in a
grown text, and so the statement of a shard binds as many parameters as the one it is made from.
-/

namespace ShardedSql

open Text Sql Segment
open Sql.Filling (allMarks allMarks_mark)
open Sql.Writing (allMarks_kind? covered_of_question)

/-- So many question marks stand outside of quotes and comments. An `X` before a quote opens a blob,
unless an underscore in the same word comes before it. -/
inductive Marks : List Char → Nat → Prop where
  | nil : Marks [] 0
  | mark {rest : List Char} {n : Nat} (later : Marks rest n) : Marks ('?' :: rest) (n + 1)
  | plain {c : Char} {rest : List Char} {n : Nat} (other : c ≠ '?')
      (code : opened? c rest = none) (bare : isQuote c = false)
      (noBlob : c = 'x' ∨ c = 'X' → rest.head? ≠ some '\'') (later : Marks rest n) :
      Marks (c :: rest) n
  | word {w tail : List Char} {n : Nat} (inside : ∀ d ∈ w, isWordChar d = true)
      (stop : ∀ d, tail.head? = some d → isWordChar d = false) (later : Marks tail n) :
      Marks ('_' :: w ++ tail) n
  | string {w content tail : List Char} {n : Nat} (run : QuotedRun '\'' true w content)
      (stop : tail.head? ≠ some '\'') (later : Marks tail n) : Marks ('\'' :: w ++ tail) n
  | name {quote : Char} {w content tail : List Char} {n : Nat} (opens : isQuote quote = true)
      (run : QuotedRun quote false w content) (stop : tail.head? ≠ some quote)
      (later : Marks tail n) : Marks (quote :: w ++ tail) n
  | blob {x : Char} {digits tail : List Char} {n : Nat} (marker : x = 'x' ∨ x = 'X')
      (inside : ∀ c ∈ digits, c ≠ '\'' ∧ c ≠ '\\') (stop : tail.head? ≠ some '\'')
      (later : Marks tail n) : Marks (x :: '\'' :: (digits ++ ['\'']) ++ tail) n
  | line {line tail : List Char} {n : Nat} (inside : ∀ c ∈ line, c ≠ '\n')
      (stop : tail = [] ∨ tail.head? = some '\n') (later : Marks tail n) :
      Marks ('-' :: '-' :: line ++ tail) n
  | block {inside tail : List Char} {n : Nat} (unclosed : Unclosed inside)
      (later : Marks tail n) : Marks ('/' :: '*' :: (inside ++ ['*', '/']) ++ tail) n

theorem quotedRun_of_forall {quote : Char} {escapes : Bool} {v : List Char}
    (inside : ∀ c ∈ v, c ≠ quote ∧ c ≠ '\\') : QuotedRun quote escapes (v ++ [quote]) v := by
  have run : QuotedRun quote escapes (v ++ [quote]) (v ++ []) := quotedRun_prepend
    (fun c member => ⟨(inside c member).1, fun escape => (inside c member).2 escape.2⟩) .close
  rwa [List.append_nil] at run

/-! ## The marks of a text without errors -/

section Lexemes

variable {c : Char} {w tail : List Char} {n : Nat}

/-- Code without quotes holds no mark, as long as it does not end in the `X` of a blob. -/
theorem marks_run {run : List Char} (code : Unopened tail run)
    (bare : ∀ c ∈ run, c ≠ '?' ∧ isQuote c = false)
    (last : ∀ c, run.getLast? = some c → c = 'x' ∨ c = 'X' → tail.head? ≠ some '\'')
    (later : Marks tail n) : Marks (run ++ tail) n := by
  induction run with
  | nil => exact later
  | cons c rest ih =>
      obtain ⟨here, behind⟩ := code
      obtain ⟨⟨other, quote⟩, bare⟩ := List.forall_mem_cons.mp bare
      cases rest with
      | nil => exact .plain other here quote (last c rfl) later
      | cons d rest =>
          refine .plain other here quote (fun _ quoted => ?_) (ih behind bare ?_)
          · cases quoted
            cases behind.1
          · simpa using last

theorem isNameChar_of_isQuote (opens : isQuote c = true) : isNameChar c = false := by
  rcases quote_cases opens with rfl | rfl <;> decide

theorem bare_of_isNameChar (name : isNameChar c = true) : c ≠ '?' ∧ isQuote c = false := by
  refine ⟨ne_of_isNameChar name (by decide), ?_⟩
  rw [Bool.eq_false_iff]
  intro opens
  rw [isNameChar_of_isQuote opens] at name
  cases name

theorem lookup_of_marker {word : List Char} {keyword : Keyword} {x : Char}
    (reserved : Keyword.lookup (String.ofList word) = some keyword)
    (last : word.getLast? = some x) : ¬ (x = 'x' ∨ x = 'X') := by
  intro marker
  have spelled := List.find?_some reserved
  simp only [beq_iff_eq, upperAscii, String.toList_ofList] at spelled
  have upper : keyword.spelling.toList.getLast? = some 'X' := by
    rw [spelled, String.toList_ofList, List.getLast?_map, last]
    rcases marker with rfl | rfl <;> rfl
  cases keyword <;> exact absurd upper (by decide)

/-- A string stands behind nothing that the grammar takes for a name. -/
theorem not_spaced_quote {rest : List Char}
    (clear : ∀ reason, .error reason ∉ kindsIn ('\'' :: rest)) :
    ¬ Spaced true (kindsIn ('\'' :: rest)) := by
  intro spaced
  have cut : cutAtHead '\'' rest = cutString rest := by
    have comment := commentAt_of_other (c := '\'') rest (by decide) (by decide)
    have symbol := symbolAt_of_other (c := '\'') rest rfl fun _ => rfl
    have blank : isBlank '\'' = false := by decide
    simp [cutAtHead, blank, comment, tokenAt, symbol]
  rw [kindsIn_cons, cut] at spaced clear
  unfold cutString at spaced clear
  split at spaced
  · exact spaced.1 ⟨rfl, rfl⟩
  · next none =>
      simp only [none] at clear
      exact clear _ (List.mem_append_left _ (List.mem_singleton_self _))

/-- A character that counts for nothing and can stand in no word that ends in the `X` of a blob or
keeps it from being one. -/
def Inert (c : Char) : Prop :=
  c ≠ '?' ∧ isQuote c = false ∧ c ≠ 'x' ∧ c ≠ 'X' ∧ c ≠ '_'

instance (c : Char) : Decidable (Inert c) :=
  inferInstanceAs (Decidable (_ ∧ _))

theorem marks_append_iff {run : List Char} (code : Unopened tail run)
    (inert : ∀ c ∈ run, Inert c) : Marks (run ++ tail) n ↔ Marks tail n := by
  induction run with
  | nil => rfl
  | cons c rest ih =>
      obtain ⟨here, behind⟩ := code
      obtain ⟨⟨other, quote, no_x, no_upper, no_underscore⟩, inert⟩ := List.forall_mem_cons.mp inert
      rw [← ih behind inert]
      constructor
      · intro marks
        rw [List.cons_append] at marks
        generalize whole : c :: (rest ++ tail) = all at marks
        -- An inert character outside of quotes can only have been counted as a plain one.
        cases marks with
        | nil => cases whole
        | mark =>
            cases whole
            exact absurd rfl other
        | plain _ _ _ _ later =>
            cases whole
            exact later
        | word =>
            injection whole with first
            exact absurd first no_underscore
        | string =>
            injection whole with first
            subst first
            cases here
        | name opens =>
            injection whole with first
            rw [← first, quote] at opens
            cases opens
        | blob marker =>
            injection whole with first
            rcases marker with same | same
            · exact absurd (first.trans same) no_x
            · exact absurd (first.trans same) no_upper
        | line =>
            injection whole with first second
            subst first
            rw [second] at here
            cases here
        | block =>
            injection whole with first second
            subst first
            rw [second, opened?_eq_none_iff] at here
            exact absurd ⟨rfl, rfl⟩ here.2.2
      · intro later
        refine .plain other here quote (fun marker => ?_) later
        rcases marker with same | same
        · exact absurd same no_x
        · exact absurd same no_upper

theorem inert_of_isDigit (digit : c.isDigit = true) : Inert c := by
  have name := isNameChar_of_isDigit digit
  obtain ⟨other, quote⟩ := bare_of_isNameChar name
  exact ⟨other, quote, ne_of_isDigit digit (by decide), ne_of_isDigit digit (by decide),
    ne_of_isDigit digit (by decide)⟩

theorem inert_of_isNumberRest (shape : IsNumberRest w) : ∀ c ∈ w, Inert c := by
  obtain ⟨a, f, x, rfl, whole, fraction, exponent⟩ := shape
  have front : ∀ c ∈ a, Inert c := fun c member => inert_of_isDigit (whole c member)
  have places : ∀ c ∈ f, Inert c := by
    rcases fraction with rfl | ⟨ds, rfl, _, digits⟩
    · simp
    · exact List.forall_mem_cons.mpr
        ⟨by decide, fun c member => inert_of_isDigit (digits c member)⟩
  have power : ∀ c ∈ x, Inert c := by
    rcases exponent with rfl | ⟨e, sign, ds, rfl, letter, signed, _, digits⟩
    · simp
    · have e_inert : Inert e := by rcases letter with rfl | rfl <;> decide
      have sign_inert : ∀ c ∈ sign, Inert c := by
        rcases signed with rfl | rfl | rfl
        · simp
        · exact List.forall_mem_singleton.mpr (by decide)
        · exact List.forall_mem_singleton.mpr (by decide)
      exact List.forall_mem_cons.mpr ⟨e_inert, List.forall_mem_append.mpr
        ⟨sign_inert, fun c member => inert_of_isDigit (digits c member)⟩⟩
  exact List.forall_mem_append.mpr ⟨front, List.forall_mem_append.mpr ⟨places, power⟩⟩

theorem inert_of_symbolAt {mark : Symbol} (other : mark ≠ .question)
    (symbol : symbolAt c (w ++ tail) = some (mark, w.length)) : ∀ d ∈ c :: w, Inert d := by
  rcases symbolAt_cases symbol with ⟨d, rfl, double⟩ | ⟨rfl, single, _⟩
  · have both : Inert c ∧ Inert d := by
      unfold doubleSymbol at double
      split at double <;> first | (cases double; done) | decide
    simpa using both
  · have alone : Inert c := by
      unfold singleSymbol at single
      split at single <;>
        first | (cases single; exact absurd rfl other) | (cases single; done) | decide
    simpa using alone

theorem inert_of_isBlank (blank : isBlank c = true) : Inert c := by
  refine ⟨?_, ?_, ?_, ?_, ?_⟩
  · rintro rfl
    cases blank
  · rw [Bool.eq_false_iff]
    intro opens
    rcases quote_cases opens with rfl | rfl <;> cases blank
  all_goals
    rintro rfl
    cases blank

/-- Code that is neither a name nor a question mark holds no question mark. -/
theorem bare_of_lexed {lexeme : Lexeme} (lexed : Lexed lexeme (c :: w) tail)
    (clear : ∀ reason, lexeme ≠ .token (.error reason)) (code : isCodeLexeme lexeme = true)
    (other : lexeme ≠ .token (.symbol .question)) (quiet : isName lexeme = true → '?' ∉ c :: w) :
    '?' ∉ c :: w := by
  have inert (inside : ∀ d ∈ c :: w, Inert d) : '?' ∉ c :: w := fun member =>
    (inside '?' member).1 rfl
  cases lexed with
  | blank blank => exact inert (List.forall_mem_singleton.mpr (inert_of_isBlank blank))
  | line => cases code
  | block => cases code
  | symbol bare comment symbol =>
      exact inert (inert_of_symbolAt (fun same => other (by rw [same])) symbol)
  | string => cases code
  | quotedName => exact quiet rfl
  | blob => cases code
  | number digit shape number =>
      exact inert (List.forall_mem_cons.mpr ⟨inert_of_isDigit digit, inert_of_isNumberRest shape⟩)
  | word starts bare inside stop noBlob =>
      exact fun member => (bare_of_isNameChar (isNameChar_of_mem_word starts inside _ member)).1 rfl
  | error reason => exact absurd rfl (clear reason)

/-- The run of a blob, whose digits hold no quote. -/
theorem eq_of_quotedRun {quote : Char} {content : List Char}
    (run : QuotedRun quote false w content) (inside : ∀ c ∈ content, c ≠ quote) :
    w = content ++ [quote] := by
  induction run with
  | close => rfl
  | double => exact absurd rfl (inside _ (List.mem_cons_self ..))
  | escape allowed => cases allowed
  | plain _ _ _ ih => rw [ih (List.forall_mem_cons.mp inside).2, List.cons_append]

/-- A lexeme counts as what it is, unless it is the name before a string. -/
theorem marks_of_lexed {lexeme : Lexeme} (lexed : Lexed lexeme (c :: w) tail)
    (clear : ∀ reason, lexeme ≠ .token (.error reason))
    (spaced : ∀ name, lexeme = .token (.identifier name) → tail.head? ≠ some '\'')
    (later : Marks tail (allMarks (kindsIn tail))) :
    Marks (c :: w ++ tail) (allMarks (kindsIn (c :: w ++ tail))) := by
  rw [kindsIn_of_lexed lexed clear]
  by_cases question : lexeme = .token (.symbol .question)
  · have counted : allMarks ([.symbol .question] ++ kindsIn tail) = allMarks (kindsIn tail) + 1 :=
      allMarks_mark
    rw [covered_of_question lexed question, question]
    exact counted ▸ .mark later
  rw [allMarks_kind? question]
  have inert_run (code : Unopened tail (c :: w)) (inert : ∀ d ∈ c :: w, Inert d) :
      Marks (c :: w ++ tail) (allMarks (kindsIn tail)) :=
    (marks_append_iff code inert).mpr later
  cases lexed with
  | blank blank =>
      exact inert_run (unopened_blank blank)
        (List.forall_mem_singleton.mpr (inert_of_isBlank blank))
  | line inside stop => exact .line inside stop later
  | block closes => exact .block (cutAtPair_iff.mp closes) later
  | symbol bare comment symbol =>
      refine inert_run (unopened_symbol comment symbol) (inert_of_symbolAt ?_ symbol)
      rintro rfl
      exact question rfl
  | string run stop => exact .string run stop later
  | quotedName opens run stop => exact .name opens run stop later
  | blob marker run stop even digits =>
      have no_quote : ∀ d ∈ _, d ≠ '\'' := ne_of_digits rfl (by decide) (by decide) digits
      have no_escape : ∀ d ∈ _, d ≠ '\\' := ne_of_digits rfl (by decide) (by decide) digits
      obtain rfl := eq_of_quotedRun run no_quote
      exact .blob marker (fun d member => ⟨no_quote d member, no_escape d member⟩) stop later
  | number digit shape number =>
      exact inert_run (unopened_of_isNumberRest digit shape)
        (List.forall_mem_cons.mpr ⟨inert_of_isDigit digit, inert_of_isNumberRest shape⟩)
  | word starts bare inside stop noBlob =>
      have names := isNameChar_of_mem_word starts inside
      refine marks_run (unopened_word starts inside)
        (fun d member => bare_of_isNameChar (names d member)) (fun d last marker => ?_) later
      cases reserved : Keyword.lookup (String.ofList (c :: w)) with
      | some keyword => exact absurd marker (lookup_of_marker reserved last)
      | none => exact spaced _ (by rw [wordKind, reserved])
  | error reason => exact absurd rfl (clear reason)

/-- In a text without errors, in which no literal stands right behind a name, the question marks
outside of quotes and comments are those the lexer finds. -/
theorem marks_of_spaced {chars : List Char} {named : Bool} (spaced : Spaced named (kindsIn chars))
    (clear : Clear (lexemes chars)) : Marks chars (allMarks (kindsIn chars)) := by
  induction chars using lexed_induction generalizing named with
  | nil =>
      rw [kindsIn, lexemes]
      exact .nil
  | cons lexeme c w tail lexed ih =>
      obtain ⟨fine, clear_later⟩ := clear.of_cons
      rw [kindsIn_of_lexed lexed fine] at spaced
      refine marks_of_lexed lexed fine ?_ ?_
      · rintro name rfl quote
        cases tail with
        | nil => cases quote
        | cons d rest =>
            cases quote
            exact not_spaced_quote (clear_lexemes_iff.mp clear_later) spaced.2
      · cases lexeme with
        | token kind => exact ih spaced.2 clear_later
        | blank => exact ih spaced clear_later
        | comment => exact ih spaced clear_later

end Lexemes

/-! ## The marks of a grown text -/

section Growing

variable {named : Bool} {n : Nat} {chars chars' tail : List Char}

/-- Before a grown text may stand a suffix, which is a word of its own or the end of one. -/
theorem marks_of_front (grown : Grown named chars chars')
    (marks : ∀ rest', Grown false chars rest' → Marks rest' n) : Marks chars' n := by
  obtain ⟨g, rest', rfl, later, rfl | ⟨ends, w, rfl, word⟩⟩ := grown.front
  · exact marks rest' later
  · refine .word word (fun d head => ?_) (marks rest' later)
    have mark := later.endsName ends d head
    rw [Bool.eq_false_iff]
    intro word
    rw [isNameChar_of_isWordChar word] at mark
    cases mark

theorem marker_of_toLower {c c' : Char} (same : c.toLower = c'.toLower)
    (marker : c = 'x' ∨ c = 'X') : c' = 'x' ∨ c' = 'X' := by
  have codes := congrArg Char.toNat same
  rw [toNat_toLower, toNat_toLower] at codes
  have lower : 'x'.toNat = 120 := by decide
  have upper : 'X'.toNat = 88 := by decide
  rw [← Char.toNat_inj, ← Char.toNat_inj, lower, upper]
  rcases marker with rfl | rfl
  · rw [lower, if_neg (by omega)] at codes
    split at codes <;> omega
  · rw [upper, if_pos (by omega)] at codes
    split at codes <;> omega

/-- Code stays code where a text grows. -/
theorem opened?_of_grown {c c' : Char} (same : c.toLower = c'.toLower)
    (grown : Grown named chars chars') (code : opened? c chars = none) :
    opened? c' chars' = none := by
  rw [opened?_eq_none_iff] at code ⊢
  obtain ⟨literal, line, block⟩ := code
  refine ⟨?_, ?_, ?_⟩
  · rintro rfl
    exact literal (eq_of_mark (by decide) same.symm)
  · rintro ⟨rfl, second⟩
    exact line ⟨eq_of_mark (by decide) same.symm, grown.head (by decide) second⟩
  · rintro ⟨rfl, second⟩
    exact block ⟨eq_of_mark (by decide) same.symm, grown.head (by decide) second⟩

/-- A blob stays a blob, or a suffix behind its `X` makes a string of it, which is as long. -/
theorem marks_of_grown_digits {x : Char} {digits : List Char} (marker : x = 'x' ∨ x = 'X')
    (inside : ∀ c ∈ digits, c ≠ '\'' ∧ c ≠ '\\') (stop : tail.head? ≠ some '\'')
    (grown : Grown named ('\'' :: (digits ++ ['\'']) ++ tail) chars')
    (marks : ∀ tail', Grown false tail tail' → Marks tail' n) : Marks (x :: chars') n := by
  obtain ⟨g, rest', rfl, from_quote, front⟩ := grown.front
  obtain ⟨rest₁, rfl, from_digits⟩ := from_quote.mark (by decide)
  rw [List.append_eq, List.append_assoc] at from_digits
  obtain ⟨digits', rest₂, rfl, digits_grown, from_end⟩ :=
    from_digits.split (endsName_cons _ (by decide))
  obtain ⟨tail', rfl, behind⟩ := from_end.mark (by decide)
  have inside' : ∀ c ∈ digits', c ≠ '\'' ∧ c ≠ '\\' := fun c member =>
    ⟨digits_grown.forall_ne (by decide) (fun d member => (inside d member).1) c member,
      digits_grown.forall_ne (by decide) (fun d member => (inside d member).2) c member⟩
  have stop' : tail'.head? ≠ some '\'' := fun quote => stop (behind.head (by decide) quote)
  have whole : '\'' :: (digits' ++ '\'' :: tail') = '\'' :: (digits' ++ ['\'']) ++ tail' := by simp
  rw [whole]
  rcases front with rfl | ⟨_, w, rfl, word⟩
  · exact .blob marker inside' stop' (marks tail' behind)
  · have string := Marks.string (quotedRun_of_forall inside') stop' (marks tail' behind)
    have quote : ∀ d, ('\'' :: (digits' ++ ['\'']) ++ tail').head? = some d →
        isWordChar d = false := by
      rintro d ⟨⟩
      decide
    obtain ⟨other, literal, line, block, bare⟩ :
        x ≠ '?' ∧ x ≠ '\'' ∧ x ≠ '-' ∧ x ≠ '/' ∧ isQuote x = false := by
      rcases marker with rfl | rfl <;> decide
    exact .plain other (opened?_of_other _ literal line block) bare (fun _ => by simp)
      (.word word quote string)

/-- A line stays a line: where it ends, no suffix can stand. -/
theorem marks_of_grown_line {line : List Char} (inside : ∀ c ∈ line, c ≠ '\n')
    (stop : tail = [] ∨ tail.head? = some '\n') (grown : Grown false ('-' :: line ++ tail) chars')
    (marks : ∀ tail', Grown false tail tail' → Marks tail' n) : Marks ('-' :: chars') n := by
  obtain ⟨rest, rfl, from_inside⟩ := grown.mark (by decide)
  obtain ⟨line', tail', rfl, line_grown, behind⟩ := from_inside.split (endsName_of_stop stop)
  refine .line (line_grown.forall_ne (by decide) inside) ?_ (marks tail' behind)
  rcases stop with rfl | newline
  · cases behind
    exact .inl rfl
  · cases behind with
    | nil => cases newline
    | char same =>
        cases newline
        exact .inr (congrArg some (eq_of_mark (by decide) same))

/-- A block stays a block: what grows in it is no mark that would close it. -/
theorem marks_of_grown_block {inside : List Char} (unclosed : Unclosed inside)
    (grown : Grown false ('*' :: (inside ++ ['*', '/']) ++ tail) chars')
    (marks : ∀ tail', Grown false tail tail' → Marks tail' n) : Marks ('/' :: chars') n := by
  obtain ⟨rest, rfl, from_inside⟩ := grown.mark (by decide)
  rw [List.append_eq, List.append_assoc] at from_inside
  obtain ⟨inside', rest₁, rfl, inside_grown, from_end⟩ :=
    from_inside.split (endsName_cons _ (by decide))
  obtain ⟨rest₂, rfl, from_slash⟩ := from_end.mark (by decide)
  obtain ⟨tail', rfl, behind⟩ := from_slash.mark (by decide)
  have whole := Marks.block (inside_grown.unclosed unclosed) (marks tail' behind)
  simpa using whole

/-- A grown text has as many marks. -/
theorem Marks.grown (marks : Marks chars n) (grown : Grown named chars chars') :
    Marks chars' n := by
  -- Each part is cut off the grown text again, with the suffix that may stand before it.
  induction marks generalizing named chars' with
  | nil =>
      refine marks_of_front grown fun rest' nothing => ?_
      cases nothing
      exact .nil
  | mark later ih =>
      refine marks_of_front grown fun rest' from_mark => ?_
      obtain ⟨rest₁, rfl, behind⟩ := from_mark.mark (by decide)
      exact .mark (ih behind)
  | plain other code bare noBlob later ih =>
      refine marks_of_front grown fun rest' from_plain => ?_
      cases from_plain with
      | @char _ c c' _ _ same behind =>
          refine .plain ?_ (opened?_of_grown same behind code) ?_ (fun marker quote => ?_)
            (ih behind)
          · rintro rfl
            exact other (eq_of_mark (by decide) same.symm)
          · rw [Bool.eq_false_iff]
            intro opens
            rw [← eq_of_mark (isNameChar_of_isQuote opens) same.symm, bare] at opens
            cases opens
          · exact noBlob (marker_of_toLower same.symm marker) (behind.head (by decide) quote)
  | word inside stop later ih =>
      refine marks_of_front grown fun rest' from_word => ?_
      cases from_word with
      | @char _ _ c' _ _ same from_rest =>
          obtain rfl | ⟨letter, _⟩ := eq_or_letters same
          · obtain ⟨w', tail', rfl, inside', behind⟩ := from_rest.words inside
            refine .word inside' (fun d head => ?_) (ih behind)
            cases behind with
            | nil => cases head
            | @char _ c _ _ _ same =>
                cases head
                rw [← isWordChar_of_toLower same]
                exact stop c rfl
          · cases letter
  | string run stop later ih =>
      refine marks_of_front grown fun rest' from_quote => ?_
      obtain ⟨rest₁, rfl, from_run⟩ := from_quote.mark (by decide)
      obtain ⟨w', content', tail', rfl, run', behind⟩ := from_run.quoted run (by decide)
      exact .string run' (fun quote => stop (behind.head (by decide) quote)) (ih behind)
  | name opens run stop later ih =>
      have mark := isNameChar_of_isQuote opens
      refine marks_of_front grown fun rest' from_quote => ?_
      obtain ⟨rest₁, rfl, from_run⟩ := from_quote.mark mark
      obtain ⟨w', content', tail', rfl, run', behind⟩ := from_run.quoted run mark
      exact .name opens run' (fun quote => stop (behind.head mark quote)) (ih behind)
  | blob marker inside stop later ih =>
      refine marks_of_front grown fun rest' from_marker => ?_
      cases from_marker with
      | @char _ _ x' _ _ same from_quote =>
          have marker' := marker_of_toLower same marker
          exact marks_of_grown_digits marker' inside stop from_quote fun tail' behind => ih behind
  | line inside stop later ih =>
      refine marks_of_front grown fun rest' from_line => ?_
      obtain ⟨rest₁, rfl, from_second⟩ := from_line.mark (by decide)
      exact marks_of_grown_line inside stop from_second fun tail' behind => ih behind
  | block unclosed later ih =>
      refine marks_of_front grown fun rest' from_block => ?_
      obtain ⟨rest₁, rfl, from_star⟩ := from_block.mark (by decide)
      exact marks_of_grown_block unclosed from_star fun tail' behind => ih behind

end Growing

/-! ## What the lexer makes of the marks -/

section Counting

variable {c : Char} {w rest tail chars : List Char} {n : Nat}

theorem commentAt_of_opened (code : opened? c rest = none) : commentAt c rest = none := by
  unfold commentAt
  split
  · cases code
  · have block := (opened?_eq_none_iff.mp code).2.2
    exact absurd ⟨rfl, rfl⟩ block
  · rfl

theorem allMarks_of_cut {cut : Cut} (first : cutAtHead c (w ++ tail) = cut)
    (extra : cut.extra = w.length) (other : cut.lexeme ≠ .token (.symbol .question)) :
    allMarks (kindsIn (c :: w ++ tail)) = allMarks (kindsIn tail) := by
  rw [List.cons_append, kindsIn_cons, first, allMarks_kind? other, extra, List.drop_left]

theorem allMarks_of_lexed {lexeme : Lexeme} (lexed : Lexed lexeme (c :: w) tail)
    (clear : ∀ reason, lexeme ≠ .token (.error reason))
    (other : lexeme ≠ .token (.symbol .question)) :
    allMarks (kindsIn (c :: w ++ tail)) = allMarks (kindsIn tail) :=
  allMarks_of_cut (lexed.cut clear) rfl other

theorem eq_of_words {v others : List Char} (inside : ∀ d ∈ w, isWordChar d = true)
    (stop : ∀ d, tail.head? = some d → isWordChar d = false)
    (inside' : ∀ d ∈ v, isWordChar d = true)
    (stop' : ∀ d, others.head? = some d → isWordChar d = false)
    (same : v ++ others = w ++ tail) : others = tail := by
  rw [← dropWhile_append_of_stop inside' stop', same, dropWhile_append_of_stop inside stop]

/-- The rest of a word holds no marks. Where it ends in the `X` of a blob, a string of the same
extent stands behind it. -/
theorem marks_words (inside : ∀ d ∈ w, isWordChar d = true)
    (stop : ∀ d, tail.head? = some d → isWordChar d = false) (marks : Marks (w ++ tail) n) :
    Marks tail n := by
  induction w with
  | nil => exact marks
  | cons d w ih =>
      obtain ⟨here, inside⟩ := List.forall_mem_cons.mp inside
      have name := isNameChar_of_isWordChar here
      rw [List.cons_append] at marks
      generalize whole : d :: (w ++ tail) = all at marks
      cases marks with
      | nil => cases whole
      | mark =>
          injection whole with first
          exact absurd first (ne_of_isNameChar name (by decide))
      | plain _ _ _ _ later =>
          cases whole
          exact ih inside later
      | word inside' stop' later =>
          injection whole with _ second
          rwa [← eq_of_words inside stop inside' stop' second.symm]
      | string =>
          injection whole with first
          exact absurd first (ne_of_isNameChar name (by decide))
      | name opens =>
          injection whole with first
          exact absurd first (ne_of_isNameChar name (isNameChar_of_isQuote opens))
      -- The word ends here: its last letter was taken for the opening of a blob, and what is left
      -- is a string.
      | blob marker digits stop' later =>
          injection whole with _ second
          cases w with
          | nil =>
              rw [List.nil_append] at second
              rw [second]
              exact .string (quotedRun_of_forall digits) stop' later
          | cons e w =>
              injection second with first
              have quote := inside e (List.mem_cons_self ..)
              rw [first] at quote
              cases quote
      | line =>
          injection whole with first
          exact absurd first (ne_of_isNameChar name (by decide))
      | block =>
          injection whole with first
          exact absurd first (ne_of_isNameChar name (by decide))

/-- A cut that takes no mark: it takes characters that count for nothing, or the rest of a word. -/
def Skips (rest : List Char) (cut : Cut) : Prop :=
  cut.lexeme ≠ .token (.symbol .question) ∧ ∃ w tail, rest = w ++ tail ∧ cut.extra = w.length ∧
    (Unopened tail w ∧ (∀ d ∈ w, Inert d) ∨
      (∀ d ∈ w, isWordChar d = true) ∧ ∀ d, tail.head? = some d → isWordChar d = false)

theorem skips_nothing {lexeme : Lexeme} (other : lexeme ≠ .token (.symbol .question)) :
    Skips rest ⟨lexeme, 0⟩ :=
  ⟨other, [], rest, rfl, rfl, .inl ⟨trivial, by simp⟩⟩

theorem skips_symbol {mark : Symbol} {extra : Nat} (other : c ≠ '?') (visible : isBlank c = false)
    (comment : commentAt c rest = none) (found : symbolAt c rest = some (mark, extra)) :
    Skips rest (.token (.symbol mark) extra) := by
  have whole : rest = rest.take extra ++ rest.drop extra := (List.take_append_drop ..).symm
  have covered := length_of_symbolAt found
  generalize rest.take extra = w at whole covered
  generalize rest.drop extra = tail at whole
  subst whole covered
  have no_mark : mark ≠ .question := by
    rintro rfl
    exact other (List.cons.inj (covered_of_question (.symbol visible comment found) rfl)).1
  have inert := inert_of_symbolAt no_mark found
  exact ⟨by simpa [Cut.token] using no_mark, w, tail, rfl, rfl,
    .inl ⟨(unopened_symbol comment found).2, (List.forall_mem_cons.mp inert).2⟩⟩

theorem skips_number (digit : c.isDigit = true) : Skips rest (cutNumber c rest) := by
  obtain ⟨w, tail, rfl, extra, shape⟩ := cutNumber_shape c rest
  refine ⟨fun same => ?_, w, tail, rfl, extra, .inl ⟨?_, inert_of_isNumberRest shape⟩⟩
  · have cut : cutNumber c (w ++ tail) =
        .token (.symbol .question) (cutNumber c (w ++ tail)).extra := by
      rw [Cut.token, ← same]
    rcases isNumeral_of_cutNumber cut with ⟨_, same⟩ | ⟨_, same⟩ | ⟨_, same⟩ <;> cases same
  · exact (unopened_of_isNumberRest digit shape).2

theorem wordKind_ne_symbol (word : List Char) (mark : Symbol) : wordKind word ≠ .symbol mark := by
  unfold wordKind
  split <;> simp

theorem skips_word : Skips rest (cutWord c rest) := by
  have whole : rest = rest.takeWhile isWordChar ++ rest.dropWhile isWordChar :=
    List.takeWhile_append_dropWhile.symm
  rw [cutWord_eq]
  refine ⟨?_, rest.takeWhile isWordChar, rest.dropWhile isWordChar, whole, rfl, .inr ⟨?_, ?_⟩⟩
  · simpa [Cut.token] using wordKind_ne_symbol _ .question
  · exact fun d member => List.mem_takeWhile_imp member
  · exact fun d head => head?_dropWhile_of_some head

/-- Where nothing opens, no mark is taken. -/
theorem skips_cutAtHead (other : c ≠ '?') (code : opened? c rest = none) (bare : isQuote c = false)
    (noBlob : c = 'x' ∨ c = 'X' → rest.head? ≠ some '\'') : Skips rest (cutAtHead c rest) := by
  unfold cutAtHead
  split
  · exact skips_nothing (by simp)
  · next visible =>
      have visible : isBlank c = false := by simpa using visible
      have comment := commentAt_of_opened code
      rw [comment, Option.getD_none]
      unfold tokenAt
      split
      · next found => exact skips_symbol other visible comment found
      · split
        · next quote =>
            subst quote
            cases code
        · split
          · next opens =>
              have opens : isQuote c = true := by simpa [isQuote] using opens
              rw [bare] at opens
              cases opens
          · split
            · next blob => exact absurd blob.2 (noBlob blob.1)
            · split
              · next digit => exact skips_number digit
              · split
                · exact skips_word
                · exact skips_nothing (by simp)

theorem allMarks_of_skips (skips : Skips rest (cutAtHead c rest)) (marks : Marks rest n) :
    ∃ w tail, rest = w ++ tail ∧ Marks tail n ∧
      allMarks (kindsIn (c :: rest)) = allMarks (kindsIn tail) := by
  obtain ⟨other, w, tail, rfl, extra, ⟨code, inert⟩ | ⟨inside, stop⟩⟩ := skips
  · exact ⟨w, tail, rfl, (marks_append_iff code inert).mp marks, allMarks_of_cut rfl extra other⟩
  · exact ⟨w, tail, rfl, marks_words inside stop marks, allMarks_of_cut rfl extra other⟩

/-- A blob is a token, if only for what is wrong with its digits. -/
theorem allMarks_blob {x : Char} {digits : List Char} (marker : x = 'x' ∨ x = 'X')
    (inside : ∀ c ∈ digits, c ≠ '\'' ∧ c ≠ '\\') (stop : tail.head? ≠ some '\'') :
    allMarks (kindsIn (x :: '\'' :: (digits ++ ['\'']) ++ tail)) = allMarks (kindsIn tail) := by
  have run : QuotedRun '\'' false (digits ++ ['\'']) digits := quotedRun_of_forall inside
  have cut := cutAtHead_marker marker (digits ++ ['\''] ++ tail)
  have shape : (cutBlob (digits ++ ['\''] ++ tail)).extra = ('\'' :: (digits ++ ['\''])).length ∧
      (cutBlob (digits ++ ['\''] ++ tail)).lexeme ≠ .token (.symbol .question) := by
    unfold cutBlob
    rw [run.eq stop]
    dsimp only
    split
    · exact ⟨rfl, by simp [Cut.failure]⟩
    · split
      · exact ⟨rfl, by simp [Cut.token]⟩
      · exact ⟨rfl, by simp [Cut.failure]⟩
  exact allMarks_of_cut cut shape.1 shape.2

/-- The lexer finds as many parameters as there are marks. -/
theorem Marks.count (marks : Marks chars n) : allMarks (kindsIn chars) = n := by
  -- A word or a number of the lexer is a stretch of many plain characters, so that the induction
  -- is on the length and not along the marks.
  induction length : chars.length using Nat.strong_induction_on generalizing chars n with
  | _ size ih =>
      have behind {c : Char} {w tail : List Char} {n : Nat} (whole : chars = c :: w ++ tail)
          (marks : Marks tail n) : allMarks (kindsIn tail) = n := by
        refine ih _ ?_ marks rfl
        rw [← length, whole, List.cons_append, List.length_cons, List.length_append]
        omega
      cases marks with
      | nil =>
          rw [kindsIn, lexemes]
          rfl
      | @mark rest n later =>
          have symbol : symbolAt '?' ([] ++ rest) = some (.question, 0) := by
            cases rest <;> rfl
          have lexed : Lexed (.token (.symbol .question)) ['?'] rest :=
            .symbol (by decide) (commentAt_of_other _ (by decide) (by decide)) symbol
          have kinds := kindsIn_of_lexed lexed (by simp)
          rw [List.singleton_append] at kinds
          rw [kinds, ← behind (w := []) rfl later]
          exact allMarks_mark
      | plain other code bare noBlob later =>
          obtain ⟨w, tail, rfl, marks, same⟩ :=
            allMarks_of_skips (skips_cutAtHead other code bare noBlob) later
          rw [same]
          exact behind rfl marks
      | word inside stop later =>
          rw [← behind rfl later]
          refine allMarks_of_lexed (.word (by decide) (by decide) inside stop ?_) ?_ ?_
          · rintro (same | same) <;> cases same
          · simpa using wordKind_ne_error _
          · simpa using wordKind_ne_symbol _ _
      | string run stop later =>
          rw [← behind rfl later]
          exact allMarks_of_lexed (.string run stop) (by simp) (by simp)
      | name opens run stop later =>
          rw [← behind rfl later]
          exact allMarks_of_lexed (.quotedName opens run stop) (by simp) (by simp)
      | blob marker inside stop later =>
          rw [← behind rfl later]
          exact allMarks_blob marker inside stop
      | line inside stop later =>
          rw [← behind rfl later]
          exact allMarks_of_lexed (.line inside stop) (by simp) (by simp)
      | block unclosed later =>
          rw [← behind rfl later]
          exact allMarks_of_lexed (.block (cutAtPair_iff.mpr unclosed)) (by simp) (by simp)

end Counting

/-! ## Whole statements -/

/-- In the text of a statement the question marks outside of quotes and comments are those the lexer
finds. -/
theorem marks_of_parse {text : String} {statement : Statement}
    (parsed : Statement.parse text = .ok statement) :
    Marks text.toList ((tokenKinds text).count (.symbol .question)) := by
  have spaced := spaced_tokenKinds parsed
  have clear := clear_iff.mpr (error_not_mem_tokenKinds parsed)
  rw [tokenKinds_eq] at spaced ⊢
  exact marks_of_spaced spaced clear

/-- The statement for a shard binds as many parameters as the one it is made from, whatever tables
are renamed, as long as the suffixes go on a word: as letters, digits and underscores do. -/
theorem Rewrites.parameters_kept {sql : String} {statement : Statement}
    (parsed : Statement.parse sql = .ok statement) {plan : List TableShards}
    (suffixes : ∀ shards ∈ plan, ∀ suffix ∈ shards.suffixes, ∀ c ∈ suffix.toList,
      isWordChar c = true)
    {s : ShardStatement} (member : s ∈ (Rewrites.ofPlan sql plan).toList) :
    (tokenKinds s.sql).count (.symbol .question) = (tokenKinds sql).count (.symbol .question) := by
  have sound : (Rewrites.ofPlan sql plan).Sound fun _ suffix =>
      ∀ c ∈ suffix.toList, isWordChar c = true := Rewrites.sound_ofPlan suffixes
  obtain ⟨text, tables⟩ := sound.mem_take member
  have adds : AddsSuffixes s.renamings := by
    intro entry renamed
    obtain ⟨pair, inside, rfl⟩ := List.mem_map.mp renamed
    obtain ⟨suffix, word, spelled⟩ := tables pair inside
    refine ⟨suffix.toList, word, ?_⟩
    rw [spelled, toList_physicalName]
  have grown : Grown false sql.toList s.sql.toList := by
    rw [text, renameWords_eq, String.toList_ofList]
    exact grown_renamedAfter adds false sql.toList
  rw [tokenKinds_eq s.sql]
  exact ((marks_of_parse parsed).grown grown).count

/-- Renaming the table `x` makes a string of the blob, and of the other quotes nothing else. -/
theorem Rewrites.parameters_kept_blob :
    (∃ statement, Statement.parse "SELECT * FROM x WHERE a = ? AND b = x'0A' AND c = '?'" =
        .ok statement) ∧
      ⟨"SELECT * FROM x_1 WHERE a = ? AND b = x_1'0A' AND c = '?'", 0, [("x", "x_1")]⟩ ∈
        (Rewrites.ofPlan "SELECT * FROM x WHERE a = ? AND b = x'0A' AND c = '?'"
          [⟨"x", ["1"]⟩]).toList ∧
      (tokenKinds "SELECT * FROM x_1 WHERE a = ? AND b = x_1'0A' AND c = '?'").count
        (.symbol .question) = 1 := by
  have parsed : ∃ statement,
      Statement.parse "SELECT * FROM x WHERE a = ? AND b = x'0A' AND c = '?'" =
        .ok statement := by
    have fine : (Statement.parse
        "SELECT * FROM x WHERE a = ? AND b = x'0A' AND c = '?'").isOk = true := by
      decide +kernel
    cases read : Statement.parse "SELECT * FROM x WHERE a = ? AND b = x'0A' AND c = '?'" with
    | ok statement => exact ⟨statement, rfl⟩
    | error =>
        rw [read] at fine
        cases fine
  have member : ⟨"SELECT * FROM x_1 WHERE a = ? AND b = x_1'0A' AND c = '?'", 0,
      [("x", "x_1")]⟩ ∈ (Rewrites.ofPlan "SELECT * FROM x WHERE a = ? AND b = x'0A' AND c = '?'"
        [⟨"x", ["1"]⟩]).toList := by
    decide +kernel
  have marks : (tokenKinds "SELECT * FROM x WHERE a = ? AND b = x'0A' AND c = '?'").count
      (.symbol .question) = 1 := by
    decide +kernel
  obtain ⟨statement, read⟩ := parsed
  have kept := Rewrites.parameters_kept read (by simp; decide) member
  exact ⟨⟨statement, read⟩, member, kept.trans marks⟩

end ShardedSql
