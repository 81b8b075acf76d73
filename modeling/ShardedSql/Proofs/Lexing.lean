import Mathlib.Data.List.TakeWhile
import ShardedSql.Proofs.LetterFold
import ShardedSql.Sql.TokenStream

/-!
What the lexemes of a text are. `Lexed lexeme covered tail` says that a text which starts with
`covered` and goes on with `tail` is cut behind `covered`; the tail matters, since words, numbers
and symbols are as long as they can be. Main statements: every cut is of one of these forms, and
each form is cut so.
-/

namespace ShardedSql.Sql

open Numeric Text

/-! ## The kinds of tokens -/

def Lexeme.kind? : Lexeme → Option TokenKind
  | .token kind => some kind
  | .blank => none
  | .comment => none

/-- The kinds of the tokens among characters. -/
def kindsIn (chars : List Char) : List TokenKind :=
  (lexemes chars).filterMap (·.1.kind?)

/-- The kinds of the tokens of a text. -/
def tokenKinds (text : String) : List TokenKind :=
  (textTokens text).map (·.kind)

theorem kinds_placed (offset : Nat) (pieces : List (Lexeme × List Char)) :
    ((placed offset pieces).filterMap asToken).map (·.kind) = pieces.filterMap (·.1.kind?) := by
  induction pieces generalizing offset with
  | nil => rfl
  | cons piece rest ih =>
      obtain ⟨lexeme, covered⟩ := piece
      have later := ih (offset + byteLength covered)
      cases lexeme with
      | blank => simpa [placed, List.filterMap_cons, asToken, Lexeme.kind?] using later
      | comment => simpa [placed, List.filterMap_cons, asToken, Lexeme.kind?] using later
      | token kind => simpa [placed, List.filterMap_cons, asToken, Lexeme.kind?] using later

theorem tokenKinds_eq (text : String) : tokenKinds text = kindsIn text.toList :=
  kinds_placed 0 (lexemes text.toList)

/-! ## Quoted runs -/

/-- A run up to its closing quote, with what it says. -/
inductive QuotedRun (quote : Char) (escapes : Bool) : List Char → List Char → Prop where
  | close : QuotedRun quote escapes [quote] []
  | double {w content : List Char} (rest : QuotedRun quote escapes w content) :
      QuotedRun quote escapes (quote :: quote :: w) (quote :: content)
  | escape {d : Char} {w content : List Char} (allowed : escapes = true) (other : quote ≠ '\\')
      (rest : QuotedRun quote escapes w content) :
      QuotedRun quote escapes ('\\' :: d :: w) (unescape d :: content)
  | plain {c : Char} {w content : List Char} (other : c ≠ quote)
      (bare : ¬ (escapes = true ∧ c = '\\')) (rest : QuotedRun quote escapes w content) :
      QuotedRun quote escapes (c :: w) (c :: content)

theorem quotedRun_of_eq {quote : Char} {escapes : Bool} {rest content : List Char} {n : Nat}
    (run : quotedRun quote escapes rest = some (content, n)) :
    ∃ w tail, rest = w ++ tail ∧ n = w.length ∧ QuotedRun quote escapes w content ∧
      tail.head? ≠ some quote := by
  induction rest using quotedRun.induct quote escapes generalizing content n with
  | case1 => simp [quotedRun] at run
  | case2 =>
      simp only [quotedRun, if_true, Option.some.injEq, Prod.mk.injEq] at run
      obtain ⟨rfl, rfl⟩ := run
      exact ⟨[quote], [], rfl, rfl, .close, by simp⟩
  | case3 c other => simp [quotedRun, other] at run
  | case4 rest ih =>
      simp only [quotedRun, if_true, Option.map_eq_some_iff, Prod.mk.injEq, Prod.exists] at run
      obtain ⟨inner, m, run, rfl, rfl⟩ := run
      obtain ⟨w, tail, rfl, rfl, inside, stop⟩ := ih run
      exact ⟨quote :: quote :: w, tail, rfl, rfl, .double inside, stop⟩
  | case5 d rest other =>
      simp only [quotedRun, if_true, if_neg other, Option.some.injEq, Prod.mk.injEq] at run
      obtain ⟨rfl, rfl⟩ := run
      exact ⟨[quote], d :: rest, rfl, rfl, .close, by simpa using other⟩
  | case6 c d rest other escaped ih =>
      simp only [quotedRun, if_neg other, if_pos escaped, Option.map_eq_some_iff, Prod.mk.injEq,
        Prod.exists] at run
      obtain ⟨inner, m, run, rfl, rfl⟩ := run
      obtain ⟨w, tail, rfl, rfl, inside, stop⟩ := ih run
      obtain ⟨allowed, rfl⟩ := escaped
      exact ⟨'\\' :: d :: w, tail, rfl, rfl, .escape allowed (Ne.symm other) inside, stop⟩
  | case7 c d rest other bare ih =>
      simp only [quotedRun, if_neg other, if_neg bare, Option.map_eq_some_iff, Prod.mk.injEq,
        Prod.exists] at run
      obtain ⟨inner, m, run, rfl, rfl⟩ := run
      obtain ⟨w, tail, after, rfl, inside, stop⟩ := ih run
      exact ⟨c :: w, tail, by rw [after, List.cons_append], rfl, .plain other bare inside, stop⟩

theorem QuotedRun.ne_nil {quote : Char} {escapes : Bool} {w content : List Char}
    (run : QuotedRun quote escapes w content) : w ≠ [] := by
  cases run <;> simp

theorem QuotedRun.closed {quote : Char} {escapes : Bool} {w content : List Char}
    (run : QuotedRun quote escapes w content) : ∃ inside, w = inside ++ [quote] := by
  induction run with
  | close => exact ⟨[], rfl⟩
  | double _ ih =>
      obtain ⟨inside, rfl⟩ := ih
      exact ⟨_ :: _ :: inside, rfl⟩
  | escape _ _ _ ih =>
      obtain ⟨inside, rfl⟩ := ih
      exact ⟨_ :: _ :: inside, rfl⟩
  | plain _ _ _ ih =>
      obtain ⟨inside, rfl⟩ := ih
      exact ⟨_ :: inside, rfl⟩

theorem QuotedRun.length_lt {quote : Char} {escapes : Bool} {w content : List Char}
    (run : QuotedRun quote escapes w content) : content.length < w.length := by
  induction run <;> simp only [List.length_cons, List.length_nil] <;> omega

theorem QuotedRun.eq {quote : Char} {escapes : Bool} {w content tail : List Char}
    (run : QuotedRun quote escapes w content) (stop : tail.head? ≠ some quote) :
    quotedRun quote escapes (w ++ tail) = some (content, w.length) := by
  induction run with
  | close =>
      cases tail with
      | nil => simp [quotedRun]
      | cons d rest =>
          have other : d ≠ quote := by simpa using stop
          simp [quotedRun, other]
  | double _ ih => simp [quotedRun, ih]
  | escape allowed other _ ih =>
      rw [allowed] at ih
      simp [quotedRun, Ne.symm other, allowed, ih]
  | @plain c w content other bare rest ih =>
      cases w with
      | nil => exact absurd rfl rest.ne_nil
      | cons d w =>
          simp only [List.cons_append] at ih ⊢
          simp [quotedRun, other, bare, ih]

/-! ## Comments -/

theorem cutAtPair_eq {first second : Char} {chars inside after : List Char}
    (cut : cutAtPair first second chars = some (inside, after)) :
    chars = inside ++ first :: second :: after := by
  induction chars using cutAtPair.induct first second generalizing inside with
  | case1 => simp [cutAtPair] at cut
  | case2 => simp [cutAtPair] at cut
  | case3 c d rest pair =>
      obtain ⟨rfl, rfl⟩ := pair
      simp only [cutAtPair, and_self, if_true, Option.some.injEq, Prod.mk.injEq] at cut
      obtain ⟨rfl, rfl⟩ := cut
      rfl
  | case4 c d rest other ih =>
      simp only [cutAtPair, if_neg other, Option.map_eq_some_iff, Prod.mk.injEq,
        Prod.exists] at cut
      obtain ⟨before, _, cut, rfl, rfl⟩ := cut
      rw [ih cut, List.cons_append]

theorem commentAt_of_other {c : Char} (rest : List Char) (line : c ≠ '-') (block : c ≠ '/') :
    commentAt c rest = none := by
  unfold commentAt
  split
  · exact absurd rfl line
  · exact absurd rfl block
  · rfl

theorem symbolAt_of_other {c : Char} (rest : List Char) (single : singleSymbol c = none)
    (double : ∀ d, doubleSymbol c d = none) : symbolAt c rest = none := by
  cases rest <;> simp [symbolAt, single, double]

/-! ## Numbers -/

/-- Nothing, or a point and digits. -/
def IsFraction (f : List Char) : Prop :=
  f = [] ∨ ∃ ds, f = '.' :: ds ∧ ds ≠ [] ∧ ∀ d ∈ ds, d.isDigit = true

/-- Nothing, or a letter and digits, perhaps with a sign between. -/
def IsExponent (x : List Char) : Prop :=
  x = [] ∨ ∃ e sign ds, x = e :: (sign ++ ds) ∧ (e = 'e' ∨ e = 'E') ∧
    (sign = [] ∨ sign = ['+'] ∨ sign = ['-']) ∧ ds ≠ [] ∧ ∀ d ∈ ds, d.isDigit = true

/-- A number behind its first digit. -/
def IsNumberRest (w : List Char) : Prop :=
  ∃ a f x, w = a ++ (f ++ x) ∧ (∀ d ∈ a, d.isDigit = true) ∧ IsFraction f ∧ IsExponent x

/-- Nothing that could make a number longer. -/
def EndsNumber (tail : List Char) : Prop :=
  ∀ d, tail.head? = some d → d.isDigit = false ∧ d ≠ '.' ∧ d ≠ 'e' ∧ d ≠ 'E'

theorem takeWhile_append_of_stop {p : Char → Bool} {body rest : List Char}
    (inside : ∀ c ∈ body, p c = true) (stop : ∀ c, rest.head? = some c → p c = false) :
    (body ++ rest).takeWhile p = body := by
  rw [List.takeWhile_append_of_pos inside]
  cases rest with
  | nil => simp
  | cons c tail => simp [stop c rfl]

theorem dropWhile_append_of_stop {p : Char → Bool} {body rest : List Char}
    (inside : ∀ c ∈ body, p c = true) (stop : ∀ c, rest.head? = some c → p c = false) :
    (body ++ rest).dropWhile p = rest := by
  rw [List.dropWhile_append_of_pos inside]
  cases rest with
  | nil => rfl
  | cons c tail => simp [stop c rfl]

theorem head?_dropWhile_of_some {p : Char → Bool} {chars : List Char} {c : Char}
    (head : (chars.dropWhile p).head? = some c) : p c = false := by
  have stop := List.head?_dropWhile_not p chars
  rw [head] at stop
  simpa using stop

theorem fractionDigits_shape (chars : List Char) :
    ∃ f tail, chars = f ++ tail ∧ IsFraction f ∧
      f.length = (if (fractionDigits chars).isSome then ((fractionDigits chars).getD []).length + 1
        else 0) := by
  unfold fractionDigits
  split
  · next rest =>
      cases digits : rest.takeWhile Char.isDigit with
      | nil => exact ⟨[], '.' :: rest, rfl, .inl rfl, by simp⟩
      | cons d ds =>
          refine ⟨'.' :: (d :: ds), rest.dropWhile Char.isDigit, ?_, .inr ⟨_, rfl, by simp, ?_⟩, ?_⟩
          · rw [← digits, List.cons_append, List.takeWhile_append_dropWhile]
          · intro c member
            rw [← digits] at member
            exact List.mem_takeWhile_imp member
          · simp
  · exact ⟨[], chars, rfl, .inl rfl, by simp⟩

/-- An exponent is read by its sign. -/
theorem exponentPart_signed {e : Char} (letter : e = 'e' ∨ e = 'E') {sign unsigned : List Char}
    (signed : sign = ['+'] ∨ sign = ['-'] ∨
      sign = [] ∧ unsigned.head? ≠ some '-' ∧ unsigned.head? ≠ some '+') :
    exponentPart (e :: (sign ++ unsigned)) =
      if (unsigned.takeWhile Char.isDigit).isEmpty then none
      else
        let power : Int := ofDigits (unsigned.takeWhile Char.isDigit)
        some (if sign = ['-'] then -power else power,
          1 + sign.length + (unsigned.takeWhile Char.isDigit).length) := by
  rcases signed with rfl | rfl | ⟨rfl, no_minus, no_plus⟩
  · simp [exponentPart, letter]
  · simp [exponentPart, letter]
  · cases unsigned with
    | nil => simp [exponentPart, letter]
    | cons d rest =>
        have minus : d ≠ '-' := by simpa using no_minus
        have plus : d ≠ '+' := by simpa using no_plus
        simp only [exponentPart, letter, if_true, List.nil_append]
        split
        · next same => exact absurd (List.cons.inj same).1 minus
        · next same => exact absurd (List.cons.inj same).1 plus
        · simp

/-- What stands before the digits of an exponent. -/
theorem exists_sign (rest : List Char) :
    ∃ sign unsigned, rest = sign ++ unsigned ∧ (sign = ['+'] ∨ sign = ['-'] ∨
      sign = [] ∧ unsigned.head? ≠ some '-' ∧ unsigned.head? ≠ some '+') := by
  match rest with
  | '-' :: unsigned => exact ⟨['-'], unsigned, rfl, by simp⟩
  | '+' :: unsigned => exact ⟨['+'], unsigned, rfl, by simp⟩
  | [] => exact ⟨[], [], rfl, by simp⟩
  | d :: unsigned =>
      by_cases minus : d = '-'
      · exact ⟨['-'], unsigned, by simp [minus], by simp⟩
      · by_cases plus : d = '+'
        · exact ⟨['+'], unsigned, by simp [plus], by simp⟩
        · exact ⟨[], d :: unsigned, rfl, by simp [minus, plus]⟩

theorem exponentPart_shape (chars : List Char) :
    ∃ x tail, chars = x ++ tail ∧ IsExponent x ∧
      x.length = ((exponentPart chars).map (·.2)).getD 0 := by
  have none_shape (nothing : exponentPart chars = none) :
      ∃ x tail, chars = x ++ tail ∧ IsExponent x ∧
        x.length = ((exponentPart chars).map (·.2)).getD 0 :=
    ⟨[], chars, rfl, .inl rfl, by simp [nothing]⟩
  cases chars with
  | nil => exact none_shape rfl
  | cons e rest =>
      by_cases letter : e = 'e' ∨ e = 'E'
      · obtain ⟨sign, unsigned, rfl, signed⟩ := exists_sign rest
        have read := exponentPart_signed letter signed
        cases digits : unsigned.takeWhile Char.isDigit with
        | nil => exact none_shape (by simp [read, digits])
        | cons d ds =>
            refine ⟨e :: (sign ++ d :: ds), unsigned.dropWhile Char.isDigit, ?_, ?_, ?_⟩
            · rw [← digits, List.cons_append, List.append_assoc,
                List.takeWhile_append_dropWhile]
            · have signs : sign = [] ∨ sign = ['+'] ∨ sign = ['-'] := by
                rcases signed with plus | minus | ⟨none, _⟩
                · exact .inr (.inl plus)
                · exact .inr (.inr minus)
                · exact .inl none
              refine .inr ⟨e, sign, d :: ds, rfl, letter, signs, by simp, ?_⟩
              intro c member
              rw [← digits] at member
              exact List.mem_takeWhile_imp member
            · simp [read, digits]
              omega
      · exact none_shape (by simp [exponentPart, letter])

theorem exponentPart_append {x tail : List Char} (exponent : IsExponent x)
    (stop : EndsNumber tail) : exponentPart (x ++ tail) = exponentPart x := by
  rcases exponent with rfl | ⟨e, sign, ds, rfl, letter, signed, nonempty, digits⟩
  · cases tail with
    | nil => rfl
    | cons d rest =>
        obtain ⟨_, _, lower, upper⟩ := stop d rfl
        simp [exponentPart, lower, upper]
  -- Without a sign the digits follow directly, and a digit is none.
  · have starts (tail : List Char) : sign = ['+'] ∨ sign = ['-'] ∨ sign = [] ∧
        (ds ++ tail).head? ≠ some '-' ∧ (ds ++ tail).head? ≠ some '+' := by
      rcases signed with rfl | rfl | rfl
      · cases ds with
        | nil => exact absurd rfl nonempty
        | cons d ds =>
            have digit := digits d (List.mem_cons_self ..)
            refine .inr (.inr ⟨rfl, ?_, ?_⟩) <;>
              · simp only [List.cons_append, List.head?_cons, ne_eq, Option.some.injEq]
                rintro rfl
                cases digit
      · exact .inl rfl
      · exact .inr (.inl rfl)
    have whole := exponentPart_signed letter (starts [])
    rw [List.append_nil] at whole
    rw [List.cons_append, List.append_assoc, exponentPart_signed letter (starts tail), whole,
      takeWhile_append_of_stop digits fun d head => (stop d head).1,
      show ds.takeWhile Char.isDigit = ds from List.takeWhile_eq_self_iff.mpr digits]

theorem fractionDigits_append {f x tail : List Char} (fraction : IsFraction f)
    (exponent : IsExponent x) (stop : EndsNumber tail) :
    fractionDigits (f ++ (x ++ tail)) = fractionDigits f := by
  have no_digit : ∀ d, (x ++ tail).head? = some d → d.isDigit = false ∧ d ≠ '.' := by
    intro d head
    rcases exponent with rfl | ⟨e, sign, ds, rfl, rfl | rfl, _⟩
    · exact ⟨(stop d head).1, (stop d head).2.1⟩
    · cases head
      decide
    · cases head
      decide
  rcases fraction with rfl | ⟨ds, rfl, nonempty, digits⟩
  · cases after : x ++ tail with
    | nil => rfl
    | cons d rest =>
        rw [after] at no_digit
        have no_point := (no_digit d rfl).2
        rw [List.nil_append]
        unfold fractionDigits
        split
        · next same => exact absurd (List.cons.inj same).1 no_point
        · rfl
  · simp only [List.cons_append, fractionDigits]
    rw [takeWhile_append_of_stop digits fun d head => (no_digit d head).1,
      show ds.takeWhile Char.isDigit = ds from List.takeWhile_eq_self_iff.mpr digits]

theorem length_of_isFraction {f : List Char} (fraction : IsFraction f) :
    (if (fractionDigits f).isSome then ((fractionDigits f).getD []).length + 1 else 0)
      = f.length := by
  rcases fraction with rfl | ⟨ds, rfl, nonempty, digits⟩
  · rfl
  · have self : ds.takeWhile Char.isDigit = ds := List.takeWhile_eq_self_iff.mpr digits
    simp [fractionDigits, self, nonempty]

/-- A number is cut the same way whatever follows it, if that could not make it longer. -/
theorem cutNumber_append {w tail : List Char} (c : Char) (number : IsNumberRest w)
    (stop : EndsNumber tail) : cutNumber c (w ++ tail) = cutNumber c w := by
  obtain ⟨a, f, x, rfl, digits, fraction, exponent⟩ := number
  have behind {tail : List Char} (stop : EndsNumber tail) (d : Char)
      (head : (f ++ (x ++ tail)).head? = some d) : d.isDigit = false := by
    rcases fraction with rfl | ⟨ds, rfl, _⟩
    · rcases exponent with rfl | ⟨e, sign, ds, rfl, rfl | rfl, _⟩
      · exact (stop d head).1
      · cases head
        decide
      · cases head
        decide
    · cases head
      decide
  -- The text is cut at the same places with `tail` behind it and with nothing.
  have read {tail : List Char} (stop : EndsNumber tail) :
      (a ++ (f ++ (x ++ tail))).takeWhile Char.isDigit = a ∧
        (a ++ (f ++ (x ++ tail))).dropWhile Char.isDigit = f ++ (x ++ tail) :=
    ⟨takeWhile_append_of_stop digits (behind stop), dropWhile_append_of_stop digits (behind stop)⟩
  have nothing : EndsNumber [] := by simp [EndsNumber]
  obtain ⟨taken, dropped⟩ := read stop
  obtain ⟨taken', dropped'⟩ := read nothing
  simp only [List.append_nil] at taken' dropped'
  have fraction_alone := fractionDigits_append fraction exponent nothing
  simp only [List.append_nil] at fraction_alone
  unfold cutNumber
  simp only [List.append_assoc, taken, dropped, taken', dropped',
    fractionDigits_append fraction exponent stop, fraction_alone, length_of_isFraction fraction,
    List.drop_left, exponentPart_append exponent stop]

theorem cutNumber_extra (c : Char) (rest : List Char) :
    (cutNumber c rest).extra = (rest.takeWhile Char.isDigit).length +
      (if (fractionDigits (rest.dropWhile Char.isDigit)).isSome then
        ((fractionDigits (rest.dropWhile Char.isDigit)).getD []).length + 1 else 0) +
      ((exponentPart ((rest.dropWhile Char.isDigit).drop
        (if (fractionDigits (rest.dropWhile Char.isDigit)).isSome then
          ((fractionDigits (rest.dropWhile Char.isDigit)).getD []).length + 1
          else 0))).map (·.2)).getD 0 := by
  unfold cutNumber
  simp only [List.length_cons, Nat.add_sub_cancel, apply_ite Cut.extra, Cut.token, Cut.failure,
    ite_self]

theorem cutNumber_shape (c : Char) (rest : List Char) :
    ∃ w tail, rest = w ++ tail ∧ (cutNumber c rest).extra = w.length ∧ IsNumberRest w := by
  obtain ⟨f, after, behind, fraction, f_length⟩ :=
    fractionDigits_shape (rest.dropWhile Char.isDigit)
  obtain ⟨x, tail, after_eq, exponent, x_length⟩ := exponentPart_shape after
  refine ⟨rest.takeWhile Char.isDigit ++ (f ++ x), tail, ?_, ?_, _, f, x, rfl, ?_, fraction,
    exponent⟩
  · rw [List.append_assoc, List.append_assoc, ← after_eq, ← behind,
      List.takeWhile_append_dropWhile]
  · rw [cutNumber_extra, ← f_length, behind, List.drop_left, ← x_length]
    simp only [List.length_append]
    omega
  · intro d member
    exact List.mem_takeWhile_imp member

/-- The kinds of tokens that start with a digit. -/
def IsNumeral (kind : TokenKind) : Prop :=
  (∃ n, kind = .integer n) ∨ (∃ x, kind = .float x) ∨ ∃ reason, kind = .error reason

theorem isNumeral_ite {p : Prop} [Decidable p] {k k' : TokenKind} (yes : IsNumeral k)
    (no : IsNumeral k') : IsNumeral (if p then k else k') := by
  split
  · exact yes
  · exact no

theorem isNumeral_of_cutNumber {c : Char} {rest : List Char} {kind : TokenKind} {n : Nat}
    (cut : cutNumber c rest = .token kind n) : IsNumeral kind := by
  have lexeme := congrArg Cut.lexeme cut
  simp only [cutNumber, apply_ite Cut.lexeme, Cut.token, Cut.failure, ← apply_ite Lexeme.token,
    Lexeme.token.injEq] at lexeme
  rw [← lexeme]
  exact isNumeral_ite (.inr (.inl ⟨_, rfl⟩))
    (isNumeral_ite (.inl ⟨_, rfl⟩) (.inr (.inr ⟨_, rfl⟩)))

/-! ## The forms of a cut -/

/-- The kind of a bare word. -/
def wordKind (word : List Char) : TokenKind :=
  match Keyword.lookup (String.ofList word) with
  | some keyword => .keyword keyword
  | none => .identifier (String.ofList word)

/-- A bare word is cut off behind its last character. -/
theorem cutWord_eq (c : Char) (rest : List Char) :
    cutWord c rest =
      .token (wordKind (c :: rest.takeWhile isWordChar)) (rest.takeWhile isWordChar).length := by
  unfold cutWord wordKind
  dsimp only
  cases Keyword.lookup (String.ofList (c :: rest.takeWhile isWordChar)) <;> rfl

def startsWord (c : Char) : Bool :=
  isAlphabetic c || c == '_'

def isQuote (c : Char) : Bool :=
  c == '"' || c.toNat == 0x60

inductive Lexed : Lexeme → List Char → List Char → Prop where
  | blank {c : Char} {tail : List Char} (blank : isBlank c = true) : Lexed .blank [c] tail
  | line {line tail : List Char} (inside : ∀ c ∈ line, c ≠ '\n')
      (stop : tail = [] ∨ tail.head? = some '\n') : Lexed .comment ('-' :: '-' :: line) tail
  | block {inside tail : List Char}
      (closes : cutAtPair '*' '/' (inside ++ '*' :: '/' :: tail) = some (inside, tail)) :
      Lexed .comment ('/' :: '*' :: (inside ++ ['*', '/'])) tail
  | symbol {c : Char} {w tail : List Char} {mark : Symbol} (bare : isBlank c = false)
      (comment : commentAt c (w ++ tail) = none)
      (symbol : symbolAt c (w ++ tail) = some (mark, w.length)) :
      Lexed (.token (.symbol mark)) (c :: w) tail
  | string {w content tail : List Char} (run : QuotedRun '\'' true w content)
      (stop : tail.head? ≠ some '\'') :
      Lexed (.token (.string (String.ofList content))) ('\'' :: w) tail
  | quotedName {quote : Char} {w content tail : List Char} (opens : isQuote quote = true)
      (run : QuotedRun quote false w content) (stop : tail.head? ≠ some quote) :
      Lexed (.token (.identifier (String.ofList content))) (quote :: w) tail
  | blob {x : Char} {w content tail : List Char} {bytes : List UInt8} (marker : x = 'x' ∨ x = 'X')
      (run : QuotedRun '\'' false w content) (stop : tail.head? ≠ some '\'')
      (even : (content.filter fun c => !isBlank c).length % 2 = 0)
      (digits : blobBytes (content.filter fun c => !isBlank c) = .ok bytes) :
      Lexed (.token (.blob bytes)) (x :: '\'' :: w) tail
  | number {c : Char} {w tail : List Char} {kind : TokenKind} (digit : c.isDigit = true)
      (shape : IsNumberRest w) (number : cutNumber c (w ++ tail) = .token kind w.length) :
      Lexed (.token kind) (c :: w) tail
  | word {c : Char} {w tail : List Char} (starts : startsWord c = true) (bare : isBlank c = false)
      (inside : ∀ d ∈ w, isWordChar d = true)
      (stop : ∀ d, tail.head? = some d → isWordChar d = false)
      (noBlob : c = 'x' ∨ c = 'X' → (w ++ tail).head? ≠ some '\'') :
      Lexed (.token (wordKind (c :: w))) (c :: w) tail
  | error {covered tail : List Char} (reason : LexError) :
      Lexed (.token (.error reason)) covered tail

section Inversion

variable {c : Char} {rest : List Char} {cut : Cut}

theorem lexed_of_extra (cut : Cut) {w tail : List Char} {lexeme : Lexeme}
    (whole : rest = w ++ tail) (extra : cut.extra = w.length) (lexed : Lexed lexeme (c :: w) tail) :
    Lexed lexeme (c :: rest.take cut.extra) (rest.drop cut.extra) := by
  rw [whole, extra, List.take_left, List.drop_left]
  exact lexed

theorem lexed_of_comment (found : commentAt c rest = some cut) :
    Lexed cut.lexeme (c :: rest.take cut.extra) (rest.drop cut.extra) := by
  unfold commentAt at found
  split at found
  · next line =>
      cases found
      have whole : '-' :: line =
          '-' :: line.takeWhile (· ≠ '\n') ++ line.dropWhile (· ≠ '\n') :=
        congrArg _ List.takeWhile_append_dropWhile.symm
      refine lexed_of_extra _ whole (Nat.add_comm ..) (.line ?_ ?_)
      · intro c member
        simpa using List.mem_takeWhile_imp member
      · cases left : line.dropWhile (· ≠ '\n') with
        | nil => exact .inl rfl
        | cons d tail =>
            have stop := List.head?_dropWhile_not (· ≠ '\n') line
            rw [left] at stop
            exact .inr (by simpa using stop)
  · next body =>
      split at found
      · next inside after closed =>
          cases found
          have body_eq := cutAtPair_eq closed
          have whole : '*' :: body = '*' :: (inside ++ ['*', '/']) ++ after := by
            simp [body_eq]
          refine lexed_of_extra _ whole ?_ ?_
          · simp only [List.length_cons, List.length_append, List.length_nil]
            omega
          · exact .block (by rw [← body_eq]; exact closed)
      · cases found
        exact .error _
  · cases found

theorem length_of_symbolAt {mark : Symbol} {extra : Nat}
    (found : symbolAt c rest = some (mark, extra)) : extra = (rest.take extra).length := by
  unfold symbolAt at found
  split at found
  · next second =>
      cases found
      cases rest with
      | nil => cases second
      | cons d tail => rfl
  · obtain ⟨_, _, same⟩ := Option.map_eq_some_iff.mp found
    cases same
    rfl

theorem lexed_of_symbol {mark : Symbol} {extra : Nat} (bare : isBlank c = false)
    (comment : commentAt c rest = none) (found : symbolAt c rest = some (mark, extra)) :
    Lexed (.token (.symbol mark)) (c :: rest.take extra) (rest.drop extra) := by
  have covered := length_of_symbolAt found
  refine .symbol bare ?_ ?_
  · rwa [List.take_append_drop]
  · rwa [List.take_append_drop, ← covered]

theorem lexed_of_string :
    Lexed (cutString rest).lexeme ('\'' :: rest.take (cutString rest).extra)
      (rest.drop (cutString rest).extra) := by
  unfold cutString
  split
  · next content length found =>
      obtain ⟨w, tail, rfl, rfl, run, stop⟩ := quotedRun_of_eq found
      exact lexed_of_extra (.token (.string (String.ofList content)) w.length) rfl rfl
        (.string run stop)
  · exact .error _

theorem lexed_of_quotedName (opens : isQuote c = true) :
    Lexed (cutQuotedName c rest).lexeme (c :: rest.take (cutQuotedName c rest).extra)
      (rest.drop (cutQuotedName c rest).extra) := by
  unfold cutQuotedName
  split
  · next content length found =>
      obtain ⟨w, tail, rfl, rfl, run, stop⟩ := quotedRun_of_eq found
      exact lexed_of_extra (.token (.identifier (String.ofList content)) w.length) rfl rfl
        (.quotedName opens run stop)
  · exact .error _

theorem lexed_of_blob (marker : c = 'x' ∨ c = 'X') :
    Lexed (cutBlob rest).lexeme (c :: ('\'' :: rest).take (cutBlob rest).extra)
      (('\'' :: rest).drop (cutBlob rest).extra) := by
  unfold cutBlob
  split
  · exact .error _
  · next content length found =>
      obtain ⟨w, tail, rfl, rfl, run, stop⟩ := quotedRun_of_eq found
      dsimp only
      split
      · exact .error _
      · next even =>
          split
          · next bytes digits =>
              refine lexed_of_extra (.token (.blob bytes) (w.length + 1))
                (w := '\'' :: w) rfl rfl ?_
              exact .blob marker run stop (Decidable.not_not.mp even) digits
          · exact .error _

theorem lexed_of_word (starts : startsWord c = true) (bare : isBlank c = false)
    (noBlob : c = 'x' ∨ c = 'X' → rest.head? ≠ some '\'') :
    Lexed (cutWord c rest).lexeme (c :: rest.take (cutWord c rest).extra)
      (rest.drop (cutWord c rest).extra) := by
  have whole : rest = rest.takeWhile isWordChar ++ rest.dropWhile isWordChar :=
    List.takeWhile_append_dropWhile.symm
  rw [cutWord_eq]
  refine lexed_of_extra (.token _ _) whole rfl (.word starts bare ?_ ?_ ?_)
  · intro d member
    exact List.mem_takeWhile_imp member
  · intro d head
    exact head?_dropWhile_of_some head
  · rwa [← whole]

theorem lexed_of_number (digit : c.isDigit = true) :
    Lexed (cutNumber c rest).lexeme (c :: rest.take (cutNumber c rest).extra)
      (rest.drop (cutNumber c rest).extra) := by
  obtain ⟨w, tail, whole, extra, shape⟩ := cutNumber_shape c rest
  refine lexed_of_extra _ whole extra ?_
  have token : ∃ kind, (cutNumber c rest).lexeme = .token kind := by
    simp only [cutNumber, apply_ite Cut.lexeme, Cut.token, Cut.failure, ← apply_ite Lexeme.token]
    exact ⟨_, rfl⟩
  obtain ⟨kind, lexeme⟩ := token
  rw [lexeme]
  refine .number digit shape ?_
  rw [← whole, ← extra, Cut.token, ← lexeme]

/-- What starts with a character has one of the forms. -/
theorem lexed_cutAtHead (c : Char) (rest : List Char) :
    Lexed (cutAtHead c rest).lexeme (c :: rest.take (cutAtHead c rest).extra)
      (rest.drop (cutAtHead c rest).extra) := by
  unfold cutAtHead
  split
  · next blank => exact .blank blank
  · next bare =>
      have bare : isBlank c = false := by simpa using bare
      cases comment : commentAt c rest with
      | some cut => exact lexed_of_comment comment
      | none =>
          rw [Option.getD_none]
          unfold tokenAt
          split
          · next mark extra found => exact lexed_of_symbol bare comment found
          · next noSymbol =>
              split
              · next quote =>
                  subst quote
                  exact lexed_of_string
              · split
                · next opens => exact lexed_of_quotedName (by simpa [isQuote] using opens)
                · split
                  · next marked =>
                      obtain ⟨marker, quote⟩ := marked
                      cases rest with
                      | nil => cases quote
                      | cons d rest =>
                          cases quote
                          exact lexed_of_blob marker
                  · next noBlob =>
                      split
                      · next digit => exact lexed_of_number digit
                      · split
                        · next starts =>
                            refine lexed_of_word (by simpa [startsWord] using starts) bare ?_
                            exact fun marker quote => noBlob ⟨marker, quote⟩
                        · exact .error _

end Inversion

/-! ## Each form is cut so -/

theorem symbolAt_of_startsWord {c : Char} (rest : List Char) (starts : startsWord c = true) :
    symbolAt c rest = none := by
  refine symbolAt_of_other rest ?_ fun d => ?_
  · unfold singleSymbol
    split
    all_goals first | rfl | exact absurd starts (by decide)
  · unfold doubleSymbol
    split
    all_goals first | rfl | exact absurd starts (by decide)

theorem ne_of_startsWord {c d : Char} (starts : startsWord c = true)
    (other : startsWord d = false) :
    c ≠ d := by
  rintro rfl
  simp [starts] at other

theorem not_isQuote_of_startsWord {c : Char} (starts : startsWord c = true) :
    ¬ (c = '"' ∨ c.toNat = 0x60) := by
  rintro (rfl | backtick)
  · exact absurd starts (by decide)
  · have same : c = Char.ofNat 0x60 := by rw [← backtick, Char.ofNat_toNat]
    subst same
    exact absurd starts (by decide)

theorem toNat_of_isDigit {c : Char} (digit : c.isDigit = true) : 48 ≤ c.toNat ∧ c.toNat ≤ 57 := by
  simp only [Char.isDigit, Bool.and_eq_true, decide_eq_true_eq, ge_iff_le, UInt32.le_iff_toNat_le]
    at digit
  exact digit

theorem isBlank_of_isDigit {c : Char} (digit : c.isDigit = true) : isBlank c = false := by
  have bounds := toNat_of_isDigit digit
  simp only [isBlank, Bool.or_eq_false_iff, Bool.and_eq_false_iff, decide_eq_false_iff_not,
    beq_eq_false_iff_ne]
  omega

theorem startsWord_of_isDigit {c : Char} (digit : c.isDigit = true) : startsWord c = false := by
  have bounds := toNat_of_isDigit digit
  have ascii : c.toNat < 0x80 := by omega
  have no_letter : c.isAlpha = false := by
    rw [Bool.eq_false_iff, ne_eq, isAlpha_iff]
    omega
  have no_underscore : c ≠ '_' := by
    rintro rfl
    cases digit
  simp [startsWord, isAlphabetic, ascii, no_letter, no_underscore]

theorem ne_of_isDigit {c d : Char} (digit : c.isDigit = true) (other : d.isDigit = false) :
    c ≠ d := by
  rintro rfl
  simp [digit] at other

theorem symbolAt_of_isDigit {c : Char} (rest : List Char) (digit : c.isDigit = true) :
    symbolAt c rest = none := by
  refine symbolAt_of_other rest ?_ fun d => ?_
  · unfold singleSymbol
    split
    all_goals first | rfl | exact absurd digit (by decide)
  · unfold doubleSymbol
    split
    all_goals first | rfl | exact absurd digit (by decide)

theorem quote_cases {c : Char} (opens : isQuote c = true) : c = '"' ∨ c = Char.ofNat 0x60 := by
  have quotes : c = '"' ∨ c.toNat = 0x60 := by simpa [isQuote] using opens
  rcases quotes with plain | backtick
  · exact .inl plain
  · exact .inr (by rw [← backtick, Char.ofNat_toNat])

section Cut

variable {c : Char} {w content tail : List Char}

theorem takeWhile_line {line : List Char} (inside : ∀ c ∈ line, c ≠ '\n')
    (stop : tail = [] ∨ tail.head? = some '\n') :
    (line ++ tail).takeWhile (· ≠ '\n') = line := by
  refine takeWhile_append_of_stop (by simpa using inside) fun d head => ?_
  rcases stop with rfl | newline
  · cases head
  · rw [newline] at head
    cases head
    rfl

theorem cutAtHead_line {line : List Char} (inside : ∀ c ∈ line, c ≠ '\n')
    (stop : tail = [] ∨ tail.head? = some '\n') :
    cutAtHead '-' ('-' :: line ++ tail) = ⟨.comment, ('-' :: line).length⟩ := by
  have blank : isBlank '-' = false := by decide
  simp only [cutAtHead, blank, Bool.false_eq_true, if_false, List.cons_append, commentAt,
    takeWhile_line inside stop, Option.getD_some, List.length_cons, Nat.add_comm]

theorem cutAtHead_block {inside : List Char}
    (closes : cutAtPair '*' '/' (inside ++ '*' :: '/' :: tail) = some (inside, tail)) :
    cutAtHead '/' ('*' :: (inside ++ ['*', '/']) ++ tail) =
      ⟨.comment, ('*' :: (inside ++ ['*', '/'])).length⟩ := by
  have blank : isBlank '/' = false := by decide
  have whole : inside ++ ['*', '/'] ++ tail = inside ++ '*' :: '/' :: tail := by simp
  simp [cutAtHead, blank, commentAt, closes]
  omega

theorem cutAtHead_string (run : QuotedRun '\'' true w content) (stop : tail.head? ≠ some '\'') :
    cutAtHead '\'' (w ++ tail) = ⟨.token (.string (String.ofList content)), w.length⟩ := by
  have blank : isBlank '\'' = false := by decide
  have comment := commentAt_of_other (c := '\'') (w ++ tail) (by decide) (by decide)
  have symbol := symbolAt_of_other (c := '\'') (w ++ tail) rfl fun _ => rfl
  simp [cutAtHead, blank, comment, tokenAt, symbol, cutString, run.eq stop, Cut.token]

theorem cutAtHead_quotedName (opens : isQuote c = true) (run : QuotedRun c false w content)
    (stop : tail.head? ≠ some c) :
    cutAtHead c (w ++ tail) = ⟨.token (.identifier (String.ofList content)), w.length⟩ := by
  have quotes := quote_cases opens
  have blank : isBlank c = false := by rcases quotes with rfl | rfl <;> decide
  have comment : commentAt c (w ++ tail) = none := by
    rcases quotes with rfl | rfl <;> exact commentAt_of_other _ (by decide) (by decide)
  have symbol : symbolAt c (w ++ tail) = none := by
    rcases quotes with rfl | rfl <;> exact symbolAt_of_other _ rfl fun _ => rfl
  have no_string : c ≠ '\'' := by rcases quotes with rfl | rfl <;> decide
  have opens : c = '"' ∨ c.toNat = 0x60 := by simpa [isQuote] using opens
  simp [cutAtHead, blank, comment, tokenAt, symbol, no_string, opens, cutQuotedName,
    run.eq stop, Cut.token]

theorem cutAtHead_marker (marker : c = 'x' ∨ c = 'X') (rest : List Char) :
    cutAtHead c ('\'' :: rest) = cutBlob rest := by
  have starts : startsWord c = true := by rcases marker with rfl | rfl <;> decide
  have blank : isBlank c = false := by rcases marker with rfl | rfl <;> decide
  have comment := commentAt_of_other ('\'' :: rest) (ne_of_startsWord starts (by decide))
    (ne_of_startsWord starts (by decide))
  have symbol := symbolAt_of_startsWord ('\'' :: rest) starts
  have no_string : c ≠ '\'' := ne_of_startsWord starts (by decide)
  simp [cutAtHead, blank, comment, tokenAt, symbol, no_string, not_isQuote_of_startsWord starts,
    marker]

theorem cutAtHead_blob {bytes : List UInt8} (marker : c = 'x' ∨ c = 'X')
    (run : QuotedRun '\'' false w content) (stop : tail.head? ≠ some '\'')
    (even : (content.filter fun c => !isBlank c).length % 2 = 0)
    (digits : blobBytes (content.filter fun c => !isBlank c) = .ok bytes) :
    cutAtHead c ('\'' :: w ++ tail) = ⟨.token (.blob bytes), ('\'' :: w).length⟩ := by
  rw [List.cons_append, cutAtHead_marker marker]
  simp [cutBlob, run.eq stop, even, digits, Cut.token]

theorem cutAtHead_number {kind : TokenKind} (digit : c.isDigit = true)
    (number : cutNumber c (w ++ tail) = .token kind w.length) :
    cutAtHead c (w ++ tail) = ⟨.token kind, w.length⟩ := by
  have comment := commentAt_of_other (w ++ tail) (ne_of_isDigit digit (by decide))
    (ne_of_isDigit digit (by decide))
  have symbol := symbolAt_of_isDigit (w ++ tail) digit
  have no_string : c ≠ '\'' := ne_of_isDigit digit (by decide)
  have no_quote : ¬ (c = '"' ∨ c.toNat = 0x60) := by
    have bounds := toNat_of_isDigit digit
    rintro (rfl | backtick)
    · cases digit
    · omega
  have no_marker : ¬ (c = 'x' ∨ c = 'X') := by
    rintro (rfl | rfl) <;> cases digit
  simp [cutAtHead, isBlank_of_isDigit digit, comment, tokenAt, symbol, no_string, no_quote,
    no_marker, digit, number, Cut.token]

theorem cutAtHead_word (starts : startsWord c = true) (bare : isBlank c = false)
    (inside : ∀ d ∈ w, isWordChar d = true)
    (stop : ∀ d, tail.head? = some d → isWordChar d = false)
    (noBlob : c = 'x' ∨ c = 'X' → (w ++ tail).head? ≠ some '\'') :
    cutAtHead c (w ++ tail) = ⟨.token (wordKind (c :: w)), w.length⟩ := by
  have comment := commentAt_of_other (w ++ tail) (ne_of_startsWord starts (by decide))
    (ne_of_startsWord starts (by decide))
  have symbol := symbolAt_of_startsWord (w ++ tail) starts
  have no_string : c ≠ '\'' := ne_of_startsWord starts (by decide)
  have word : isAlphabetic c = true ∨ c = '_' := by simpa [startsWord] using starts
  have no_blob : ¬ ((c = 'x' ∨ c = 'X') ∧ (w ++ tail).head? = some '\'') :=
    fun ⟨marker, quote⟩ => noBlob marker quote
  have digit : c.isDigit = false := by
    cases digit : c.isDigit with
    | false => rfl
    | true =>
        rw [startsWord_of_isDigit digit] at starts
        cases starts
  have taken : (w ++ tail).takeWhile isWordChar = w := takeWhile_append_of_stop inside stop
  have cut : cutWord c (w ++ tail) = .token (wordKind (c :: w)) w.length := by
    rw [cutWord_eq, taken]
  have token : tokenAt c (w ++ tail) = cutWord c (w ++ tail) := by
    unfold tokenAt
    rw [symbol]
    dsimp only
    rw [if_neg no_string, if_neg (not_isQuote_of_startsWord starts), if_neg no_blob,
      if_neg (by simp [digit]), if_pos word]
  rw [cutAtHead, if_neg (by simp [bare]), comment, Option.getD_none, token, cut, Cut.token]

end Cut

/-- A lexeme that stands at the head of a text is cut off there, whatever comes behind. -/
theorem Lexed.cut {lexeme : Lexeme} {c : Char} {w tail : List Char}
    (lexed : Lexed lexeme (c :: w) tail) (clear : ∀ reason, lexeme ≠ .token (.error reason)) :
    cutAtHead c (w ++ tail) = ⟨lexeme, w.length⟩ := by
  cases lexed with
  | blank blank => simp [cutAtHead, blank]
  | line inside stop => exact cutAtHead_line inside stop
  | block closes => exact cutAtHead_block closes
  | symbol bare comment symbol => simp [cutAtHead, bare, comment, tokenAt, symbol, Cut.token]
  | string run stop => exact cutAtHead_string run stop
  | quotedName opens run stop => exact cutAtHead_quotedName opens run stop
  | blob marker run stop even digits => exact cutAtHead_blob marker run stop even digits
  | number digit shape number => exact cutAtHead_number digit number
  | word starts bare inside stop noBlob => exact cutAtHead_word starts bare inside stop noBlob
  | error reason => exact absurd rfl (clear reason)

theorem lexemes_of_lexed {lexeme : Lexeme} {c : Char} {w tail : List Char}
    (lexed : Lexed lexeme (c :: w) tail) (clear : ∀ reason, lexeme ≠ .token (.error reason)) :
    lexemes (c :: w ++ tail) = (lexeme, c :: w) :: lexemes tail := by
  rw [List.cons_append, lexemes]
  simp only [lexed.cut clear, List.take_left, List.drop_left]

theorem kindsIn_of_lexed {lexeme : Lexeme} {c : Char} {w tail : List Char}
    (lexed : Lexed lexeme (c :: w) tail) (clear : ∀ reason, lexeme ≠ .token (.error reason)) :
    kindsIn (c :: w ++ tail) = lexeme.kind?.toList ++ kindsIn tail := by
  rw [kindsIn, lexemes_of_lexed lexed clear]
  cases found : lexeme.kind? <;> simp [found, kindsIn]

theorem Lexed.ne_eof {lexeme : Lexeme} {covered tail : List Char}
    (lexed : Lexed lexeme covered tail) : lexeme ≠ .token .eof := by
  intro same
  cases lexed with
  | number digit shape number =>
      cases same
      rcases isNumeral_of_cutNumber number with ⟨_, same⟩ | ⟨_, same⟩ | ⟨_, same⟩ <;> cases same
  | word =>
      unfold wordKind at same
      split at same <;> cases same
  | _ => cases same

theorem kindsIn_cons (c : Char) (rest : List Char) :
    kindsIn (c :: rest) =
      (cutAtHead c rest).lexeme.kind?.toList ++ kindsIn (rest.drop (cutAtHead c rest).extra) := by
  rw [kindsIn, lexemes]
  cases found : (cutAtHead c rest).lexeme.kind? <;> simp [found, kindsIn]

theorem eof_not_mem_kindsIn (chars : List Char) : .eof ∉ kindsIn chars := by
  induction chars using lexemes.induct with
  | case1 => simp [kindsIn, lexemes]
  | case2 c rest cut ih =>
      rw [kindsIn_cons, List.mem_append]
      rintro (here | later)
      · refine (lexed_cutAtHead c rest).ne_eof ?_
        cases lexeme : (cutAtHead c rest).lexeme with
        | token kind => simpa [lexeme, Lexeme.kind?, eq_comm] using here
        | _ => simp [lexeme, Lexeme.kind?] at here
      · exact ih later

/-- Induction along the lexemes of a text. -/
@[elab_as_elim]
theorem lexed_induction {motive : List Char → List (Lexeme × List Char) → Prop}
    (nil : motive [] [])
    (cons : ∀ lexeme c w tail, Lexed lexeme (c :: w) tail → motive tail (lexemes tail) →
      motive (c :: w ++ tail) ((lexeme, c :: w) :: lexemes tail))
    (chars : List Char) : motive chars (lexemes chars) := by
  induction chars using lexemes.induct with
  | case1 => rwa [lexemes]
  | case2 c rest cut ih =>
      have whole := cons cut.lexeme c (rest.take cut.extra) (rest.drop cut.extra)
        (lexed_cutAtHead c rest) ih
      rw [List.cons_append, List.take_append_drop] at whole
      rwa [lexemes]

end ShardedSql.Sql
