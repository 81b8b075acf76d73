import ShardedSql.Proofs.FilledStatement
import ShardedSql.Proofs.WrittenText

/-!
Texts with numbers written in the places of question marks. Main statement: the positional
placeholders of a statement are the question marks of its text, numbered from 0 in the order of the
text, each once: with a number in the place of each question mark the text is the same statement
with these numbers in the places of its placeholders.
-/

namespace ShardedSql.Sql

open Numeric Text

/-- A number in parentheses. -/
def numberText (value : Int64) : List Char :=
  '(' :: ((intText value.toInt).toList ++ [')'])

/-- The characters of lexemes with numbers in the places of question marks, as far as there are
any. -/
def filledPieces : List Int64 → List (Lexeme × List Char) → List Char
  | _, [] => []
  | values, (lexeme, covered) :: rest =>
      if lexeme = .token (.symbol .question) then
        match values with
        | value :: values => numberText value ++ filledPieces values rest
        | [] => covered ++ filledPieces [] rest
      else covered ++ filledPieces values rest

/-- The characters of a text with the numbers, in parentheses, in the places of its question
marks. -/
def filledChars (values : List Int64) (chars : List Char) : List Char :=
  filledPieces values (lexemes chars)

def filledText (values : List Int64) (text : String) : String :=
  String.ofList (filledChars values text.toList)

namespace Filling

open Writing

/-! ## Numbers in parentheses -/

/-- The token that the digits of a number are read as: no integer from 2^63 on. -/
def digitsKind (n : Nat) : TokenKind :=
  if (n : Int) ≤ maxInt64 then .integer (Int64.ofNat n) else .error (.integerTooLarge (natText n))

/-- The digits of a number are cut off before characters that do not go on with it. -/
theorem kindsIn_natText (n : Nat) {rest : List Char} (stop : EndsNumber rest) :
    kindsIn ((natText n).toList ++ rest) = digitsKind n :: kindsIn rest := by
  have number := ofDigits_natText n
  have digits (d : Char) : d ∈ (natText n).toList → d.isDigit = true := isDigit_of_mem_natText
  have same : String.ofList (natText n).toList = natText n := String.ofList_toList
  obtain ⟨c, w, text⟩ := List.exists_cons_of_ne_nil (natText_ne_nil n)
  rw [text] at number digits same ⊢
  have inside : ∀ d ∈ w, d.isDigit = true := fun d member => digits d (List.mem_cons_of_mem c member)
  have shape : IsNumberRest w := ⟨w, [], [], by simp, inside, .inl rfl, .inl rfl⟩
  have taken : w.takeWhile Char.isDigit = w := List.takeWhile_eq_self_iff.mpr inside
  have left : w.dropWhile Char.isDigit = [] := List.dropWhile_eq_nil_iff.mpr inside
  have cut : cutNumber c (w ++ rest) = .token (digitsKind n) w.length := by
    rw [cutNumber_append c shape stop, digitsKind]
    by_cases fits : (n : Int) ≤ maxInt64 <;>
      simp [cutNumber, taken, left, fractionDigits, exponentPart, number, same, fits, Cut.token,
        Cut.failure]
  have head := cutAtHead_number (digits c (List.mem_cons_self ..)) cut
  rw [List.cons_append, kindsIn_cons, head, List.drop_left]
  unfold digitsKind
  split <;> rfl

theorem kindsIn_rightParen (rest : List Char) :
    kindsIn (')' :: rest) = .symbol .rightParen :: kindsIn rest :=
  kindsIn_symbol (by decide) (commentAt_of_other rest (by decide) (by decide)) rfl fun _ _ => rfl

/-- A number is written with the digits of its size, behind a minus sign if it is negative. -/
theorem intText_cases {value : Int64} (regular : value ≠ Int64.minValue) :
    ∃ n : Nat, (n : Int) ≤ maxInt64 ∧
      (value < 0 ∧ (intText value.toInt).toList = '-' :: (natText n).toList ∧
          Int64.ofNat n = -value ∨
        ¬ value < 0 ∧ (intText value.toInt).toList = (natText n).toList ∧
          Int64.ofNat n = value) := by
  have low := Int64.le_toInt value
  have high := Int64.toInt_lt value
  have apart : value.toInt ≠ -2 ^ 63 := by
    rw [← Int64.toInt_minValue]
    exact fun same => regular (Int64.toInt_inj.mp same)
  have negative : value < 0 ↔ value.toInt < 0 := Int64.lt_iff_toInt_lt
  refine ⟨value.toInt.natAbs, ?_, ?_⟩
  · simp only [maxInt64]
    omega
  · rw [← Int64.ofInt_eq_ofNat, negative, intText]
    by_cases below : value.toInt < 0
    · refine .inl ⟨below, ?_, ?_⟩
      · rw [if_pos below, String.toList_append]
        rfl
      · rw [show (value.toInt.natAbs : Int) = -value.toInt by omega, Int64.ofInt_neg,
          Int64.ofInt_toInt]
    · refine .inr ⟨below, ?_, ?_⟩
      · rw [if_neg below]
      · rw [show (value.toInt.natAbs : Int) = value.toInt by omega, Int64.ofInt_toInt]

/-- The tokens of a number without parentheses. -/
def intKinds (value : Int64) : List TokenKind :=
  if value < 0 then [.symbol .minus, .integer (-value)] else [.integer value]

theorem numberKinds_eq (value : Int64) :
    numberKinds value = .symbol .leftParen :: (intKinds value ++ [.symbol .rightParen]) := by
  unfold numberKinds intKinds
  split <;> rfl

/-- A minus sign before a digit opens no comment. -/
theorem kindsIn_minus {rest : List Char} (digit : ∀ d, rest.head? = some d → d.isDigit = true) :
    kindsIn ('-' :: rest) = .symbol .minus :: kindsIn rest := by
  apply kindsIn_symbol (by decide) _ rfl fun _ _ => rfl
  cases rest with
  | nil => rfl
  | cons d line =>
      have other : d ≠ '-' := by
        rintro rfl
        exact absurd (digit '-' rfl) (by decide)
      simp [commentAt, other]

theorem isDigit_of_head_natText (n : Nat) (rest : List Char) :
    ∀ d, ((natText n).toList ++ rest).head? = some d → d.isDigit = true := by
  intro d head
  rw [List.head?_append_of_ne_nil _ (natText_ne_nil n)] at head
  exact isDigit_of_mem_natText (List.mem_of_mem_head? head)

theorem kindsIn_intText {value : Int64} (regular : value ≠ Int64.minValue) {rest : List Char}
    (stop : EndsNumber rest) :
    kindsIn ((intText value.toInt).toList ++ rest) = intKinds value ++ kindsIn rest := by
  unfold intKinds
  obtain ⟨n, fits, ⟨negative, text, number⟩ | ⟨positive, text, number⟩⟩ := intText_cases regular
  · rw [text, List.cons_append, kindsIn_minus (isDigit_of_head_natText n rest),
      kindsIn_natText n stop, digitsKind, if_pos fits, number, if_pos negative]
    rfl
  · rw [text, kindsIn_natText n stop, digitsKind, if_pos fits, number, if_neg positive]
    rfl

theorem kindsIn_numberText {value : Int64} (regular : value ≠ Int64.minValue) (rest : List Char) :
    kindsIn (numberText value ++ rest) = numberKinds value ++ kindsIn rest := by
  have opening (others : List Char) :
      kindsIn ('(' :: others) = .symbol .leftParen :: kindsIn others :=
    kindsIn_symbol (by decide) (commentAt_of_other others (by decide) (by decide)) rfl
      fun _ _ => rfl
  have stop : EndsNumber (')' :: rest) := by
    intro d head
    cases head
    decide
  have whole : numberText value ++ rest = '(' :: ((intText value.toInt).toList ++ ')' :: rest) := by
    simp [numberText]
  rw [whole, opening, kindsIn_intText regular stop, kindsIn_rightParen, numberKinds_eq]
  simp

/-! ## Filled texts -/

theorem isPiece_numberText (value : Int64) : IsPiece (numberText value) := by
  refine ⟨⟨'(', by decide, by decide, rfl⟩, ')', by decide, ?_⟩
  rw [numberText, ← List.cons_append, List.getLast?_concat]

theorem filledChars_eq_writtenChars (values : List Int64) (chars : List Char) :
    filledChars values chars = writtenChars (values.map numberText) chars := by
  rw [filledChars, writtenChars]
  induction lexemes chars generalizing values with
  | nil => cases values <;> rfl
  | cons piece rest ih => cases values <;> simp only [filledPieces, writtenPieces, List.map, ih]

theorem filledKinds_eq_writtenKinds (values : List Int64) (kinds : List TokenKind) :
    filledKinds values kinds = writtenKinds (values.map numberKinds) kinds := by
  induction kinds generalizing values with
  | nil => cases values <;> rfl
  | cons kind rest ih => cases values <;> simp only [filledKinds, writtenKinds, List.map, ih]

/-- The tokens of a filled text are the filled tokens of the text. -/
theorem kindsIn_filledChars {chars : List Char} (lexes : Lexes chars) {values : List Int64}
    (regular : ∀ value ∈ values, value ≠ Int64.minValue) :
    kindsIn (filledChars values chars) = filledKinds values (kindsIn chars) := by
  have fine : ∀ piece ∈ values.map numberText, IsPiece piece :=
    List.forall_mem_map.mpr fun value _ => isPiece_numberText value
  have reads : List.Forall₂ Reads (values.map numberText) (values.map numberKinds) := by
    rw [List.forall₂_map_left_iff, List.forall₂_map_right_iff, List.forall₂_same]
    exact fun value member => kindsIn_numberText (regular value member)
  rw [filledChars_eq_writtenChars, filledKinds_eq_writtenKinds]
  exact (kindsIn_writtenChars lexes fine reads).2

/-- With numbers in the places of its question marks, a statement stays what it is but for these
numbers in the places of its placeholders. -/
theorem parse_filledText {text : String} {parsed : Statement} {values : List Int64}
    (read : Statement.parse text = .ok parsed)
    (enough : allMarks (tokenKinds text) = values.length)
    (regular : ∀ value ∈ values, value ≠ Int64.minValue) :
    ∃ parsed', Statement.parse (filledText values text) = .ok parsed' ∧
      parsed'.filled [] = parsed.filled values := by
  apply parse_filled read enough
  rw [tokenKinds_eq, tokenKinds_eq, filledText, String.toList_ofList]
  exact kindsIn_filledChars (lexes_of_parse read) regular

end Filling

/-- The positional placeholders of a statement are the question marks of its text, numbered from 0
in the order of the text, each once: with a number in the place of each question mark the text is
the statement with the numbers in the places of the placeholders of their position. -/
theorem Statement.placeholders_number_marks (text : String) (parsed : Statement)
    (read : Statement.parse text = .ok parsed) :
    parsed.ordinals.Perm (List.range ((tokenKinds text).count (.symbol .question))) ∧
      ∀ values : List Int64, values.length = (tokenKinds text).count (.symbol .question) →
        (∀ value ∈ values, value ≠ Int64.minValue) →
          ∃ parsed', Statement.parse (filledText values text) = .ok parsed' ∧
            parsed'.filled [] = parsed.filled values := by
  constructor
  · exact (Filling.freeMarks_of_parse read).2
  · intro values length regular
    exact Filling.parse_filledText read length.symm regular

/-- `LIMIT offset, count`: the field of the count comes first, its question mark last. -/
def limitedQuery : Statement :=
  .select
    { distinct := false
      items := [⟨.placeholder (.positional 0), none⟩]
      source := some (.table none "t" none)
      condition := none
      groups := []
      having := none
      order := []
      limit := some (.placeholder (.positional 2))
      offset := some (.placeholder (.positional 1)) }

theorem placeholders_number_window :
    Statement.parse "SELECT ? FROM t LIMIT ?, ?" = .ok limitedQuery ∧
      limitedQuery.ordinals = [0, 2, 1] ∧
      limitedQuery.ordinals.Perm [0, 1, 2] ∧
      ∃ parsed', Statement.parse "SELECT (7) FROM t LIMIT (-8), (9)" = .ok parsed' ∧
        parsed'.filled [] = limitedQuery.filled [7, -8, 9] := by
  have read : Statement.parse "SELECT ? FROM t LIMIT ?, ?" = .ok limitedQuery := by
    with_unfolding_all rfl
  have marks : (tokenKinds "SELECT ? FROM t LIMIT ?, ?").count (.symbol .question) = 3 := by
    decide +kernel
  have text : filledText [7, -8, 9] "SELECT ? FROM t LIMIT ?, ?" =
      "SELECT (7) FROM t LIMIT (-8), (9)" := by
    decide +kernel
  have regular : ∀ value ∈ [7, -8, 9], value ≠ Int64.minValue := by
    simp only [List.mem_cons, List.not_mem_nil, or_false, forall_eq_or_imp, forall_eq]
    decide
  obtain ⟨numbered, fills⟩ := Statement.placeholders_number_marks _ _ read
  rw [marks] at numbered fills
  have filled := fills [7, -8, 9] rfl regular
  rw [text] at filled
  exact ⟨read, by decide, numbered, filled⟩

end ShardedSql.Sql
