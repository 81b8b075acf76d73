import ShardedSql.Proofs.StrippedHead
import ShardedSql.Proofs.Tiling

/-!
Texts with blanks and comments put between their tokens. What is put in starts with a blank, so that
it breaks off what stands before it and opens nothing with it. Main statement: before any token of a
readable text such a stretch leaves the tokens what they are, and so the statement.
-/

namespace ShardedSql.Sql

open Numeric Text Writing

/-! ## Numbers and what stands behind them -/

section Numbers

variable {x y : List Char}

/-- What is taken from the front of a text does not hang on what it does not reach. -/
theorem takeWhile_within {p : Char → Bool} (within : ((x ++ y).takeWhile p).length ≤ x.length) :
    (x ++ y).takeWhile p = x.takeWhile p ∧ (x ++ y).dropWhile p = x.dropWhile p ++ y := by
  induction x with
  | nil =>
      have nothing : y.takeWhile p = [] := List.length_eq_zero_iff.mp (Nat.le_zero.mp within)
      have whole := List.takeWhile_append_dropWhile (p := p) (l := y)
      rw [nothing, List.nil_append] at whole
      exact ⟨nothing, whole⟩
  | cons c x ih =>
      cases inside : p c with
      | false => simp [inside]
      | true =>
          rw [List.cons_append, List.takeWhile_cons_of_pos inside] at within
          obtain ⟨taken, dropped⟩ := ih (Nat.le_of_succ_le_succ within)
          simp [inside, taken, dropped]

/-- The length of a fraction with its point. -/
def fractionLength (chars : List Char) : Nat :=
  if (fractionDigits chars).isSome then ((fractionDigits chars).getD []).length + 1 else 0

theorem fractionDigits_within (within : fractionLength (x ++ y) ≤ x.length) :
    fractionDigits (x ++ y) = fractionDigits x := by
  cases x with
  | nil =>
      cases found : fractionDigits y with
      | none => exact found
      | some digits =>
          exfalso
          rw [List.nil_append, fractionLength, found] at within
          cases within
  | cons c x =>
      by_cases point : c = '.'
      · subst point
        have digits : ((x ++ y).takeWhile Char.isDigit).length ≤ x.length := by
          rw [List.cons_append, fractionLength, fractionDigits] at within
          cases found : (x ++ y).takeWhile Char.isDigit with
          | nil => exact Nat.zero_le _
          | cons d ds =>
              simpa [found] using within
        simp only [List.cons_append, fractionDigits, (takeWhile_within digits).1]
      · simp [fractionDigits, point]

/-- The length of an exponent with its letter. -/
def exponentLength (chars : List Char) : Nat :=
  ((exponentPart chars).map (·.2)).getD 0

/-- An exponent is a letter and a digit at least. -/
theorem two_le_of_exponentPart {chars : List Char} {power : Int} {n : Nat}
    (read : exponentPart chars = some (power, n)) : 2 ≤ n := by
  cases chars with
  | nil => cases read
  | cons e rest =>
      by_cases letter : e = 'e' ∨ e = 'E'
      · obtain ⟨sign, unsigned, rfl, signed⟩ := exists_sign rest
        rw [exponentPart_signed letter signed] at read
        cases digits : unsigned.takeWhile Char.isDigit with
        | nil => simp [digits] at read
        | cons d ds =>
            simp only [digits, List.isEmpty_cons, Bool.false_eq_true, if_false, Option.some.injEq,
              Prod.mk.injEq, List.length_cons] at read
            omega
      · simp [exponentPart, letter] at read

theorem exponentPart_eq_none {chars : List Char} (short : exponentLength chars ≤ 1) :
    exponentPart chars = none := by
  cases found : exponentPart chars with
  | none => rfl
  | some read =>
      obtain ⟨power, n⟩ := read
      have two : 2 ≤ n := two_le_of_exponentPart found
      rw [exponentLength, found] at short
      exact absurd (Nat.le_trans two short) (by decide)

theorem exponentPart_within (within : exponentLength (x ++ y) ≤ x.length) :
    exponentPart (x ++ y) = exponentPart x := by
  match x with
  | [] => exact exponentPart_eq_none (Nat.le_succ_of_le within)
  | [e] =>
      have alone : exponentLength [e] ≤ 1 := by
        by_cases letter : e = 'e' ∨ e = 'E' <;> simp [exponentLength, exponentPart, letter]
      rw [exponentPart_eq_none within, exponentPart_eq_none alone]
  | e :: f :: x =>
      by_cases letter : e = 'e' ∨ e = 'E'
      · obtain ⟨sign, unsigned, whole, signed⟩ := exists_sign (f :: x)
        have signed' : sign = ['+'] ∨ sign = ['-'] ∨
            sign = [] ∧ (unsigned ++ y).head? ≠ some '-' ∧ (unsigned ++ y).head? ≠ some '+' := by
          rcases signed with plus | minus | ⟨rfl, others⟩
          · exact .inl plus
          · exact .inr (.inl minus)
          · obtain rfl : f :: x = unsigned := whole
            exact .inr (.inr ⟨rfl, others⟩)
        have read := exponentPart_signed letter signed'
        have digits : ((unsigned ++ y).takeWhile Char.isDigit).length ≤ unsigned.length := by
          rw [List.cons_append, whole, List.append_assoc, exponentLength, read] at within
          cases found : (unsigned ++ y).takeWhile Char.isDigit with
          | nil => exact Nat.zero_le _
          | cons d ds =>
              simp only [found, List.isEmpty_cons, Bool.false_eq_true, if_false, Option.map_some,
                Option.getD_some, List.length_cons, List.length_append] at within ⊢
              omega
        rw [List.cons_append, whole, List.append_assoc, read, exponentPart_signed letter signed,
          (takeWhile_within digits).1]
      · simp [exponentPart, letter]

/-- A number is cut off the same way without what it does not reach. -/
theorem cutNumber_within {c : Char} (within : (cutNumber c (x ++ y)).extra ≤ x.length) :
    cutNumber c (x ++ y) = cutNumber c x := by
  rw [cutNumber_extra, ← fractionLength, ← exponentLength] at within
  obtain ⟨taken, dropped⟩ := takeWhile_within (p := Char.isDigit) (x := x) (y := y) (by omega)
  rw [taken, dropped] at within
  have whole := congrArg List.length (List.takeWhile_append_dropWhile (p := Char.isDigit) (l := x))
  rw [List.length_append] at whole
  have fraction := fractionDigits_within (x := x.dropWhile Char.isDigit) (y := y) (by omega)
  have length : fractionLength (x.dropWhile Char.isDigit ++ y) =
      fractionLength (x.dropWhile Char.isDigit) := by
    rw [fractionLength, fraction, fractionLength]
  have short : fractionLength (x.dropWhile Char.isDigit) ≤ (x.dropWhile Char.isDigit).length := by
    omega
  have exponent := exponentPart_within
    (x := (x.dropWhile Char.isDigit).drop (fractionLength (x.dropWhile Char.isDigit))) (y := y)
    (by
      rw [← List.drop_append_of_le_length short, List.length_drop]
      rw [length] at within
      omega)
  rw [← List.drop_append_of_le_length short] at exponent
  unfold fractionLength at exponent
  unfold cutNumber
  simp only [taken, dropped, fraction, exponent]

end Numbers

/-! ## Trivia -/

section Gap

variable {c : Char} {w tail front gap after : List Char}

/-- What may be put between tokens: blanks and comments, a blank first. -/
structure IsSpacing (gap : List Char) : Prop where
  opens : ∃ c, gap.head? = some c ∧ isBlank c = true
  trivia : Trivia False gap

theorem kindsIn_trivia (trivia : Trivia False gap) (rest : List Char) :
    kindsIn (gap ++ rest) = kindsIn rest := by
  induction trivia with
  | nil => rfl
  | @blank c others blank _ ih =>
      have lexed : Lexed .blank [c] (others ++ rest) := .blank blank
      rw [List.cons_append, ← List.singleton_append, kindsIn_of_lexed lexed (by simp), ih]
      rfl
  | @line line others inside _ ih =>
      have comment : Lexed .comment ('-' :: '-' :: line) ('\n' :: (others ++ rest)) :=
        .line (fun d member same => inside (same ▸ member)) (.inr rfl)
      have newline : Lexed .blank ['\n'] (others ++ rest) := .blank (by decide)
      have whole : '-' :: '-' :: (line ++ '\n' :: others) ++ rest =
          '-' :: '-' :: line ++ ('\n' :: (others ++ rest)) := by simp
      rw [whole, kindsIn_of_lexed comment (by simp), ← List.singleton_append,
        kindsIn_of_lexed newline (by simp), ih]
      rfl
  | lastLine _ last => exact last.elim
  | @block inside others closed _ ih =>
      have comment : Lexed .comment ('/' :: '*' :: (inside ++ ['*', '/'])) (others ++ rest) :=
        .block (cutAtPair_iff.mpr (unclosed_iff.mpr closed))
      have whole : '/' :: '*' :: (inside ++ '*' :: '/' :: others) ++ rest =
          '/' :: '*' :: (inside ++ ['*', '/']) ++ (others ++ rest) := by simp
      rw [whole, kindsIn_of_lexed comment (by simp), ih]
      rfl

/-! ## Before a token -/

/-- A lexeme other than a blank starts behind `front`, and what stands before it is readable. -/
inductive StartsBehind : List Char → List Char → Prop where
  | here {c : Char} {rest : List Char} (bare : isBlank c = false) : StartsBehind [] (c :: rest)
  | behind {lexeme : Lexeme} {c : Char} {w front after : List Char}
      (lexed : Lexed lexeme (c :: w) (front ++ after))
      (clear : ∀ reason, lexeme ≠ .token (.error reason)) (later : StartsBehind front after) :
      StartsBehind (c :: w ++ front) after

theorem StartsBehind.exists_head (starts : StartsBehind front after) :
    ∃ c rest, after = c :: rest ∧ isBlank c = false := by
  induction starts with
  | here bare => exact ⟨_, _, rfl, bare⟩
  | behind _ _ _ ih => exact ih

/-- What is cut off before a place is cut off as well with spacing at that place. -/
theorem lexed_spaced {lexeme : Lexeme} (lexed : Lexed lexeme (c :: w) (front ++ after))
    (starts : StartsBehind front after) (spacing : IsSpacing gap) :
    Lexed lexeme (c :: w) (front ++ (gap ++ after)) := by
  obtain ⟨d, rest, rfl, bare⟩ := starts.exists_head
  obtain ⟨e, opens, blank⟩ := spacing.opens
  have breaks : Breaks (gap ++ d :: rest) := by
    intro f head
    rw [List.head?_append, opens] at head
    cases head
    exact mem_breakChars_of_blank blank
  apply lexed_of_breaksOff lexed ⟨front, d :: rest, _, rfl, rfl, breaks⟩
  · intro _ stop
    rcases stop with nothing | newline
    · cases (List.append_eq_nil_iff.mp nothing).2
    · cases front with
      | nil =>
          cases newline
          cases bare
      | cons f front => exact .inr newline
  · intro kind number
    have within : (cutNumber c (w ++ front ++ d :: rest)).extra ≤ (w ++ front).length := by
      rw [List.append_assoc, number, List.length_append]
      exact Nat.le_add_right ..
    rw [← List.append_assoc, cutNumber_break breaks, ← cutNumber_within within,
      List.append_assoc, number]

/-- Spacing before a lexeme leaves all tokens what they are. -/
theorem kindsIn_spaced (starts : StartsBehind front after) (spacing : IsSpacing gap) :
    kindsIn (front ++ (gap ++ after)) = kindsIn (front ++ after) := by
  induction starts with
  | here => exact kindsIn_trivia spacing.trivia _
  | behind lexed clear later ih =>
      rw [List.append_assoc, List.append_assoc, kindsIn_of_lexed lexed clear,
        kindsIn_of_lexed (lexed_spaced lexed later spacing) clear, ih]

theorem tokensFrom_of_lexed (offset : Nat) {lexeme : Lexeme} (lexed : Lexed lexeme (c :: w) tail)
    (clear : ∀ reason, lexeme ≠ .token (.error reason)) :
    tokensFrom offset (c :: w ++ tail) =
      (asToken (lexeme, ⟨offset, offset + byteLength (c :: w)⟩)).toList ++
        tokensFrom (offset + byteLength (c :: w)) tail := by
  rw [tokensFrom, lexemes_of_lexed lexed clear, placed, tokensFrom, List.filterMap_cons]
  cases lexeme <;> rfl

/-- A token of a readable text starts behind some of its characters. -/
theorem exists_startsBehind {offset : Nat} {chars : List Char} (lexes : Lexes chars) {token : Token}
    (member : token ∈ tokensFrom offset chars) :
    ∃ front after, chars = front ++ after ∧ token.span.start = offset + byteLength front ∧
      StartsBehind front after := by
  induction lexes generalizing offset with
  | nil => simp [tokensFrom_nil] at member
  | @cons lexeme c w tail lexed clear later ih =>
      rw [tokensFrom_of_lexed offset lexed clear, List.mem_append] at member
      rcases member with here | behind
      · cases lexeme with
        | token kind =>
            obtain rfl := List.mem_singleton.mp here
            have bare : isBlank c = false :=
              isBlank_of_token (congrArg Cut.lexeme (lexed.cut clear))
            exact ⟨[], c :: w ++ tail, rfl, rfl, .here bare⟩
        | blank => cases here
        | comment => cases here
      · obtain ⟨front, after, rfl, place, starts⟩ := ih behind
        refine ⟨c :: w ++ front, after, (List.append_assoc ..).symm, ?_, .behind lexed clear starts⟩
        rw [place, byteLength_append, Nat.add_assoc]

end Gap

/-! ## Reading spaced texts -/

theorem kinds_tokenize (text : String) :
    (tokenize text).map (·.kind) = tokenKinds text ++ [.eof] := by
  rw [tokenize_eq, List.map_append]
  rfl

/-- Every place where a token starts cuts the text in two, and with spacing between the two parts
the text holds the same tokens and is the same statement, or is none as before. -/
theorem spaced_reads_alike {text : String} (clear : ∀ reason, .error reason ∉ tokenKinds text)
    {token : Token} (member : token ∈ tokenize text) (other : token.kind ≠ .eof) :
    ∃ front after : String, text = front ++ after ∧
      byteLength front.toList = token.span.start ∧
      ∀ gap : String, IsSpacing gap.toList →
        (tokenize (front ++ gap ++ after)).map (·.kind) = (tokenize text).map (·.kind) ∧
          ReadAlike text (front ++ gap ++ after) := by
  have lexes : Lexes text.toList := by
    apply lexes_of_clear
    rwa [← tokenKinds_eq]
  have inside : token ∈ tokensFrom 0 text.toList := by
    rw [tokenize_eq, List.mem_append, List.mem_singleton] at member
    rcases member with inside | rfl
    · exact inside
    · exact absurd rfl other
  obtain ⟨front, after, whole, place, starts⟩ := exists_startsBehind lexes inside
  refine ⟨String.ofList front, String.ofList after, ?_, ?_, fun gap spacing => ?_⟩
  · rw [← String.ofList_append, ← whole, String.ofList_toList]
  · rw [String.toList_ofList, place, Nat.zero_add]
  · have kinds : tokenKinds (String.ofList front ++ gap ++ String.ofList after) =
        tokenKinds text := by
      rw [tokenKinds_eq, tokenKinds_eq, whole, ← kindsIn_spaced starts spacing]
      simp only [String.toList_append, String.toList_ofList, List.append_assoc]
    exact ⟨by rw [kinds_tokenize, kinds_tokenize, kinds], readAlike_of_tokenKinds kinds⟩

/-- A line comment and a block comment between a number and a name that could be its exponent. -/
theorem spaced_reads_alike_exponent :
    (∀ reason, .error reason ∉ tokenKinds "SELECT a<-1e FROM t") ∧
      ⟨.identifier "e", ⟨11, 12⟩⟩ ∈ tokenize "SELECT a<-1e FROM t" ∧
      IsSpacing " -- 5\n/***/".toList ∧
      ReadAlike "SELECT a<-1e FROM t" "SELECT a<-1 -- 5\n/***/e FROM t" := by
  have kinds : tokenKinds "SELECT a<-1e FROM t" = [.keyword .SELECT, .identifier "a", .symbol .lt,
      .symbol .minus, .integer 1, .identifier "e", .keyword .FROM, .identifier "t"] := by
    decide +kernel
  have clear : ∀ reason, .error reason ∉ tokenKinds "SELECT a<-1e FROM t" := by
    rw [kinds]
    simp
  have member : ⟨.identifier "e", ⟨11, 12⟩⟩ ∈ tokenize "SELECT a<-1e FROM t" := by decide +kernel
  have spacing : IsSpacing " -- 5\n/***/".toList := by
    have number : '\n' ∉ " 5".toList := by decide
    have star : ¬ ['*', '/'] <:+: ['*'] := by decide
    exact ⟨⟨' ', rfl, by decide⟩, .blank (by decide) (.line number (.block star .nil))⟩
  obtain ⟨front, after, whole, place, reads⟩ := spaced_reads_alike clear member nofun
  have cut : splitBytes 11 "SELECT a<-1e FROM t".toList =
      some ("SELECT a<-1".toList, "e FROM t".toList) := by
    decide +kernel
  have parts := splitBytes_append_eq front.toList after.toList
  rw [place, ← String.toList_append, ← whole, cut] at parts
  simp only [Option.some.injEq, Prod.mk.injEq, String.toList_inj] at parts
  obtain ⟨rfl, rfl⟩ := parts
  exact ⟨clear, member, spacing, (reads " -- 5\n/***/" spacing).2⟩

end ShardedSql.Sql
