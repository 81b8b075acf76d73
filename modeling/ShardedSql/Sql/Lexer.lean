import ShardedSql.Sql.Token
import ShardedSql.Text.CharClass

/-!
A text is cut into lexemes: blanks, comments and tokens, each at least one character long. Tokens are
read one at a time, each from the place behind the one before. Main statement: the stretches of text
that the lexemes cover, put together, are the text again.
-/

namespace ShardedSql.Sql

open Numeric Text

/-- What a stretch of text is. -/
inductive Lexeme where
  /-- One white-space character. -/
  | blank
  | comment
  | token (kind : TokenKind)
deriving DecidableEq

/-- A lexeme, and how many characters it takes after its first one. -/
structure Cut where
  lexeme : Lexeme
  extra : Nat

def Cut.token (kind : TokenKind) (extra : Nat) : Cut :=
  ⟨.token kind, extra⟩

def Cut.failure (reason : LexError) (extra : Nat) : Cut :=
  ⟨.token (.error reason), extra⟩

/-! ## Quoted forms -/

/-- The character a backslash escape in a string stands for. -/
def unescape : Char → Char
  | 'n' => '\n'
  | 't' => '\t'
  | 'r' => '\r'
  | '0' => '\x00'
  | c => c

/-- The content of a quoted run whose opening quote has been passed, and how many characters it
takes up to and including the closing quote. A doubled quote stands for one quote. -/
def quotedRun (quote : Char) (escapes : Bool) : List Char → Option (List Char × Nat)
  | [] => none
  | [c] => if c = quote then some ([], 1) else none
  | c :: d :: rest =>
      if c = quote then
        if d = quote then
          (quotedRun quote escapes rest).map fun (content, n) => (quote :: content, n + 2)
        else some ([], 1)
      else if escapes ∧ c = '\\' then
        (quotedRun quote escapes rest).map fun (content, n) => (unescape d :: content, n + 2)
      else
        (quotedRun quote escapes (d :: rest)).map fun (content, n) => (c :: content, n + 1)

def cutString (rest : List Char) : Cut :=
  match quotedRun '\'' true rest with
  | some (content, length) => .token (.string (String.ofList content)) length
  | none => .failure .unterminatedString rest.length

def cutQuotedName (quote : Char) (rest : List Char) : Cut :=
  match quotedRun quote false rest with
  | some (content, length) => .token (.identifier (String.ofList content)) length
  | none => .failure .unterminatedName rest.length

def hexValue (c : Char) : Option Nat :=
  if c.isDigit then some (c.toNat - '0'.toNat)
  else if 'a' ≤ c ∧ c ≤ 'f' then some (c.toNat - 'a'.toNat + 10)
  else if 'A' ≤ c ∧ c ≤ 'F' then some (c.toNat - 'A'.toNat + 10)
  else none

/-- The byte that two characters write: two hexadecimal digits, or one after a plus sign. -/
def pairValue (high low : Char) : Option UInt8 := do
  let lowValue ← hexValue low
  if high = '+' then return UInt8.ofNat lowValue
  let highValue ← hexValue high
  return UInt8.ofNat (16 * highValue + lowValue)

/-- The bytes of a blob from its digits. -/
def blobBytes : List Char → Except LexError (List UInt8)
  | [] => .ok []
  | [_] => .error .oddBlobDigits
  | high :: low :: rest =>
      match pairValue high low with
      | some byte => (blobBytes rest).map (byte :: ·)
      | none => .error (.badBlobPair (String.ofList [high, low]))

/-- A blob literal whose `X` and opening quote have been passed; blanks between digits are free. An
odd number of digits is found before a bad digit. -/
def cutBlob (rest : List Char) : Cut :=
  match quotedRun '\'' false rest with
  | none => .failure .unterminatedBlob (rest.length + 1)
  | some (content, length) =>
      let digits := content.filter fun c => !isBlank c
      if digits.length % 2 ≠ 0 then .failure .oddBlobDigits (length + 1)
      else
        match blobBytes digits with
        | .ok bytes => .token (.blob bytes) (length + 1)
        | .error reason => .failure reason (length + 1)

/-! ## Numbers and words -/

/-- The digits behind a point; a point without a digit is not part of the number. -/
def fractionDigits : List Char → Option (List Char)
  | '.' :: rest =>
      let digits := rest.takeWhile Char.isDigit
      if digits.isEmpty then none else some digits
  | _ => none

/-- The exponent behind an `e`, and its length with the letter; an `e` without digits is not part of
the number. -/
def exponentPart : List Char → Option (Int × Nat)
  | e :: rest =>
      if e = 'e' ∨ e = 'E' then
        let (negative, signLength, unsigned) :=
          match rest with
          | '-' :: unsigned => (true, 1, unsigned)
          | '+' :: unsigned => (false, 1, unsigned)
          | unsigned => (false, 0, unsigned)
        let digits := unsigned.takeWhile Char.isDigit
        let power : Int := ofDigits digits
        if digits.isEmpty then none
        else some (if negative then -power else power, 1 + signLength + digits.length)
      else none
  | [] => none

/-- A number that starts with the digit `c`. -/
def cutNumber (c : Char) (rest : List Char) : Cut :=
  let whole := c :: rest.takeWhile Char.isDigit
  let afterWhole := rest.dropWhile Char.isDigit
  let fraction := fractionDigits afterWhole
  let places := fraction.getD []
  let fractionLength := if fraction.isSome then places.length + 1 else 0
  let exponent := exponentPart (afterWhole.drop fractionLength)
  let extra := whole.length - 1 + fractionLength + (exponent.map (·.2)).getD 0
  if fraction.isSome || exponent.isSome then
    let power := (exponent.map (·.1)).getD 0
    let digits := ofDigits (whole ++ places)
    .token (.float (.ofScientific .double false digits (power - places.length))) extra
  else if (ofDigits whole : Int) ≤ maxInt64 then
    .token (.integer (Int64.ofNat (ofDigits whole))) extra
  else .failure (.integerTooLarge (String.ofList whole)) extra

def isWordChar (c : Char) : Bool :=
  isAlphanumeric c || c == '_' || c == '$'

/-- A reserved word or a bare name that starts with `c`. -/
def cutWord (c : Char) (rest : List Char) : Cut :=
  let tail := rest.takeWhile isWordChar
  let word := String.ofList (c :: tail)
  match Keyword.lookup word with
  | some keyword => .token (.keyword keyword) tail.length
  | none => .token (.identifier word) tail.length

/-! ## Symbols and comments -/

/-- A symbol of two characters. -/
def doubleSymbol : Char → Char → Option Symbol
  | '<', '=' => some .ltEq
  | '<', '>' => some .notEq
  | '<', '<' => some .leftShift
  | '>', '=' => some .gtEq
  | '>', '>' => some .rightShift
  | '!', '=' => some .notEq
  | '|', '|' => some .concat
  | _, _ => none

def singleSymbol : Char → Option Symbol
  | '(' => some .leftParen
  | ')' => some .rightParen
  | ',' => some .comma
  | ';' => some .semicolon
  | '.' => some .dot
  | ':' => some .colon
  | '?' => some .question
  | '+' => some .plus
  | '-' => some .minus
  | '*' => some .star
  | '/' => some .slash
  | '%' => some .percent
  | '~' => some .bitNot
  | '&' => some .bitAnd
  | '=' => some .eq
  | '<' => some .lt
  | '>' => some .gt
  | '|' => some .bitOr
  | _ => none

/-- A symbol that starts with `c`; two characters win over one. -/
def symbolAt (c : Char) (rest : List Char) : Option (Symbol × Nat) :=
  match rest.head?.bind (doubleSymbol c) with
  | some symbol => some (symbol, 1)
  | none => (singleSymbol c).map fun symbol => (symbol, 0)

/-- A comment that starts with `c`: two hyphens and the rest of the line, or a block up to its
closing mark. A block that is not closed is an error that takes the rest of the text. -/
def commentAt (c : Char) (rest : List Char) : Option Cut :=
  match c, rest with
  | '-', '-' :: line => some ⟨.comment, 1 + (line.takeWhile (· ≠ '\n')).length⟩
  | '/', '*' :: body =>
      match cutAtPair '*' '/' body with
      | some (inside, _) => some ⟨.comment, 1 + inside.length + 2⟩
      | none => some (.failure .unterminatedComment rest.length)
  | _, _ => none

/-! ## The whole text -/

/-- The token that starts with `c`, where no blank and no comment does. -/
def tokenAt (c : Char) (rest : List Char) : Cut :=
  match symbolAt c rest with
  | some (symbol, extra) => .token (.symbol symbol) extra
  | none =>
      if c = '\'' then cutString rest
      else if c = '"' ∨ c.toNat = 0x60 then cutQuotedName c rest
      -- An X opens a blob only right before a quote; elsewhere it starts a word.
      else if (c = 'x' ∨ c = 'X') ∧ rest.head? = some '\'' then cutBlob rest.tail
      else if c.isDigit then cutNumber c rest
      else if isAlphabetic c ∨ c = '_' then cutWord c rest
      else .failure (.strayCharacter c) 0

/-- What starts with `c`. -/
def cutAtHead (c : Char) (rest : List Char) : Cut :=
  if isBlank c then ⟨.blank, 0⟩
  else (commentAt c rest).getD (tokenAt c rest)

/-- The lexemes of a text, each with the characters it covers. -/
def lexemes : List Char → List (Lexeme × List Char)
  | [] => []
  | c :: rest =>
      let cut := cutAtHead c rest
      (cut.lexeme, c :: rest.take cut.extra) :: lexemes (rest.drop cut.extra)
termination_by chars => chars.length
decreasing_by
  simp only [List.length_drop, List.length_cons]
  omega

theorem flatten_lexemes (chars : List Char) :
    ((lexemes chars).map (·.2)).flatten = chars := by
  induction chars using lexemes.induct with
  | case1 => simp [lexemes]
  | case2 c rest cut ih =>
      rw [lexemes]
      simp only [List.map_cons, List.flatten_cons, List.cons_append]
      rw [show cutAtHead c rest = cut from rfl, ih, List.take_append_drop]

/-- Lexemes with their byte spans, the first starting at `offset`. -/
def placed (offset : Nat) : List (Lexeme × List Char) → List (Lexeme × Span)
  | [] => []
  | (lexeme, covered) :: rest =>
      let stop := offset + byteLength covered
      (lexeme, ⟨offset, stop⟩) :: placed stop rest

/-- The token of a lexeme, if it is one. -/
def asToken : Lexeme × Span → Option Token
  | (.token kind, span) => some ⟨kind, span⟩
  | _ => none

/-- The tokens of a text, without the end. -/
def textTokens (text : String) : List Token :=
  (placed 0 (lexemes text.toList)).filterMap asToken

/-- The token that stands at the end of a text, for as long as one asks. -/
def endToken (text : String) : Token :=
  ⟨.eof, .point (byteLength text.toList)⟩

/-! ## One token at a time -/

/-- A place in a text: the bytes before it, and the characters behind it. -/
structure Lexer where
  offset : Nat
  rest : List Char

namespace Lexer

def ofText (text : String) : Lexer :=
  ⟨0, text.toList⟩

/-- The next token, and the place behind it. Blanks and comments are passed over; at the end of the
text the place stays where it is. -/
def next (lexer : Lexer) : Token × Lexer :=
  match lexer with
  | ⟨offset, []⟩ => (⟨.eof, .point offset⟩, ⟨offset, []⟩)
  | ⟨offset, c :: rest⟩ =>
      let cut := cutAtHead c rest
      let stop := offset + byteLength (c :: rest.take cut.extra)
      match cut.lexeme with
      | .token kind => (⟨kind, ⟨offset, stop⟩⟩, ⟨stop, rest.drop cut.extra⟩)
      | _ => next ⟨stop, rest.drop cut.extra⟩
termination_by lexer.rest.length
decreasing_by
  simp only [List.length_drop, List.length_cons]
  omega

section Next

variable {offset : Nat} {c : Char} {rest : List Char}

theorem next_token {kind : TokenKind} (cut : (cutAtHead c rest).lexeme = .token kind) :
    next ⟨offset, c :: rest⟩ =
      (⟨kind, ⟨offset, offset + byteLength (c :: rest.take (cutAtHead c rest).extra)⟩⟩,
        ⟨offset + byteLength (c :: rest.take (cutAtHead c rest).extra),
          rest.drop (cutAtHead c rest).extra⟩) := by
  rw [next]
  simp only [cut]

theorem next_passed (cut : ∀ kind, (cutAtHead c rest).lexeme ≠ .token kind) :
    next ⟨offset, c :: rest⟩ =
      next ⟨offset + byteLength (c :: rest.take (cutAtHead c rest).extra),
        rest.drop (cutAtHead c rest).extra⟩ := by
  rw [next]
  split
  · next kind token => exact absurd token (cut kind)
  · rfl

end Next

/-- Every token but the end takes characters. -/
theorem length_rest_next (lexer : Lexer) (other : lexer.next.1.kind ≠ .eof) :
    lexer.next.2.rest.length < lexer.rest.length := by
  induction lexer using next.induct with
  | case1 offset => simp [next] at other
  | case2 offset c rest cut kind token =>
      rw [next_token token]
      simp only [List.length_drop, List.length_cons]
      omega
  | case3 offset c rest cut stop passed ih =>
      rw [next_passed passed] at other ⊢
      refine Nat.lt_of_lt_of_le (ih other) ?_
      simp only [List.length_drop, List.length_cons]
      omega

/-- The tokens from a place on, up to the end. -/
def tokens (lexer : Lexer) : List Token :=
  let token := lexer.next.1
  if token.kind = .eof then [token] else token :: tokens lexer.next.2
termination_by lexer.rest.length
decreasing_by
  next other => exact length_rest_next lexer other

/-- So many tokens from a place on, however many it takes to reach the end. -/
def take : Nat → Lexer → List Token
  | 0, _ => []
  | count + 1, lexer => lexer.next.1 :: take count lexer.next.2

end Lexer

/-- All tokens of a text, the last one its end. -/
def tokenize (text : String) : List Token :=
  (Lexer.ofText text).tokens

/-- The first `count` answers when asking for tokens one at a time. -/
def firstTokens (count : Nat) (text : String) : List Token :=
  (Lexer.ofText text).take count

end ShardedSql.Sql
