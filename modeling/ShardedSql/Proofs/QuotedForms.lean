import ShardedSql.Proofs.Tiling

/-!
Quoted forms and what they say. In a string each quote and each backslash is written twice, in a
quoted name each quote, and a blob is written in pairs of hexadecimal digits. Main statement: what
is written so reads back, as the one token of its text.
-/

namespace ShardedSql.Sql

open Text

/-- The whole text is one token of this kind. -/
def ReadsAs (text : List Char) (kind : TokenKind) : Prop :=
  tokenize (String.ofList text) =
    [⟨kind, ⟨0, byteLength text⟩⟩, ⟨.eof, .point (byteLength text)⟩]

theorem readsAs_of_lexed {kind : TokenKind} {c : Char} {w : List Char}
    (lexed : Lexed (.token kind) (c :: w) []) (clear : ∀ reason, kind ≠ .error reason) :
    ReadsAs (c :: w) kind := by
  have cut : lexemes (c :: w) = [(.token kind, c :: w)] := by
    have first := lexemes_of_lexed lexed fun reason same => clear reason (Lexeme.token.inj same)
    rw [List.append_nil] at first
    rw [first, lexemes]
  simp [ReadsAs, tokenize_eq, textTokens, endToken, cut, placed, asToken]

/-! ## Doubled marks -/

/-- The characters with every mark doubled. -/
def doubled (marks : List Char) (chars : List Char) : List Char :=
  chars.flatMap fun c => if c ∈ marks then [c, c] else [c]

theorem doubled_cons_of_mem {marks : List Char} {c : Char} (mark : c ∈ marks) (rest : List Char) :
    doubled marks (c :: rest) = c :: c :: doubled marks rest := by
  simp [doubled, mark]

theorem doubled_cons_of_not_mem {marks : List Char} {c : Char} (plain : c ∉ marks)
    (rest : List Char) : doubled marks (c :: rest) = c :: doubled marks rest := by
  simp [doubled, plain]

/-- The marks of a run: the quote and, where it escapes, the backslash. -/
def runMarks (quote : Char) (escapes : Bool) : List Char :=
  if escapes then [quote, '\\'] else [quote]

theorem doubled_of_plain {marks chars : List Char} (plain : ∀ c ∈ chars, c ∉ marks) :
    doubled marks chars = chars := by
  induction chars with
  | nil => rfl
  | cons c rest ih =>
      obtain ⟨here, later⟩ := List.forall_mem_cons.mp plain
      rw [doubled_cons_of_not_mem here, ih later]

/-- With its marks doubled, a text runs up to the closing quote and says what it did. -/
theorem quotedRun_doubled {quote : Char} (escapes : Bool) (content : List Char)
    (other : quote ≠ '\\') :
    QuotedRun quote escapes (doubled (runMarks quote escapes) content ++ [quote]) content := by
  induction content with
  | nil => exact .close
  | cons c content ih =>
      by_cases same : c = quote
      · subst same
        rw [doubled_cons_of_mem (by cases escapes <;> simp [runMarks])]
        exact .double ih
      · by_cases backslash : escapes = true ∧ c = '\\'
        · obtain ⟨rfl, rfl⟩ := backslash
          rw [doubled_cons_of_mem (by simp [runMarks])]
          exact .escape rfl other ih
        · rw [doubled_cons_of_not_mem]
          · exact .plain same backslash ih
          · cases escapes <;> simp_all [runMarks]

/-! ## Hexadecimal digits -/

/-- The two lower-case digits of a byte. -/
def hexPair (byte : UInt8) : List Char :=
  [Nat.digitChar (byte.toNat / 16), Nat.digitChar (byte.toNat % 16)]

/-- Two digits for each byte, in either case, with blanks wherever they may stand. -/
def SpellsBytes (spelled : List Char) (bytes : List UInt8) : Prop :=
  foldCase (spelled.filter fun c => !isBlank c) = bytes.flatMap hexPair

theorem toNat_digitChar {value : Nat} (small : value < 16) :
    (Nat.digitChar value).toNat = if value < 10 then 48 + value else 87 + value := by
  revert value
  decide

theorem hexValue_eq (c : Char) :
    hexValue c =
      if 48 ≤ c.toNat ∧ c.toNat ≤ 57 then some (c.toNat - 48)
      else if 97 ≤ c.toNat ∧ c.toNat ≤ 102 then some (c.toNat - 97 + 10)
      else if 65 ≤ c.toNat ∧ c.toNat ≤ 70 then some (c.toNat - 65 + 10)
      else none := by
  have digit : (c.isDigit = true) = (48 ≤ c.toNat ∧ c.toNat ≤ 57) := by
    simp only [Char.isDigit, Bool.and_eq_true, decide_eq_true_eq, ge_iff_le,
      UInt32.le_iff_toNat_le]
    rfl
  unfold hexValue
  simp only [digit, Char.le_def, UInt32.le_iff_toNat_le]
  rfl

/-- Every digit has its value, in either case. -/
theorem hexValue_of_toLower {c : Char} {value : Nat} (small : value < 16)
    (digit : c.toLower = Nat.digitChar value) : hexValue c = some value := by
  have code := congrArg Char.toNat digit
  rw [toNat_toLower, toNat_digitChar small] at code
  rw [hexValue_eq]
  split at code <;> split at code <;> grind

theorem pairValue_of_toLower {byte : UInt8} {high low : Char}
    (high_digit : high.toLower = Nat.digitChar (byte.toNat / 16))
    (low_digit : low.toLower = Nat.digitChar (byte.toNat % 16)) :
    pairValue high low = some byte := by
  have bound := byte.toNat_lt
  have high_value := hexValue_of_toLower (by omega) high_digit
  have low_value := hexValue_of_toLower (by omega) low_digit
  have no_sign : high ≠ '+' := by
    rintro rfl
    cases high_value
  have whole : 16 * (byte.toNat / 16) + byte.toNat % 16 = byte.toNat := Nat.div_add_mod ..
  simp only [pairValue, low_value, high_value, if_neg no_sign, Option.bind_eq_bind,
    Option.bind_some, whole, UInt8.ofNat_toNat]
  rfl

theorem blobBytes_of_foldCase {bytes : List UInt8} {digits : List Char}
    (spelled : foldCase digits = bytes.flatMap hexPair) :
    blobBytes digits = .ok bytes ∧ digits.length % 2 = 0 := by
  induction bytes generalizing digits with
  | nil =>
      obtain rfl : digits = [] := by simpa [foldCase] using spelled
      exact ⟨rfl, rfl⟩
  | cons byte bytes ih =>
      obtain ⟨high, digits, rfl⟩ := List.exists_cons_of_ne_nil (l := digits)
        (by rintro rfl; cases spelled)
      obtain ⟨high_digit, spelled⟩ := List.cons.inj spelled
      obtain ⟨low, digits, rfl⟩ := List.exists_cons_of_ne_nil (l := digits)
        (by rintro rfl; cases spelled)
      obtain ⟨low_digit, spelled⟩ := List.cons.inj spelled
      obtain ⟨read, even⟩ := ih spelled
      constructor
      · rw [blobBytes, pairValue_of_toLower high_digit low_digit, read]
        rfl
      · simp only [List.length_cons]
        omega

/-- What spells bytes is digits only. -/
theorem hexValue_of_mem {digits : List Char} {bytes : List UInt8}
    (spelled : foldCase digits = bytes.flatMap hexPair) :
    ∀ c ∈ digits, ∃ value, hexValue c = some value := by
  intro c member
  have folded : c.toLower ∈ bytes.flatMap hexPair := spelled ▸ List.mem_map_of_mem member
  obtain ⟨byte, _, digit⟩ := List.mem_flatMap.mp folded
  have bound := byte.toNat_lt
  simp only [hexPair, List.mem_cons, List.not_mem_nil, or_false] at digit
  rcases digit with high | low
  · exact ⟨_, hexValue_of_toLower (by omega) high⟩
  · exact ⟨_, hexValue_of_toLower (by omega) low⟩

theorem ne_quote_of_mem {spelled : List Char} {bytes : List UInt8}
    (spells : SpellsBytes spelled bytes) : ∀ c ∈ spelled, c ∉ ['\''] := by
  intro c member quote
  obtain rfl := List.mem_singleton.mp quote
  obtain ⟨value, digit⟩ :=
    hexValue_of_mem spells '\'' (List.mem_filter.mpr ⟨member, by decide⟩)
  cases digit

/-! ## Reading back -/

theorem readsAs_string (content : String) :
    ReadsAs ('\'' :: (doubled ['\'', '\\'] content.toList ++ ['\''])) (.string content) := by
  have run : QuotedRun '\'' true (doubled ['\'', '\\'] content.toList ++ ['\'']) content.toList :=
    quotedRun_doubled true content.toList (by decide)
  have stop : ([] : List Char).head? ≠ some '\'' := nofun
  have lexed := Lexed.string run stop
  rw [String.ofList_toList] at lexed
  exact readsAs_of_lexed lexed nofun

theorem readsAs_quotedName {quote : Char} (opens : isQuote quote = true) (name : String) :
    ReadsAs (quote :: (doubled [quote] name.toList ++ [quote])) (.identifier name) := by
  have other : quote ≠ '\\' := by rcases quote_cases opens with rfl | rfl <;> decide
  have run : QuotedRun quote false (doubled [quote] name.toList ++ [quote]) name.toList :=
    quotedRun_doubled false name.toList other
  have stop : ([] : List Char).head? ≠ some quote := nofun
  have lexed := Lexed.quotedName opens run stop
  rw [String.ofList_toList] at lexed
  exact readsAs_of_lexed lexed nofun

theorem readsAs_blob {marker : Char} {spelled : List Char} {bytes : List UInt8}
    (marks : marker = 'x' ∨ marker = 'X') (spells : SpellsBytes spelled bytes) :
    ReadsAs (marker :: '\'' :: (spelled ++ ['\''])) (.blob bytes) := by
  have run : QuotedRun '\'' false (doubled ['\''] spelled ++ ['\'']) spelled :=
    quotedRun_doubled false spelled (by decide)
  rw [doubled_of_plain (ne_quote_of_mem spells)] at run
  have stop : ([] : List Char).head? ≠ some '\'' := nofun
  obtain ⟨read, even⟩ := blobBytes_of_foldCase spells
  exact readsAs_of_lexed (.blob marks run stop even read) nofun

/-- A string and a name with their marks doubled, and bytes in hexadecimal digits, read as what was
written. -/
theorem quoted_forms_read_back :
    (∀ content : String,
      ReadsAs ('\'' :: (doubled ['\'', '\\'] content.toList ++ ['\''])) (.string content)) ∧
    (∀ (quote : Char) (name : String), isQuote quote = true →
      ReadsAs (quote :: (doubled [quote] name.toList ++ [quote])) (.identifier name)) ∧
    ∀ (marker : Char) (spelled : List Char) (bytes : List UInt8), marker = 'x' ∨ marker = 'X' →
      SpellsBytes spelled bytes →
      ReadsAs (marker :: '\'' :: (spelled ++ ['\''])) (.blob bytes) :=
  ⟨readsAs_string, fun _ name opens => readsAs_quotedName opens name,
    fun _ _ _ marks spells => readsAs_blob marks spells⟩

/-- A quote beside a backslash, an empty name, and digits in both cases. -/
theorem quoted_forms_read_back_mixed :
    ReadsAs "'it''s\\\\'''".toList (.string "it's\\'") ∧
      isQuote '"' = true ∧ ReadsAs "\"\"".toList (.identifier "") ∧
      SpellsBytes "cA 0f".toList [0xCA, 0x0F] ∧
      ReadsAs "X'cA 0f'".toList (.blob [0xCA, 0x0F]) := by
  obtain ⟨string, name, blob⟩ := quoted_forms_read_back
  have opens : isQuote '"' = true := by decide
  have spells : SpellsBytes "cA 0f".toList [0xCA, 0x0F] := by
    rw [SpellsBytes]
    decide +kernel
  refine ⟨?_, opens, ?_, spells, ?_⟩
  · have text : '\'' :: (doubled ['\'', '\\'] "it's\\'".toList ++ ['\'']) =
        "'it''s\\\\'''".toList := by
      decide +kernel
    exact text ▸ string "it's\\'"
  · have text : '"' :: (doubled ['"'] "".toList ++ ['"']) = "\"\"".toList := by decide +kernel
    exact text ▸ name '"' "" opens
  · have text : 'X' :: '\'' :: ("cA 0f".toList ++ ['\'']) = "X'cA 0f'".toList := by decide +kernel
    exact text ▸ blob 'X' "cA 0f".toList [0xCA, 0x0F] (.inr rfl) spells

end ShardedSql.Sql
