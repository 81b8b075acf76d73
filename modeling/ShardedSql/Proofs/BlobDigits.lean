import ShardedSql.Proofs.QuotedForms

/-!
The digits of blobs. A byte is read from two characters, and a plus sign passes for the first of
them. Main statement: a quoted body without quotes is read as bytes exactly if, without its blanks,
it is cut into such pairs; these are the bytes that its hexadecimal digits spell, unless one of the
pairs has a plus sign.
-/

namespace ShardedSql.Sql

open Text

/-- The bytes of pairs of characters: two hexadecimal digits, or a plus sign and one. -/
inductive WritesBytes : List Char → List UInt8 → Prop where
  | nil : WritesBytes [] []
  | digits {high low : Char} {byte : UInt8} {rest : List Char} {bytes : List UInt8}
      (pair : foldCase [high, low] = hexPair byte) (later : WritesBytes rest bytes) :
      WritesBytes (high :: low :: rest) (byte :: bytes)
  | signed {low : Char} {byte : UInt8} {rest : List Char} {bytes : List UInt8}
      (small : byte.toNat < 16) (digit : low.toLower = Nat.digitChar byte.toNat)
      (later : WritesBytes rest bytes) : WritesBytes ('+' :: low :: rest) (byte :: bytes)

/-! ## Pairs -/

theorem digit_of_hexValue {c : Char} {value : Nat} (read : hexValue c = some value) :
    value < 16 ∧ c.toLower = Nat.digitChar value := by
  have bound : value < 16 := by
    rw [hexValue_eq] at read
    grind
  refine ⟨bound, ?_⟩
  rw [← Char.toNat_inj, toNat_toLower, toNat_digitChar bound]
  rw [hexValue_eq] at read
  grind

theorem pairValue_eq_some_iff {high low : Char} {byte : UInt8} :
    pairValue high low = some byte ↔
      foldCase [high, low] = hexPair byte ∨
        high = '+' ∧ byte.toNat < 16 ∧ low.toLower = Nat.digitChar byte.toNat := by
  have bound := byte.toNat_lt
  constructor
  · intro read
    obtain ⟨second, low_value, read⟩ := Option.bind_eq_some_iff.mp read
    obtain ⟨small, low_digit⟩ := digit_of_hexValue low_value
    by_cases sign : high = '+'
    · rw [if_pos sign] at read
      cases read
      rw [UInt8.toNat_ofNat', Nat.mod_eq_of_lt (by omega)]
      exact .inr ⟨sign, small, low_digit⟩
    · rw [if_neg sign] at read
      obtain ⟨first, high_value, read⟩ := Option.bind_eq_some_iff.mp read
      obtain ⟨small', high_digit⟩ := digit_of_hexValue high_value
      cases read
      have whole : (UInt8.ofNat (16 * first + second)).toNat = 16 * first + second := by
        rw [UInt8.toNat_ofNat', Nat.mod_eq_of_lt (by omega)]
      have halves : (16 * first + second) / 16 = first ∧ (16 * first + second) % 16 = second := by
        omega
      left
      rw [hexPair, whole, halves.1, halves.2, ← high_digit, ← low_digit]
      rfl
  · rintro (pair | ⟨rfl, small, digit⟩)
    · obtain ⟨high_digit, low_digit⟩ : high.toLower = _ ∧ [low.toLower] = _ := List.cons.inj pair
      exact pairValue_of_toLower high_digit (List.singleton_inj.mp low_digit)
    · rw [pairValue, hexValue_of_toLower small digit, Option.bind_eq_bind, Option.bind_some,
        if_pos rfl, UInt8.ofNat_toNat]
      rfl

theorem blobBytes_eq_ok_iff {digits : List Char} {bytes : List UInt8} :
    blobBytes digits = .ok bytes ↔ WritesBytes digits bytes := by
  constructor
  · intro read
    induction digits using blobBytes.induct generalizing bytes with
    | case1 =>
        cases read
        exact .nil
    | case2 => cases read
    | case3 high low rest byte pair ih =>
        rw [blobBytes, pair] at read
        cases others : blobBytes rest with
        | error reason =>
            rw [others] at read
            cases read
        | ok later =>
            rw [others] at read
            cases read
            rcases pairValue_eq_some_iff.mp pair with digits | ⟨rfl, small, digit⟩
            · exact .digits digits (ih others)
            · exact .signed small digit (ih others)
    | case4 high low rest pair =>
        rw [blobBytes, pair] at read
        cases read
  · intro writes
    induction writes with
    | nil => rfl
    | digits pair _ ih =>
        rw [blobBytes, pairValue_eq_some_iff.mpr (.inl pair), ih]
        rfl
    | signed small digit _ ih =>
        rw [blobBytes, pairValue_eq_some_iff.mpr (.inr ⟨rfl, small, digit⟩), ih]
        rfl

theorem WritesBytes.even {digits : List Char} {bytes : List UInt8}
    (writes : WritesBytes digits bytes) : digits.length % 2 = 0 := by
  induction writes with
  | nil => rfl
  | digits _ _ ih =>
      simp only [List.length_cons]
      omega
  | signed _ _ _ ih =>
      simp only [List.length_cons]
      omega

/-- Without a plus sign the pairs are those of hexadecimal digits. -/
theorem spelled_iff_writes {digits : List Char} {bytes : List UInt8} :
    foldCase digits = bytes.flatMap hexPair ↔ WritesBytes digits bytes ∧ '+' ∉ digits := by
  constructor
  · intro spelled
    refine ⟨blobBytes_eq_ok_iff.mp (blobBytes_of_foldCase spelled).1, fun member => ?_⟩
    obtain ⟨value, digit⟩ := hexValue_of_mem spelled '+' member
    cases digit
  · rintro ⟨writes, unsigned⟩
    induction writes with
    | nil => rfl
    | @digits high low byte rest bytes pair _ ih =>
        have later := ih fun member => unsigned (by simp [member])
        rw [List.flatMap_cons, ← pair, ← later]
        rfl
    | signed => exact absurd (List.mem_cons_self ..) unsigned

/-! ## Literals -/

/-- The digits of a body: its blanks are free. -/
def bodyDigits (body : List Char) : List Char :=
  body.filter fun c => !isBlank c

theorem spellsBytes_iff {body : List Char} {bytes : List UInt8} :
    SpellsBytes body bytes ↔ WritesBytes (bodyDigits body) bytes ∧ '+' ∉ body := by
  have sign : '+' ∈ bodyDigits body ↔ '+' ∈ body := by
    rw [bodyDigits, List.mem_filter]
    exact and_iff_left (by decide)
  rw [SpellsBytes, ← bodyDigits, spelled_iff_writes, sign]

theorem kindsIn_of_readsAs {text : List Char} {kind : TokenKind} (reads : ReadsAs text kind) :
    kindsIn text = [kind] := by
  have tokens : textTokens (String.ofList text) = [⟨kind, ⟨0, byteLength text⟩⟩] := by
    rw [ReadsAs, tokenize_eq] at reads
    have parts : textTokens (String.ofList text) ++ [endToken (String.ofList text)] =
        [⟨kind, ⟨0, byteLength text⟩⟩] ++ [⟨.eof, .point (byteLength text)⟩] := reads
    exact (List.append_inj' parts rfl).1
  have kinds := tokenKinds_eq (String.ofList text)
  rw [tokenKinds, tokens, String.toList_ofList] at kinds
  exact kinds.symm

theorem token_of_cutBlob (rest : List Char) : ∃ kind, (cutBlob rest).lexeme = .token kind := by
  unfold cutBlob
  split
  · exact ⟨_, rfl⟩
  · dsimp only
    split
    · exact ⟨_, rfl⟩
    · split <;> exact ⟨_, rfl⟩

section Literals

variable {marker : Char} {body : List Char} (marks : marker = 'x' ∨ marker = 'X')
  (unquoted : '\'' ∉ body)

include unquoted

theorem quotedRun_body : QuotedRun '\'' false (body ++ ['\'']) body := by
  have run : QuotedRun '\'' false (doubled ['\''] body ++ ['\'']) body :=
    quotedRun_doubled false body (by decide)
  have plain : ∀ c ∈ body, c ∉ ['\''] := by
    intro c member quote
    rw [List.mem_singleton.mp quote] at member
    exact unquoted member
  rwa [doubled_of_plain plain] at run

/-- What is cut off as a blob holds the bytes of its digits. -/
theorem writesBytes_of_cutBlob {bytes : List UInt8}
    (cut : (cutBlob (body ++ ['\''])).lexeme = .token (.blob bytes)) :
    WritesBytes (bodyDigits body) bytes := by
  have run : QuotedRun '\'' false (body ++ ['\'']) body := quotedRun_body unquoted
  have stop : ([] : List Char).head? ≠ some '\'' := nofun
  have closed := run.eq stop
  rw [List.append_nil] at closed
  rw [cutBlob, closed] at cut
  dsimp only at cut
  split at cut
  · cases cut
  · split at cut
    · next read =>
        cases cut
        exact blobBytes_eq_ok_iff.mp read
    · cases cut

include marks

/-- A literal is read as bytes exactly if its digits are pairs that write them. -/
theorem readsAs_blob_iff {bytes : List UInt8} :
    ReadsAs (marker :: '\'' :: (body ++ ['\''])) (.blob bytes) ↔
      WritesBytes (bodyDigits body) bytes := by
  constructor
  · intro reads
    have kinds := kindsIn_of_readsAs reads
    rw [kindsIn_cons, cutAtHead_marker marks] at kinds
    apply writesBytes_of_cutBlob unquoted
    obtain ⟨found, token⟩ := token_of_cutBlob (body ++ ['\''])
    rw [token] at kinds ⊢
    rw [(List.cons.inj kinds).1]
  · intro writes
    have stop : ([] : List Char).head? ≠ some '\'' := nofun
    have lexed : Lexed (.token (.blob bytes)) (marker :: '\'' :: (body ++ ['\''])) [] :=
      .blob marks (quotedRun_body unquoted) stop writes.even (blobBytes_eq_ok_iff.mpr writes)
    exact readsAs_of_lexed lexed nofun

/-- A literal is read as bytes exactly if its digits are cut into pairs that write them; that these
are always the bytes its hexadecimal digits spell is right exactly if there is no plus sign in it,
or it is not read anyway. -/
theorem reads_spelled_bytes_iff :
    (∀ bytes, ReadsAs (marker :: '\'' :: (body ++ ['\''])) (.blob bytes) ↔
      WritesBytes (bodyDigits body) bytes) ∧
    ((∀ bytes, ReadsAs (marker :: '\'' :: (body ++ ['\''])) (.blob bytes) ↔
        SpellsBytes body bytes) ↔
      ('+' ∈ body → ∀ bytes, ¬ WritesBytes (bodyDigits body) bytes)) := by
  have reads (bytes : List UInt8) : ReadsAs (marker :: '\'' :: (body ++ ['\''])) (.blob bytes) ↔
      WritesBytes (bodyDigits body) bytes := readsAs_blob_iff marks unquoted
  refine ⟨reads, ?_⟩
  simp only [reads, spellsBytes_iff]
  constructor
  · intro unsigned sign bytes writes
    exact ((unsigned bytes).mp writes).2 sign
  · intro refused bytes
    refine ⟨fun writes => ⟨writes, fun sign => refused sign bytes writes⟩, And.left⟩

end Literals

/-- Digits in both cases, with a blank between two pairs. -/
theorem reads_spelled_bytes_mixed :
    ('x' = 'x' ∨ 'x' = 'X') ∧ '\'' ∉ "cA 0f".toList ∧
      (∀ bytes, ReadsAs "x'cA 0f'".toList (.blob bytes) ↔ SpellsBytes "cA 0f".toList bytes) ∧
      ReadsAs "x'cA 0f'".toList (.blob [0xCA, 0x0F]) := by
  have unquoted : '\'' ∉ "cA 0f".toList := by decide
  have unsigned : '+' ∉ "cA 0f".toList := by decide
  have text : 'x' :: '\'' :: ("cA 0f".toList ++ ['\'']) = "x'cA 0f'".toList := by decide
  have digits : bodyDigits "cA 0f".toList = ['c', 'A', '0', 'f'] := by decide
  obtain ⟨reads, spelled⟩ := reads_spelled_bytes_iff (.inl rfl) unquoted
  rw [text] at reads spelled
  rw [digits] at reads
  refine ⟨.inl rfl, unquoted, spelled.mpr fun sign => absurd sign unsigned, (reads _).mpr ?_⟩
  exact .digits (by decide) (.digits (by decide) .nil)

/-- A plus sign is read as the first digit of a byte. -/
theorem reads_signed_digit :
    ¬ ∀ bytes, ReadsAs "X'+f'".toList (.blob bytes) ↔ SpellsBytes "+f".toList bytes := by
  intro spelled
  have reads : ReadsAs "X'+f'".toList (.blob [0x0F]) := by
    have unquoted : '\'' ∉ "+f".toList := by decide
    have text : 'X' :: '\'' :: ("+f".toList ++ ['\'']) = "X'+f'".toList := by decide
    have digits : bodyDigits "+f".toList = ['+', 'f'] := by decide
    refine text ▸ (readsAs_blob_iff (.inr rfl) unquoted).mpr (digits ▸ ?_)
    exact .signed (by decide) (by decide) .nil
  exact (spellsBytes_iff.mp ((spelled _).mp reads)).2 (by decide)

end ShardedSql.Sql
