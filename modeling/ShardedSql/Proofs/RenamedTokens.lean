import ShardedSql.Proofs.Outcome
import ShardedSql.Proofs.RenamedWords

/-!
The tokens of a renamed text. The renamer looks at characters and knows neither tokens nor quoted
names; `Aligned` says where it takes the lexemes of a text for what they are. Main statement: from
an aligned text, renaming makes a text whose tokens are the same but for the names of tables.
-/

namespace ShardedSql

open Numeric Text Sql Segment

/-- Where a lexeme stands: behind no point, right behind a point, or behind a point with something
between that is no token. -/
inductive Place where
  | free
  | point
  | gap
deriving DecidableEq

namespace Place

def behind (place : Place) : Bool :=
  place != .free

/-- The place behind a lexeme. -/
def after (place : Place) : Lexeme → Place
  | .token kind => if kind = .symbol .dot then .point else .free
  | .blank => if place = .free then .free else .gap
  | .comment => if place = .free then .free else .gap

end Place

/-- Whether the renamer takes a lexeme for what it is; `next` is the character behind it. Behind a
point only a bare name that follows directly is known to be a column, so that any other name there
must not be one of a table. -/
def Fits (renamings : List Renaming) (place : Place) (next : Option Char) :
    Lexeme → List Char → Prop
  | .blank, covered => ∀ c ∈ covered, c.toNat < 0x80
  | .token (.identifier name), covered =>
      if covered = name.toList then
        place = .gap ∨ place = .point ∧ next = some '.' → renamed renamings covered = covered
      else
        segments covered = [⟨.code, covered⟩] ∧
          (place ≠ .free → renameText renamings false name.toList = name.toList)
  | .token (.integer _), _ => ∀ c ∈ next, isNameChar c = false ∧ c ≠ '.'
  | .token (.float _), _ => ∀ c ∈ next, isNameChar c = false ∧ c ≠ '.'
  -- The letter before the quote is a word to the renamer.
  | .token (.blob _), covered => renamed renamings (covered.take 1) = covered.take 1
  | _, _ => True

instance (renamings : List Renaming) (place : Place) (next : Option Char) (lexeme : Lexeme)
    (covered : List Char) : Decidable (Fits renamings place next lexeme covered) := by
  have blank : Decidable (∀ c ∈ covered, c.toNat < 0x80) := List.decidableBAll _ covered
  have number : Decidable (∀ c ∈ next, isNameChar c = false ∧ c ≠ '.') :=
    Option.decidableForallMem next
  unfold Fits
  split <;> infer_instance

/-- The first character of the lexemes. -/
def firstChar (pieces : List (Lexeme × List Char)) : Option Char :=
  pieces.head?.bind (·.2.head?)

/-- Whether the renamer takes each lexeme for what it is. -/
def Aligned (renamings : List Renaming) : Place → List (Lexeme × List Char) → Prop
  | _, [] => True
  | place, (lexeme, covered) :: rest =>
      Fits renamings place (firstChar rest) lexeme covered ∧
        Aligned renamings (place.after lexeme) rest

instance decidableAligned (renamings : List Renaming) :
    (place : Place) → (pieces : List (Lexeme × List Char)) →
      Decidable (Aligned renamings place pieces)
  | _, [] => .isTrue trivial
  | place, (lexeme, _) :: rest =>
      have := decidableAligned renamings (place.after lexeme) rest
      inferInstanceAs (Decidable (_ ∧ _))

theorem firstChar_lexemes (chars : List Char) : firstChar (lexemes chars) = chars.head? := by
  cases chars with
  | nil => rw [lexemes]; rfl
  | cons c rest => rw [lexemes]; rfl

/-- The second text starts as the first one, or both with words. -/
def Alike (chars chars' : List Char) : Prop :=
  chars'.head? = chars.head? ∨
    ∃ c c', chars.head? = some c ∧ chars'.head? = some c' ∧ isNameChar c = true ∧
      isNameChar c' = true

theorem Alike.head {chars chars' : List Char} (alike : Alike chars chars') {c : Char}
    (head : chars'.head? = some c) : chars.head? = some c ∨ isNameChar c = true := by
  rcases alike with same | ⟨_, c', _, head', _, name⟩
  · exact .inl (by rw [← same, head])
  · rw [head] at head'
    cases head'
    exact .inr name

theorem Alike.ne_head {chars chars' : List Char} (alike : Alike chars chars') {c : Char}
    (mark : isNameChar c = false) (other : chars.head? ≠ some c) : chars'.head? ≠ some c := by
  intro head
  rcases alike.head head with same | name
  · exact other same
  · rw [mark] at name
    cases name

theorem Alike.eq_of_ends {chars chars' : List Char} (alike : Alike chars chars')
    (ends : EndsName chars) : chars'.head? = chars.head? := by
  rcases alike with same | ⟨c, _, head, _, name, _⟩
  · exact same
  · rw [ends c head] at name
    cases name

section Texts

variable {renamings : List Renaming} (shards : NamesShards renamings)
include shards

omit shards in
/-- In the place of a word stands a word, if a word is what stands for it. -/
theorem renamedWord_of_new {w : List Char} (afterPoint : Bool) (others : List Char)
    (nonempty : w ≠ []) (inside : ∀ c ∈ w, isNameChar c = true)
    (word : ∀ entry ∈ renamings, foldCase entry.old.toList = foldCase w →
      entry.new.toList ≠ [] ∧ ∀ c ∈ entry.new.toList, isNameChar c = true) :
    renamedWord renamings afterPoint w others ≠ [] ∧
      ∀ c ∈ renamedWord renamings afterPoint w others, isNameChar c = true := by
  unfold renamedWord
  split
  · exact ⟨nonempty, inside⟩
  · rcases renamed_cases renamings w with same | ⟨entry, member, same, new⟩
    · rw [same]
      exact ⟨nonempty, inside⟩
    · rw [new]
      exact word entry member same

theorem renamedWord_names {w : List Char} (afterPoint : Bool) (others : List Char)
    (nonempty : w ≠ []) (inside : ∀ c ∈ w, isNameChar c = true) :
    renamedWord renamings afterPoint w others ≠ [] ∧
      ∀ c ∈ renamedWord renamings afterPoint w others, isNameChar c = true := by
  refine renamedWord_of_new afterPoint others nonempty inside fun entry member same => ?_
  obtain ⟨digits, _, digit, spelled⟩ := shards.suffix entry member
  rw [spelled]
  refine ⟨by simp, fun c member => ?_⟩
  rcases List.mem_append.mp member with before | behind
  · exact forall_of_foldCase_eq (congr_of_letters isNameChar_of_isAlpha) same.symm inside c before
  · rcases List.mem_cons.mp behind with rfl | number
    · decide
    · exact isNameChar_of_isDigit (digit c number)

omit shards in
theorem alike_of_words {v v' others others' : List Char} (nonempty : v ≠ [])
    (inside : ∀ c ∈ v, isNameChar c = true) (nonempty' : v' ≠ [])
    (inside' : ∀ c ∈ v', isNameChar c = true) : Alike (v ++ others) (v' ++ others') := by
  obtain ⟨c, v, rfl⟩ := List.exists_cons_of_ne_nil nonempty
  obtain ⟨c', v', rfl⟩ := List.exists_cons_of_ne_nil nonempty'
  exact .inr ⟨c, c', rfl, rfl, inside c (List.mem_cons_self ..), inside' c' (List.mem_cons_self ..)⟩

theorem alike_renameText (afterPoint : Bool) (chars : List Char) :
    Alike chars (renameText renamings afterPoint chars) := by
  induction chars using words_induction with
  | nil => exact .inl (by rw [renameText])
  | other c rest other _ => exact .inl (by rw [renameText_other _ _ _ other]; rfl)
  | word v others nonempty inside stop _ =>
      obtain ⟨nonempty', inside'⟩ := renamedWord_names shards afterPoint others nonempty inside
      rw [renameText_word _ _ nonempty inside stop]
      exact alike_of_words nonempty inside nonempty' inside'

/-! ## Comments -/

/-- Nothing in a comment closes it. -/
def Unclosed : List Char → Prop
  | [] => True
  | c :: rest => ¬ (c = '*' ∧ rest.head? = some '/') ∧ Unclosed rest

omit shards in
theorem cutAtPair_iff {inside tail : List Char} :
    cutAtPair '*' '/' (inside ++ '*' :: '/' :: tail) = some (inside, tail) ↔ Unclosed inside := by
  induction inside with
  | nil => simp [cutAtPair, Unclosed]
  | cons c rest ih =>
      cases rest with
      | nil => simp [cutAtPair, Unclosed]
      | cons d rest =>
          simp only [List.cons_append] at ih ⊢
          rw [cutAtPair, Unclosed, ← ih]
          by_cases closes : c = '*' ∧ d = '/'
          · simp [closes]
          · simp [closes]

omit shards in
theorem pair_prefix_iff {a b c : Char} {rest : List Char} :
    [a, b] <+: c :: rest ↔ c = a ∧ rest.head? = some b := by
  cases rest <;> simp [List.cons_prefix_cons, eq_comm]

omit shards in
/-- The mark that closes a comment stands nowhere in it. -/
theorem unclosed_iff {inside : List Char} : Unclosed inside ↔ ¬ ['*', '/'] <:+: inside := by
  induction inside with
  | nil => simp [Unclosed]
  | cons c rest ih => rw [Unclosed, ih, List.infix_cons_iff, pair_prefix_iff, not_or]

omit shards in
theorem unclosed_append {v others : List Char} (plain : ∀ c ∈ v, c ≠ '*') :
    Unclosed (v ++ others) ↔ Unclosed others := by
  induction v with
  | nil => rfl
  | cons c v ih =>
      have no_star := plain c (List.mem_cons_self ..)
      rw [List.cons_append, Unclosed, ih fun d member => plain d (List.mem_cons_of_mem _ member)]
      simp [no_star]

theorem unclosed_renameText {inside : List Char} (afterPoint : Bool) (unclosed : Unclosed inside) :
    Unclosed (renameText renamings afterPoint inside) := by
  induction inside using words_induction generalizing afterPoint with
  | nil => simpa [renameText] using unclosed
  | other c rest other ih =>
      rw [renameText_other _ _ _ other]
      refine ⟨fun closes => unclosed.1 ⟨closes.1, ?_⟩, ih _ unclosed.2⟩
      -- A star and a slash meet in the renamed text where they did before.
      rcases (alike_renameText shards _ rest).head closes.2 with same | name
      · exact same
      · cases name
  | word v others nonempty inside stop ih =>
      have no_star {v : List Char} (inside : ∀ c ∈ v, isNameChar c = true) : ∀ c ∈ v, c ≠ '*' := by
        rintro c member rfl
        exact absurd (inside '*' member) (by decide)
      rw [renameText_word _ _ nonempty inside stop,
        unclosed_append (no_star (renamedWord_names shards _ _ nonempty inside).2)]
      exact ih _ ((unclosed_append (no_star inside)).mp unclosed)

/-! ## Quoted names -/

omit shards in
theorem quotedRun_append {quote : Char} {v others content : List Char}
    (inside : ∀ c ∈ v, c ≠ quote) (run : QuotedRun quote false (v ++ others) content) :
    ∃ later, content = v ++ later ∧ QuotedRun quote false others later := by
  induction v generalizing content with
  | nil => exact ⟨content, rfl, run⟩
  | cons c v ih =>
      have other := inside c (List.mem_cons_self ..)
      rw [List.cons_append] at run
      generalize whole : v ++ others = w at run
      cases run with
      | close => exact absurd rfl other
      | double => exact absurd rfl other
      | escape allowed => cases allowed
      | plain _ _ rest =>
          subst whole
          obtain ⟨later, rfl, run⟩ := ih (fun d member => inside d (List.mem_cons_of_mem _ member))
            rest
          exact ⟨later, rfl, run⟩

omit shards in
theorem quotedRun_prepend {quote : Char} {escapes : Bool} {v others content : List Char}
    (inside : ∀ c ∈ v, c ≠ quote ∧ ¬ (escapes = true ∧ c = '\\'))
    (run : QuotedRun quote escapes others content) :
    QuotedRun quote escapes (v ++ others) (v ++ content) := by
  induction v with
  | nil => exact run
  | cons c v ih =>
      obtain ⟨⟨other, bare⟩, inside⟩ := List.forall_mem_cons.mp inside
      exact .plain other bare (ih inside)

omit shards in
/-- A run and what it says begin alike, but for the quotes. -/
theorem quotedRun_head {quote : Char} {w content : List Char}
    (run : QuotedRun quote false w content) :
    w.head? = some quote ∧ (content = [] ∨ content.head? = some quote) ∨
      w.head? = content.head? := by
  cases run with
  | close => exact .inl ⟨rfl, .inl rfl⟩
  | double => exact .inl ⟨rfl, .inr rfl⟩
  | escape allowed => cases allowed
  | plain => exact .inr rfl

/-- The names in a quoted run are renamed where the names in what it says are. The second part is
for doubled quotes, behind which the run goes on. -/
theorem quotedRun_renameText {quote : Char} (mark : isNameChar quote = false)
    (no_point : quote ≠ '.') (w : List Char) :
    (∀ content afterPoint, QuotedRun quote false w content →
      QuotedRun quote false (renameText renamings afterPoint w)
        (renameText renamings afterPoint content)) ∧
    ∀ v content, w = quote :: v → QuotedRun quote false v content →
      QuotedRun quote false (renameText renamings false v)
        (renameText renamings false content) := by
  have no_quote {v : List Char} (inside : ∀ c ∈ v, isNameChar c = true) : ∀ c ∈ v, c ≠ quote := by
    rintro c member rfl
    rw [inside c member] at mark
    cases mark
  have passed := beq_false_of_ne no_point
  induction w using words_induction with
  | nil => exact ⟨fun _ _ run => (nomatch run), fun _ _ same => (nomatch same)⟩
  | other c rest other ih =>
      constructor
      · intro content afterPoint run
        cases run with
        | close =>
            rw [renameText_other _ _ _ mark, renameText, renameText]
            exact .close
        | @double v content inner =>
            have inner := ih.2 v content rfl inner
            rw [renameText_other _ _ _ mark, renameText_other _ _ _ mark,
              renameText_other _ _ _ mark, passed]
            exact .double inner
        | escape allowed => cases allowed
        | @plain _ _ content different bare inner =>
            rw [renameText_other _ _ _ other, renameText_other _ _ _ other]
            exact .plain different bare (ih.1 _ _ inner)
      · intro v content same run
        cases same
        exact ih.1 _ _ run
  | word v others nonempty inside stop ih =>
      constructor
      · intro content afterPoint run
        obtain ⟨later, rfl, rest⟩ := quotedRun_append (no_quote inside) run
        -- The word ends in what the run says where it ends in the run.
        have stop' : EndsName later := by
          intro d head
          rcases quotedRun_head rest with ⟨_, rfl | quoted⟩ | same
          · cases head
          · rw [quoted] at head
            cases head
            exact mark
          · exact stop d (same.trans head)
        have word : renamedWord renamings afterPoint v later =
            renamedWord renamings afterPoint v others := by
          rcases quotedRun_head rest with ⟨head, rfl | quoted⟩ | same
          · simp [renamedWord, head, no_point]
          · simp [renamedWord, head, quoted]
          · rw [renamedWord, ← same, renamedWord]
        rw [renameText_word _ _ nonempty inside stop, renameText_word _ _ nonempty inside stop',
          word]
        have names := (renamedWord_names shards afterPoint others nonempty inside).2
        exact quotedRun_prepend (fun c member => ⟨no_quote names c member, by simp⟩) (ih.1 _ _ rest)
      · intro u content same _
        cases v with
        | nil => exact absurd rfl nonempty
        | cons c v =>
            cases same
            exact absurd rfl (no_quote inside quote (List.mem_cons_self ..))

end Texts

section Lexemes

variable {renamings : List Renaming} (shards : NamesShards renamings) (place : Place)

/-- What is left of a lexeme and the text behind it when both are renamed: a lexeme of the same kind
but for names, whatever comes behind, and the renamed text. -/
def Respells (lexeme : Lexeme) (c : Char) (w tail : List Char) : Prop :=
  ∃ lexeme' c' w',
    (∀ tail', Alike tail tail' → Lexed lexeme' (c' :: w') tail') ∧
    (∀ reason, lexeme' ≠ .token (.error reason)) ∧
    lexeme'.kind? = lexeme.kind?.map ((shardSpelling shards).kind place.behind) ∧
    (c' = c ∨ isNameChar c = true ∧ isNameChar c' = true) ∧
    renamedAfter renamings (place = .point) (c :: w ++ tail) =
      c' :: w' ++ renamedAfter renamings (place.after lexeme = .point) tail

variable {shards place} {c : Char} {w tail : List Char}

/-- A lexeme that is no name and stays what it is. -/
theorem respells_same {lexeme : Lexeme}
    (lexed : ∀ tail', Alike tail tail' → Lexed lexeme (c :: w) tail')
    (clear : ∀ reason, lexeme ≠ .token (.error reason))
    (named : ∀ name, lexeme ≠ .token (.identifier name))
    (text : renamedAfter renamings (place = .point) (c :: w ++ tail) =
      c :: w ++ renamedAfter renamings (place.after lexeme = .point) tail) :
    Respells shards place lexeme c w tail := by
  refine ⟨lexeme, c, w, lexed, clear, ?_, .inl rfl, text⟩
  cases lexeme with
  | token kind =>
      cases kind with
      | identifier name => exact absurd rfl (named name)
      | _ => rfl
  | _ => rfl

variable (tail) in
theorem isNameChar_of_blank (blank : isBlank c = true) (ascii : c.toNat < 0x80) :
    isNameChar c = false ∧ c ≠ '.' ∧ opened? c tail = none := by
  have code : 9 ≤ c.toNat ∧ c.toNat ≤ 13 ∨ c.toNat = 32 := by
    simp only [isBlank, Bool.or_eq_true, Bool.and_eq_true, decide_eq_true_eq, beq_iff_eq] at blank
    omega
  have other {d : Char} (far : 32 < d.toNat) : c ≠ d := by
    rintro rfl
    omega
  refine ⟨?_, other (by decide), opened?_of_other _ (other (by decide)) (other (by decide))
    (other (by decide))⟩
  have letter : c.isAlpha = false := by
    rw [Bool.eq_false_iff, ne_eq, isAlpha_iff]
    omega
  have digit : c.isDigit = false := by
    rw [Bool.eq_false_iff]
    intro digit
    have := toNat_of_isDigit digit
    omega
  have beyond : ¬ 0x80 ≤ c.toNat := by omega
  simp [isNameChar, letter, digit, beyond, other (d := '_') (by decide),
    other (d := '$') (by decide)]

theorem respells_blank (blank : isBlank c = true) (ascii : c.toNat < 0x80) :
    Respells shards place .blank c [] tail := by
  obtain ⟨other, no_point, closed⟩ := isNameChar_of_blank tail blank ascii
  have later : place.after .blank ≠ .point := by cases place <;> decide
  refine respells_same (fun _ _ => .blank blank) (by simp) (by simp) ?_
  rw [List.singleton_append, renamedAfter_other _ _ closed other, beq_false_of_ne no_point,
    decide_eq_false later, List.singleton_append]

theorem opened?_line {line : List Char} (inside : ∀ c ∈ line, c ≠ '\n')
    (stop : tail = [] ∨ tail.head? = some '\n') :
    opened? '-' ('-' :: line ++ tail) = some (.comment, ('-' :: line).length) := by
  simp only [List.cons_append, opened?, takeWhile_line inside stop, List.length_cons]

/-- A block is a hint if it starts with a plus sign. -/
theorem opened?_slash (body : List Char) :
    opened? '/' ('*' :: body) =
      some (if body.head? = some '+' then .hint else .comment, blockLength body + 1) := by
  cases body with
  | nil => rfl
  | cons c body =>
      by_cases hint : c = '+'
      · subst hint
        simp [opened?]
      · unfold opened?
        split
        · next same => cases same
        · next same => cases same
        · next same => exact absurd (List.cons.inj (List.cons.inj same).2).1 hint
        · next same =>
            cases same
            simp [hint]
        · next other => exact absurd rfl (other _ rfl)

theorem opened?_block {inside : List Char}
    (closes : cutAtPair '*' '/' (inside ++ '*' :: '/' :: tail) = some (inside, tail)) :
    opened? '/' ('*' :: (inside ++ '*' :: '/' :: tail)) =
      some (if inside.head? = some '+' then .hint else .comment, inside.length + 3) := by
  rw [opened?_slash, blockLength, closes]
  cases inside <;> simp

theorem respells_line {line : List Char} (inside : ∀ c ∈ line, c ≠ '\n')
    (stop : tail = [] ∨ tail.head? = some '\n') :
    Respells shards place .comment '-' ('-' :: line) tail := by
  have later : place.after .comment ≠ .point := by cases place <;> decide
  refine respells_same (fun tail' alike => .line inside ?_) (by simp) (by simp) ?_
  · have same := alike.eq_of_ends (endsName_of_stop stop)
    rcases stop with rfl | newline
    · exact .inl (List.head?_eq_none_iff.mp same)
    · exact .inr (same.trans newline)
  · rw [List.cons_append, renamedAfter_opened _ _ (opened?_line inside stop),
      decide_eq_false later, List.take_left, List.drop_left, rename]

theorem respells_block_of_opened (kind : SegmentKind) {inside inside' : List Char}
    (opened : opened? '/' ('*' :: (inside ++ '*' :: '/' :: tail)) =
      some (kind, inside.length + 3))
    (text : rename renamings ⟨kind, '/' :: '*' :: (inside ++ ['*', '/'])⟩ =
      '/' :: '*' :: (inside' ++ ['*', '/'])) (unclosed : Unclosed inside') :
    Respells shards place .comment '/' ('*' :: (inside ++ ['*', '/'])) tail := by
  have later : place.after .comment ≠ .point := by cases place <;> decide
  have whole : '*' :: (inside ++ ['*', '/']) ++ tail = '*' :: (inside ++ '*' :: '/' :: tail) := by
    simp
  have extra : ('*' :: (inside ++ ['*', '/'])).length = inside.length + 3 := by simp
  refine ⟨.comment, '/', '*' :: (inside' ++ ['*', '/']), fun tail' _ => .block ?_, by simp, rfl,
    .inl rfl, ?_⟩
  · exact cutAtPair_iff.mpr unclosed
  · rw [List.cons_append, whole, renamedAfter_opened _ _ opened, ← whole, ← extra, List.take_left,
      List.drop_left, text, decide_eq_false later]

theorem respells_block {inside : List Char}
    (closes : cutAtPair '*' '/' (inside ++ '*' :: '/' :: tail) = some (inside, tail)) :
    Respells shards place .comment '/' ('*' :: (inside ++ ['*', '/'])) tail := by
  have unclosed := cutAtPair_iff.mp closes
  have opened := opened?_block closes
  by_cases hint : inside.head? = some '+'
  · rw [if_pos hint] at opened
    obtain ⟨body, rfl⟩ : ∃ body, inside = '+' :: body := by
      cases inside with
      | nil => cases hint
      | cons c body =>
          cases hint
          exact ⟨body, rfl⟩
    refine respells_block_of_opened .hint opened ?_ (unclosed_renameText shards false unclosed)
    have slash : renameText renamings false ['/'] = ['/'] := by
      rw [renameText_other _ _ _ (by decide), renameText]
    simp only [rename]
    rw [renameText_other _ _ _ (by decide), renameText_other _ _ _ (by decide),
      renameText_append _ _ _ _ (by decide) (by decide), slash]
    rfl
  · rw [if_neg hint] at opened
    exact respells_block_of_opened .comment opened rfl unclosed

/-! ## Strings and blobs -/

/-- The renamer finds the end of a string where the lexer does. -/
theorem literalLength_of_run {content : List Char} (run : QuotedRun '\'' true w content)
    (stop : tail.head? ≠ some '\'') : literalLength (w ++ tail) = w.length := by
  induction run with
  | close =>
      cases tail with
      | nil => rfl
      | cons d tail =>
          have other : d ≠ '\'' := by simpa using stop
          simp [literalLength, other]
  | double _ ih => simp [literalLength, ih]
  | escape _ _ _ ih => simp [literalLength, ih]
  | @plain c w content other bare rest ih =>
      have no_escape : c ≠ '\\' := fun escape => bare ⟨rfl, escape⟩
      cases w with
      | nil => exact absurd rfl rest.ne_nil
      | cons d w =>
          simp only [List.cons_append] at ih ⊢
          simp [literalLength, other, no_escape, ih]

theorem renamedAfter_literal (afterPoint : Bool) (length : literalLength (w ++ tail) = w.length) :
    renamedAfter renamings afterPoint ('\'' :: w ++ tail) =
      '\'' :: w ++ renamedAfter renamings false tail := by
  have opened : opened? '\'' (w ++ tail) = some (.literal, w.length) := by
    rw [opened?, length]
  rw [List.cons_append, renamedAfter_opened _ _ opened, List.take_left, List.drop_left, rename]

theorem respells_string {content : List Char} (run : QuotedRun '\'' true w content)
    (stop : tail.head? ≠ some '\'') :
    Respells shards place (.token (.string (String.ofList content))) '\'' w tail := by
  refine respells_same (fun _ alike => .string run (alike.ne_head (by decide) stop)) (by simp)
    (by simp) ?_
  exact renamedAfter_literal _ (literalLength_of_run run stop)

theorem ne_of_pairValue {high low mark : Char} {byte : UInt8} (other : hexValue mark = none)
    (sign : mark ≠ '+') (pair : pairValue high low = some byte) : high ≠ mark ∧ low ≠ mark := by
  constructor
  · rintro rfl
    simp [pairValue, other, sign] at pair
  · rintro rfl
    simp [pairValue, other] at pair

/-- A blob is written with digits and plus signs. -/
theorem ne_of_blobBytes {digits : List Char} {bytes : List UInt8} {mark : Char}
    (other : hexValue mark = none) (sign : mark ≠ '+') (read : blobBytes digits = .ok bytes) :
    ∀ c ∈ digits, c ≠ mark := by
  induction digits using blobBytes.induct generalizing bytes with
  | case1 => simp
  | case2 => cases read
  | case3 high low rest byte pair ih =>
      rw [blobBytes, pair] at read
      obtain ⟨others, read_rest, _⟩ := map_eq_ok.mp read
      obtain ⟨no_high, no_low⟩ := ne_of_pairValue other sign pair
      intro c member
      rcases List.mem_cons.mp member with rfl | member
      · exact no_high
      · rcases List.mem_cons.mp member with rfl | member
        · exact no_low
        · exact ih read_rest c member
  | case4 high low rest pair =>
      rw [blobBytes, pair] at read
      cases read

/-- Among the digits of a blob and the blanks between them stands no other mark. -/
theorem ne_of_digits {content : List Char} {bytes : List UInt8} {mark : Char}
    (other : hexValue mark = none) (sign : mark ≠ '+') (bare : isBlank mark = false)
    (digits : blobBytes (content.filter fun c => !isBlank c) = .ok bytes) :
    ∀ c ∈ content, c ≠ mark := by
  intro c member
  cases blank : isBlank c with
  | true =>
      rintro rfl
      rw [bare] at blank
      cases blank
  | false => exact ne_of_blobBytes other sign digits c (by simp [member, blank])

/-- The digits of a blob hold nothing that only one of renamer and lexer takes for a quote. -/
theorem run_of_blobBytes {content : List Char} {bytes : List UInt8}
    (run : QuotedRun '\'' false w content)
    (digits : blobBytes (content.filter fun c => !isBlank c) = .ok bytes) :
    QuotedRun '\'' true w content := by
  have no_escape : ∀ c ∈ content, c ≠ '\\' := ne_of_digits rfl (by decide) (by decide) digits
  clear digits
  induction run with
  | close => exact .close
  | double _ ih => exact .double (ih fun c member => no_escape c (List.mem_cons_of_mem _ member))
  | escape allowed => cases allowed
  | plain other _ _ ih =>
      refine .plain other (fun escaped => no_escape _ (List.mem_cons_self ..) escaped.2)
        (ih fun c member => no_escape c (List.mem_cons_of_mem _ member))

theorem respells_blob {x : Char} {content : List Char} {bytes : List UInt8}
    (marker : x = 'x' ∨ x = 'X') (run : QuotedRun '\'' false w content)
    (stop : tail.head? ≠ some '\'')
    (even : (content.filter fun c => !isBlank c).length % 2 = 0)
    (digits : blobBytes (content.filter fun c => !isBlank c) = .ok bytes)
    (kept : renamed renamings [x] = [x]) :
    Respells shards place (.token (.blob bytes)) x ('\'' :: w) tail := by
  refine respells_same (fun _ alike => .blob marker run (alike.ne_head (by decide) stop) even
    digits) (by simp) (by simp) ?_
  have name : ∀ c ∈ [x], isNameChar c = true := by
    rcases marker with rfl | rfl <;> simp <;> decide
  have ends : EndsName ('\'' :: w ++ tail) := endsName_cons _ (by decide)
  have word := renamedAfter_word renamings (place = .point) (List.cons_ne_nil x []) name ends
  have same (afterPoint : Bool) (others : List Char) :
      renamedWord renamings afterPoint [x] others = [x] := by
    rw [renamedWord, kept, ite_self]
  have length := literalLength_of_run (run_of_blobBytes run digits) stop
  rw [same, renamedAfter_literal _ length] at word
  exact word

/-! ## Symbols and numbers -/

theorem opened?_of_commentAt {c : Char} {rest : List Char} (comment : commentAt c rest = none)
    (literal : c ≠ '\'') : opened? c rest = none := by
  unfold opened?
  split
  · exact absurd rfl literal
  · simp [commentAt] at comment
  · next body =>
      simp only [commentAt] at comment
      split at comment <;> cases comment
  · next body =>
      simp only [commentAt] at comment
      split at comment <;> cases comment
  · rfl

theorem commentAt_of_alike {c : Char} {rest rest' : List Char} (alike : Alike rest rest')
    (comment : commentAt c rest = none) : commentAt c rest' = none := by
  unfold commentAt
  split
  · next line =>
      rcases alike.head rfl with same | name
      · obtain ⟨d, tail, rfl⟩ := List.exists_cons_of_ne_nil (l := rest) (by rintro rfl; cases same)
        cases same
        simp [commentAt] at comment
      · cases name
  · next body =>
      rcases alike.head rfl with same | name
      · obtain ⟨d, tail, rfl⟩ := List.exists_cons_of_ne_nil (l := rest) (by rintro rfl; cases same)
        cases same
        simp only [commentAt] at comment
        split at comment <;> cases comment
      · cases name
  · rfl

theorem singleSymbol_mark {c : Char} {mark : Symbol} (symbol : singleSymbol c = some mark) :
    isNameChar c = false ∧ c ≠ '\'' ∧ (c = '.' ↔ mark = .dot) := by
  unfold singleSymbol at symbol
  split at symbol <;> cases symbol <;> decide

theorem doubleSymbol_mark {c d : Char} {mark : Symbol} (symbol : doubleSymbol c d = some mark) :
    (isNameChar c = false ∧ c ≠ '\'' ∧ c ≠ '.') ∧
      (isNameChar d = false ∧ d ≠ '\'' ∧ d ≠ '-' ∧ d ≠ '/' ∧ d ≠ '.') ∧ mark ≠ .dot := by
  unfold doubleSymbol at symbol
  split at symbol <;> cases symbol <;> decide

theorem symbolAt_cases {mark : Symbol} (symbol : symbolAt c (w ++ tail) = some (mark, w.length)) :
    (∃ d, w = [d] ∧ doubleSymbol c d = some mark) ∨
      (w = [] ∧ singleSymbol c = some mark ∧ tail.head?.bind (doubleSymbol c) = none) := by
  unfold symbolAt at symbol
  split at symbol
  · next found =>
      simp only [Option.some.injEq, Prod.mk.injEq] at symbol
      obtain ⟨rfl, length⟩ := symbol
      obtain ⟨d, rfl⟩ := List.length_eq_one_iff.mp length.symm
      exact .inl ⟨d, rfl, found⟩
  · next none =>
      obtain ⟨_, single, same⟩ := Option.map_eq_some_iff.mp symbol
      simp only [Prod.mk.injEq] at same
      obtain ⟨rfl, length⟩ := same
      obtain rfl := List.eq_nil_of_length_eq_zero length.symm
      exact .inr ⟨rfl, single, none⟩

theorem respells_symbol {mark : Symbol} (bare : isBlank c = false)
    (comment : commentAt c (w ++ tail) = none)
    (symbol : symbolAt c (w ++ tail) = some (mark, w.length)) :
    Respells shards place (.token (.symbol mark)) c w tail := by
  rcases symbolAt_cases symbol with ⟨d, rfl, found⟩ | ⟨rfl, found, single⟩
  · obtain ⟨⟨name, literal, no_point⟩, ⟨name', literal', line', block', no_point'⟩, no_dot⟩ :=
      doubleSymbol_mark found
    have later : place.after (.token (.symbol mark)) = .free := by simp [Place.after, no_dot]
    refine respells_same (fun tail' alike => .symbol bare ?_ ?_) (by simp) (by simp) ?_
    · have alike' : Alike ([d] ++ tail) ([d] ++ tail') := .inl rfl
      exact commentAt_of_alike alike' comment
    · simp [symbolAt, found]
    · have closed : opened? c (d :: tail) = none := opened?_of_commentAt comment literal
      rw [later, List.cons_append, List.singleton_append, renamedAfter_other _ _ closed name,
        renamedAfter_other _ _ (opened?_of_other _ literal' line' block') name',
        beq_false_of_ne no_point']
      rfl
  · obtain ⟨name, literal, point⟩ := singleSymbol_mark found
    refine respells_same (fun tail' alike => .symbol bare ?_ ?_) (by simp) (by simp) ?_
    · exact commentAt_of_alike alike comment
    -- What follows may have become another name, but a name adds to no symbol.
    · have single' : tail'.head?.bind (doubleSymbol c) = none := by
        cases head : tail'.head? with
        | none => rfl
        | some d =>
            rw [Option.bind_some]
            cases double : doubleSymbol c d with
            | none => rfl
            | some other =>
                rcases alike.head head with same | name
                · simp [same, double] at single
                · rw [(doubleSymbol_mark double).2.1.1] at name
                  cases name
      simp [symbolAt, single', found]
    · have later : decide (place.after (.token (.symbol mark)) = .point) = (c == '.') := by
        rw [Bool.eq_iff_iff, decide_eq_true_eq, beq_iff_eq, point]
        simp [Place.after]
      have closed : opened? c tail = none := opened?_of_commentAt comment literal
      rw [later, List.singleton_append, renamedAfter_other _ _ closed name]
      rfl

theorem opened?_of_minus {rest : List Char} (other : rest.head? ≠ some '-') :
    opened? '-' rest = none := by
  cases rest with
  | nil => rfl
  | cons d rest =>
      have no_line : d ≠ '-' := by simpa using other
      simp [opened?, no_line]

variable (shards) in
include shards in
/-- A word that starts like a number stays. -/
theorem renamedAfter_digits (afterPoint : Bool) {others : List Char} (digit : c.isDigit = true)
    (inside : ∀ d ∈ w, isNameChar d = true) (stop : EndsName others) :
    renamedAfter renamings afterPoint (c :: w ++ others) =
      c :: w ++ renamedAfter renamings false others := by
  have name : ∀ d ∈ c :: w, isNameChar d = true := by
    intro d member
    rcases List.mem_cons.mp member with rfl | later
    · exact isNameChar_of_isDigit digit
    · exact inside d later
  rw [renamedAfter_word _ _ (List.cons_ne_nil c w) name stop, renamedWord,
    renamed_of_digit shards digit, ite_self]

variable (shards) in
include shards in
theorem renamedAfter_exponent (afterPoint : Bool) {x : List Char} (digit : c.isDigit = true)
    (inside : ∀ d ∈ w, isNameChar d = true) (exponent : IsExponent x) (stop : EndsName tail) :
    renamedAfter renamings afterPoint (c :: w ++ (x ++ tail)) =
      c :: w ++ (x ++ renamedAfter renamings false tail) := by
  rcases exponent with rfl | ⟨e, sign, ds, rfl, letter, signed, nonempty, digits⟩
  · exact renamedAfter_digits shards afterPoint digit inside stop
  · have e_name : isNameChar e = true := by rcases letter with rfl | rfl <;> decide
    have ds_names : ∀ d ∈ ds, isNameChar d = true :=
      fun d member => isNameChar_of_isDigit (digits d member)
    obtain ⟨d, ds, rfl⟩ := List.exists_cons_of_ne_nil nonempty
    have later_names : ∀ f ∈ ds, isNameChar f = true := fun f member =>
      ds_names f (List.mem_cons_of_mem _ member)
    have digits_behind := renamedAfter_digits shards (c := d) (w := ds) false
      (digits d (List.mem_cons_self ..)) later_names stop
    -- A sign splits the number into two words, each of which starts with a digit.
    have with_sign {s : Char} (mark : isNameChar s = false) (no_point : s ≠ '.')
        (closed : opened? s (d :: ds ++ tail) = none) :
        renamedAfter renamings afterPoint (c :: w ++ (e :: ([s] ++ d :: ds) ++ tail)) =
          c :: w ++ (e :: ([s] ++ d :: ds) ++ renamedAfter renamings false tail) := by
      have ends : EndsName (s :: (d :: ds ++ tail)) := endsName_cons _ mark
      have front := renamedAfter_digits shards (w := w ++ [e]) afterPoint digit
        (by simpa [or_imp, forall_and, e_name] using inside) ends
      rw [renamedAfter_other _ _ closed mark, beq_false_of_ne no_point, digits_behind] at front
      simpa using front
    rcases signed with rfl | rfl | rfl
    · have front := renamedAfter_digits shards (w := w ++ e :: d :: ds) afterPoint digit ?_ stop
      · simpa using front
      · intro f member
        rcases List.mem_append.mp member with before | behind
        · exact inside f before
        · rcases List.mem_cons.mp behind with rfl | number
          · exact e_name
          · exact ds_names f number
    · refine with_sign (by decide) (by decide) ?_
      exact opened?_of_other _ (by decide) (by decide) (by decide)
    · refine with_sign (by decide) (by decide) ?_
      have no_line : d ≠ '-' := ne_of_isDigit (digits d (List.mem_cons_self ..)) (by decide)
      exact opened?_of_minus (by simpa using no_line)

variable (shards) in
include shards in
/-- A number stays, though its point and its sign split it into words. -/
theorem renamedAfter_number (afterPoint : Bool) (digit : c.isDigit = true)
    (shape : IsNumberRest w) (stop : EndsName tail) :
    renamedAfter renamings afterPoint (c :: w ++ tail) =
      c :: w ++ renamedAfter renamings false tail := by
  have names {a : List Char} (digits : ∀ d ∈ a, d.isDigit = true) :
      ∀ d ∈ a, isNameChar d = true := fun d member => isNameChar_of_isDigit (digits d member)
  obtain ⟨a, f, x, rfl, digits, fraction, exponent⟩ := shape
  rcases fraction with rfl | ⟨ds, rfl, nonempty, places⟩
  · have whole := renamedAfter_exponent shards afterPoint digit (names digits) exponent stop
    simpa using whole
  · obtain ⟨d, ds, rfl⟩ := List.exists_cons_of_ne_nil nonempty
    have ends : EndsName ('.' :: (d :: ds ++ (x ++ tail))) := endsName_cons _ (by decide)
    have front := renamedAfter_digits shards afterPoint digit (names digits) ends
    -- Behind the point stands a word that starts with a digit, hence one that stays as well.
    have behind := renamedAfter_exponent shards true (places d (List.mem_cons_self ..))
      (names fun e member => places e (List.mem_cons_of_mem _ member)) exponent stop
    rw [renamedAfter_other _ _ (opened?_of_other _ (by decide) (by decide) (by decide))
      (by decide), beq_self_eq_true, behind] at front
    simpa using front

theorem respells_number {kind : TokenKind} (digit : c.isDigit = true) (shape : IsNumberRest w)
    (number : cutNumber c (w ++ tail) = .token kind w.length)
    (clear : ∀ reason, kind ≠ .error reason)
    (stop : ∀ d, tail.head? = some d → isNameChar d = false ∧ d ≠ '.') :
    Respells shards place (.token kind) c w tail := by
  have ends {tail : List Char} (stop : ∀ d, tail.head? = some d → isNameChar d = false ∧ d ≠ '.') :
      EndsNumber tail := by
    intro d head
    obtain ⟨mark, no_point⟩ := stop d head
    refine ⟨?_, no_point, ?_, ?_⟩
    · cases digit : d.isDigit with
      | false => rfl
      | true => rw [isNameChar_of_isDigit digit] at mark; cases mark
    · rintro rfl
      cases mark
    · rintro rfl
      cases mark
  have numeral := isNumeral_of_cutNumber number
  have named : ∀ name, Lexeme.token kind ≠ .token (.identifier name) := by
    rintro name same
    cases same
    rcases numeral with ⟨_, same⟩ | ⟨_, same⟩ | ⟨_, same⟩ <;> cases same
  have later : place.after (.token kind) = .free := by
    rcases numeral with ⟨_, rfl⟩ | ⟨_, rfl⟩ | ⟨_, rfl⟩ <;> rfl
  refine respells_same (fun tail' alike => .number digit shape ?_) (by simpa using clear) named ?_
  · have same := alike.eq_of_ends fun d head => (stop d head).1
    rw [cutNumber_append c shape (ends (by rwa [same])), ← number,
      cutNumber_append c shape (ends stop)]
  · rw [later]
    exact renamedAfter_number shards (place = .point) digit shape fun d head => (stop d head).1

/-! ## Names -/

theorem opened?_eq_none_iff {rest : List Char} :
    opened? c rest = none ↔ c ≠ '\'' ∧ ¬ (c = '-' ∧ rest.head? = some '-') ∧
      ¬ (c = '/' ∧ rest.head? = some '*') := by
  cases rest with
  | nil =>
      unfold opened?
      split <;> simp_all
  | cons d rest =>
      unfold opened?
      split <;> simp_all

/-- Where the renamer takes a run for code, it does so before any text, if nothing begins at its
last character. -/
theorem unopened_of_segments {run : List Char} {last : Char}
    (plain : ∀ rest, opened? last rest = none)
    (code : segments (run ++ [last]) = [⟨.code, run ++ [last]⟩]) :
    Unopened tail (run ++ [last]) := by
  induction run with
  | nil => exact ⟨plain _, trivial⟩
  | cons d rest ih =>
      rw [List.cons_append, segments] at code
      split at code
      · next opened =>
          have kind := kind_of_opened opened
          simp only [List.cons.injEq, Segment.mk.injEq] at code
          exact absurd code.1.1 kind
      · next opened =>
          refine ⟨?_, ih ?_⟩
          · rw [opened?_eq_none_iff] at opened ⊢
            cases rest <;> simpa using opened
          · rcases all : segments (rest ++ [last]) with _ | ⟨⟨kind, text⟩, more⟩
            · simp [all, addCode] at code
            · cases kind <;> simp [all, addCode] at code
              simp [code]

theorem respells_quotedName {content : List Char} (opens : isQuote c = true)
    (run : QuotedRun c false w content) (stop : tail.head? ≠ some c)
    (code : segments (c :: w) = [⟨.code, c :: w⟩])
    (kept : place ≠ .free → renameText renamings false content = content) :
    Respells shards place (.token (.identifier (String.ofList content))) c w tail := by
  have mark : isNameChar c = false := by rcases quote_cases opens with rfl | rfl <;> decide
  have no_point : c ≠ '.' := by rcases quote_cases opens with rfl | rfl <;> decide
  have plain (rest : List Char) : opened? c rest = none := by
    rcases quote_cases opens with rfl | rfl <;>
      exact opened?_of_other rest (by decide) (by decide) (by decide)
  obtain ⟨inside, rfl⟩ := run.closed
  have unopened : Unopened tail (c :: inside ++ [c]) := unopened_of_segments plain code
  have closing : renameText renamings false (inside ++ [c]) =
      renameText renamings false inside ++ [c] := by
    rw [renameText_append _ _ _ _ mark no_point, renameText]
  refine ⟨.token (.identifier (String.ofList (renameText renamings false content))), c,
    renameText renamings false (inside ++ [c]), fun tail' alike => .quotedName opens
    ((quotedRun_renameText shards mark no_point _).1 _ _ run) (alike.ne_head mark stop), by simp,
    ?_, .inl rfl, ?_⟩
  · cases place with
    | free => simp [Lexeme.kind?, Respelling.kind, Place.behind, shardSpelling, renameName]
    | point => simp [Lexeme.kind?, Respelling.kind, Place.behind, kept (by decide)]
    | gap => simp [Lexeme.kind?, Respelling.kind, Place.behind, kept (by decide)]
  · have whole : c :: (inside ++ [c]) ++ tail = c :: inside ++ c :: tail := by simp
    have front := renamedAfter_code renamings (place = .point) mark no_point unopened
    rw [renameText_other _ _ _ mark, beq_false_of_ne no_point] at front
    rw [whole, front, closing]
    simp [Place.after]

theorem isNameChar_of_mem_word (starts : startsWord c = true)
    (inside : ∀ d ∈ w, isWordChar d = true) : ∀ d ∈ c :: w, isNameChar d = true := by
  intro d member
  rcases List.mem_cons.mp member with rfl | later
  · exact isNameChar_of_isWordChar (isWordChar_of_startsWord starts)
  · exact isNameChar_of_isWordChar (inside d later)

theorem wordKind_ne_error (word : List Char) (reason : LexError) :
    wordKind word ≠ .error reason := by
  unfold wordKind
  split <;> simp

theorem after_wordKind (word : List Char) : place.after (.token (wordKind word)) = .free := by
  unfold wordKind
  split <;> rfl

/-- A word is read the same before a text that starts alike. -/
theorem lexed_word_of_alike (starts : startsWord c = true) (bare : isBlank c = false)
    (inside : ∀ d ∈ w, isWordChar d = true)
    (stop : ∀ d, tail.head? = some d → isWordChar d = false)
    (noBlob : c = 'x' ∨ c = 'X' → (w ++ tail).head? ≠ some '\'') (ends : EndsName tail)
    {tail' : List Char} (alike : Alike tail tail') :
    Lexed (.token (wordKind (c :: w))) (c :: w) tail' := by
  have head := alike.eq_of_ends ends
  refine .word starts bare inside (by rwa [head]) fun marker => ?_
  have no_quote := noBlob marker
  cases w with
  | nil =>
      rw [List.nil_append] at no_quote ⊢
      rwa [head]
  | cons d w => exact no_quote

/-- A word that is renamed becomes a name again. -/
theorem respells_renamed_word (starts : startsWord c = true)
    (inside : ∀ d ∈ w, isWordChar d = true)
    (stop : ∀ d, tail.head? = some d → isWordChar d = false) (ends : EndsName tail)
    (free : Keyword.lookup (String.ofList (c :: w)) = none) {c' : Char} {w' : List Char}
    (changed : renamed renamings (c :: w) = c' :: w') (starts' : startsWord c' = true)
    (bare' : isBlank c' = false) (inside' : ∀ d ∈ w', isWordChar d = true) (nonempty : w' ≠ [])
    (free' : Keyword.lookup (String.ofList (c' :: w')) = none) :
    Respells shards .free (.token (wordKind (c :: w))) c w tail := by
  have names := isNameChar_of_mem_word starts inside
  have text := renamedAfter_word renamings (Place.free = .point) (List.cons_ne_nil c w) names ends
  have spelled : renamedWord renamings (Place.free = .point) (c :: w) tail =
      renamed renamings (c :: w) := by simp [renamedWord]
  have alone : renameText renamings false (c :: w) = renamed renamings (c :: w) :=
    renameText_alone (List.cons_ne_nil c w) names
  refine ⟨.token (wordKind (c' :: w')), c', w', fun tail' alike => ?_,
    by simpa using wordKind_ne_error _, ?_, .inr ⟨names c (List.mem_cons_self ..),
    isNameChar_of_isWordChar (isWordChar_of_startsWord starts')⟩, ?_⟩
  · refine .word starts' bare' inside' (by rwa [alike.eq_of_ends ends]) fun _ quote => ?_
    obtain ⟨d, rest, rfl⟩ := List.exists_cons_of_ne_nil nonempty
    cases quote
    have no_quote := inside' _ (List.mem_cons_self ..)
    exact absurd no_quote (by decide)
  · have kind : wordKind (c :: w) = .identifier (String.ofList (c :: w)) := by
      rw [wordKind, free]
    rw [kind, wordKind, free']
    simp only [Lexeme.kind?, Option.map_some, Respelling.kind, Place.behind, shardSpelling,
      renameName, String.toList_ofList, alone, changed]
    rfl
  · rw [text, spelled, changed, after_wordKind]
    rfl

theorem respells_word (starts : startsWord c = true) (bare : isBlank c = false)
    (inside : ∀ d ∈ w, isWordChar d = true)
    (stop : ∀ d, tail.head? = some d → isWordChar d = false)
    (noBlob : c = 'x' ∨ c = 'X' → (w ++ tail).head? ≠ some '\'') (ends : EndsName tail)
    (kept : Keyword.lookup (String.ofList (c :: w)) = none →
      place = .gap ∨ place = .point ∧ tail.head? = some '.' →
        renamed renamings (c :: w) = c :: w) :
    Respells shards place (.token (wordKind (c :: w))) c w tail := by
  have names := isNameChar_of_mem_word starts inside
  have text := renamedAfter_word renamings (place = .point) (List.cons_ne_nil c w) names ends
  have same (unchanged : renamedWord renamings (place = .point) (c :: w) tail = c :: w)
      (kind : (shardSpelling shards).kind place.behind (wordKind (c :: w)) = wordKind (c :: w)) :
      Respells shards place (.token (wordKind (c :: w))) c w tail := by
    refine ⟨_, c, w, fun _ => lexed_word_of_alike starts bare inside stop noBlob ends,
      by simpa using wordKind_ne_error _, ?_, .inl rfl, ?_⟩
    · simp [Lexeme.kind?, kind]
    · rw [text, unchanged, after_wordKind]
      rfl
  cases reserved : Keyword.lookup (String.ofList (c :: w)) with
  | some keyword =>
      refine same ?_ ?_
      · rw [renamedWord, renamed_of_lookup shards reserved, ite_self]
      · rw [wordKind, reserved]
        rfl
  | none =>
      have kind : wordKind (c :: w) = .identifier (String.ofList (c :: w)) := by
        rw [wordKind, reserved]
      -- In free places the renamer decides; elsewhere the name has to stay.
      cases place with
      | point =>
          refine same ?_ (by simp [kind, Respelling.kind, Place.behind])
          rw [renamedWord]
          split
          · rfl
          · next point => exact kept reserved (.inr ⟨rfl, by simpa using point⟩)
      | gap =>
          refine same ?_ (by simp [kind, Respelling.kind, Place.behind])
          rw [renamedWord, kept reserved (.inl rfl), ite_self]
      | free =>
          rcases renamed_word shards starts bare inside with unchanged |
            ⟨c', w', changed, starts', bare', inside', nonempty, unreserved⟩
          · refine same (by simp [renamedWord, unchanged]) ?_
            have alone : renameText renamings false (c :: w) = renamed renamings (c :: w) :=
              renameText_alone (List.cons_ne_nil c w) names
            simp only [kind, Respelling.kind, Place.behind, shardSpelling, renameName,
              String.toList_ofList, alone, unchanged]
            rfl
          · exact respells_renamed_word starts inside stop ends reserved changed starts' bare'
              inside' nonempty unreserved

/-! ## Whole texts -/

variable (shards) in
/-- Each lexeme that the renamer takes for what it is stays what it is but for names. -/
theorem respells_of_lexed {lexeme : Lexeme} (lexed : Lexed lexeme (c :: w) tail)
    (clear : ∀ reason, lexeme ≠ .token (.error reason))
    (fits : Fits renamings place tail.head? lexeme (c :: w))
    (words : ∀ d, tail.head? = some d → isNameChar d = true → isWordChar d = true) :
    Respells shards place lexeme c w tail := by
  cases lexed with
  | blank blank => exact respells_blank blank (fits c (List.mem_cons_self ..))
  | line inside stop => exact respells_line inside stop
  | block closes => exact respells_block closes
  | symbol bare comment symbol => exact respells_symbol bare comment symbol
  | string run stop => exact respells_string run stop
  | @quotedName _ _ content _ opens run stop =>
      have quoted : c :: w ≠ (String.ofList content).toList := by
        intro same
        have shorter := run.length_lt
        rw [String.toList_ofList] at same
        rw [← same, List.length_cons] at shorter
        omega
      rw [Fits, if_neg quoted, String.toList_ofList] at fits
      exact respells_quotedName opens run stop fits.1 fits.2
  | blob marker run stop even digits => exact respells_blob marker run stop even digits fits
  | @number _ _ _ kind digit shape number =>
      have clear' : ∀ reason, kind ≠ .error reason := by simpa using clear
      refine respells_number digit shape number clear' ?_
      rcases isNumeral_of_cutNumber number with ⟨_, rfl⟩ | ⟨_, rfl⟩ | ⟨reason, rfl⟩
      · exact fits
      · exact fits
      · exact absurd rfl (clear' reason)
  | word starts bare inside stop noBlob =>
      refine respells_word starts bare inside stop noBlob ?_ fun unreserved => ?_
      · intro d head
        cases name : isNameChar d with
        | false => rfl
        | true =>
            have word := stop d head
            rw [words d head name] at word
            cases word
      · rw [wordKind, unreserved] at fits
        simpa [Fits] using fits
  | error reason => exact absurd rfl (clear reason)

/-- A lexeme that starts with a character of names is a word or starts like one. -/
theorem isWordChar_of_lexed {lexeme : Lexeme} (lexed : Lexed lexeme (c :: w) tail)
    (clear : ∀ reason, lexeme ≠ .token (.error reason)) {next : Option Char}
    (fits : Fits renamings place next lexeme (c :: w)) (name : isNameChar c = true) :
    isWordChar c = true := by
  have mark {c : Char} (other : isNameChar c = false) (name : isNameChar c = true) :
      isWordChar c = true := by
    rw [other] at name
    cases name
  cases lexed with
  | blank blank =>
      have ascii : c.toNat < 0x80 := fits c (List.mem_cons_self ..)
      exact mark (isNameChar_of_blank [] blank ascii).1 name
  | line => cases name
  | block => cases name
  | symbol bare comment symbol =>
      rcases symbolAt_cases symbol with ⟨d, _, found⟩ | ⟨_, found, _⟩
      · exact mark (doubleSymbol_mark found).1.1 name
      · exact mark (singleSymbol_mark found).1 name
  | string => cases name
  | quotedName opens =>
      refine mark ?_ name
      rcases quote_cases opens with rfl | rfl <;> decide
  | blob marker => rcases marker with rfl | rfl <;> decide
  | number digit => exact isWordChar_of_isDigit digit
  | word starts => exact isWordChar_of_startsWord starts
  | error reason => exact absurd rfl (clear reason)

end Lexemes

variable {renamings : List Renaming} (shards : NamesShards renamings)

omit shards in
/-- Where the renamer takes the lexemes of a text for what they are, it starts no word that the
lexer does not. -/
theorem words_of_aligned {chars : List Char} {place : Place}
    (aligned : Aligned renamings place (lexemes chars))
    (clear : ∀ reason, .error reason ∉ kindsIn chars) :
    ∀ d, chars.head? = some d → isNameChar d = true → isWordChar d = true := by
  intro d head name
  cases chars with
  | nil => cases head
  | cons c rest =>
      cases head
      rw [lexemes] at aligned
      refine isWordChar_of_lexed (lexed_cutAtHead _ rest) (fun reason same => ?_) aligned.1 name
      refine clear reason ?_
      rw [kindsIn_cons, same]
      simp [Lexeme.kind?]

/-- The tokens of a renamed text are the tokens of the text with the names of tables renamed, where
the renamer takes each lexeme for what it is. -/
theorem kindsIn_renamedAfter (chars : List Char) (place : Place)
    (aligned : Aligned renamings place (lexemes chars))
    (clear : ∀ reason, .error reason ∉ kindsIn chars) :
    Alike chars (renamedAfter renamings (place = .point) chars) ∧
      kindsIn (renamedAfter renamings (place = .point) chars) =
        (shardSpelling shards).kinds place.behind (kindsIn chars) := by
  -- Along the lexemes: the text behind one starts alike before and after, so the lexeme can be read
  -- again, and it says what place its next one has.
  induction chars using lexemes.induct generalizing place with
  | case1 =>
      rw [renamedAfter_nil]
      exact ⟨.inl rfl, by simp [kindsIn, lexemes, Respelling.kinds]⟩
  | case2 c rest cut ih =>
      have lexed : Lexed cut.lexeme (c :: rest.take cut.extra) (rest.drop cut.extra) :=
        lexed_cutAtHead c rest
      have kinds : kindsIn (c :: rest) = cut.lexeme.kind?.toList ++ kindsIn (rest.drop cut.extra) :=
        kindsIn_cons c rest
      rw [lexemes] at aligned
      change Fits renamings place (firstChar (lexemes (rest.drop cut.extra))) cut.lexeme
          (c :: rest.take cut.extra) ∧
        Aligned renamings (place.after cut.lexeme) (lexemes (rest.drop cut.extra)) at aligned
      obtain ⟨fits, later⟩ := aligned
      have whole : c :: rest = c :: rest.take cut.extra ++ rest.drop cut.extra := by
        rw [List.cons_append, List.take_append_drop]
      rw [firstChar_lexemes] at fits
      rw [kinds] at clear ⊢
      rw [whole]
      generalize cut.lexeme = lexeme at lexed fits later clear ih ⊢
      generalize rest.take cut.extra = w at lexed fits ⊢
      generalize rest.drop cut.extra = tail at lexed fits later clear ih ⊢
      simp only [List.mem_append, not_or] at clear
      have clear_here : ∀ reason, lexeme ≠ .token (.error reason) := by
        rintro reason rfl
        exact (clear reason).1 (by simp [Lexeme.kind?])
      have clear_later : ∀ reason, .error reason ∉ kindsIn tail := fun reason => (clear reason).2
      obtain ⟨alike, kinds_later⟩ := ih (place.after lexeme) later clear_later
      obtain ⟨lexeme', c', w', lexed', clear', kind', head, text⟩ :=
        respells_of_lexed shards lexed clear_here fits
          (words_of_aligned later clear_later)
      rw [text]
      constructor
      · rcases head with rfl | ⟨name, name'⟩
        · exact .inl rfl
        · exact .inr ⟨c, c', rfl, rfl, name, name'⟩
      · rw [kindsIn_of_lexed (lexed' _ alike) clear', kind', kinds_later]
        cases lexeme with
        | token kind =>
            have dot : (place.after (.token kind)).behind = decide (kind = .symbol .dot) := by
              by_cases point : kind = .symbol .dot <;> simp [Place.after, Place.behind, point]
            rw [dot]
            rfl
        | blank => cases place <;> rfl
        | comment => cases place <;> rfl

end ShardedSql
