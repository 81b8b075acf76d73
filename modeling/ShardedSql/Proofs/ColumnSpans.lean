import ShardedSql.Proofs.GatheredLeaves
import ShardedSql.Proofs.Outcome
import ShardedSql.Proofs.SpacedText

/-!
The places of columns. A column is written in one name, or in two with a point between them, and
its span goes from the first of these tokens to the last. A stretch of the text from one token to
another is cut into tokens by itself as it is within the text. Main statement: the text a column's
span covers holds the names of the column and nothing else, and no two columns of a statement have a
byte in common.
-/

namespace ShardedSql.Sql

open Numeric Text Writing

/-! ## Stretches of a text -/

section Stretches

variable {lexeme : Lexeme} {c : Char} {w front after chars : List Char} {offset : Nat}

/-- What is cut off is cut off as well if the text ends somewhere behind it. -/
theorem Lexed.before (lexed : Lexed lexeme (c :: w) (front ++ after)) :
    Lexed lexeme (c :: w) front := by
  have breaks : BreaksOff (front ++ after) front :=
    ⟨front, after, [], rfl, (List.append_nil front).symm, nofun⟩
  apply lexed_of_breaksOff lexed breaks
  · intro _ stop
    cases front with
    | nil => exact .inl rfl
    | cons d rest => exact .inr (stop.resolve_left (List.cons_ne_nil _ _))
  · intro kind number
    rw [← List.append_assoc] at number
    have within : (cutNumber c (w ++ front ++ after)).extra ≤ (w ++ front).length := by
      rw [number, List.length_append]
      exact Nat.le_add_right ..
    rwa [← cutNumber_within within]

/-- The text from a token on holds this token and those behind it. -/
theorem exists_stretch_from (lexes : Lexes chars) {before later : List Token} {first : Token}
    (tokens : tokensFrom offset chars = before ++ first :: later) :
    ∃ front rest, chars = front ++ rest ∧ first.span.start = offset + byteLength front ∧
      tokensFrom first.span.start rest = first :: later ∧ Lexes rest := by
  induction lexes generalizing offset before with
  | nil => simp [tokensFrom_nil] at tokens
  | @cons lexeme c w tail lexed clear behind ih =>
      have deeper {before : List Token}
          (tokens : tokensFrom (offset + byteLength (c :: w)) tail = before ++ first :: later) :
          ∃ front rest, c :: w ++ tail = front ++ rest ∧
            first.span.start = offset + byteLength front ∧
            tokensFrom first.span.start rest = first :: later ∧ Lexes rest := by
        obtain ⟨front, rest, rfl, start, stretch⟩ := ih tokens
        refine ⟨c :: w ++ front, rest, (List.append_assoc ..).symm, ?_, stretch⟩
        rw [start, byteLength_append, Nat.add_assoc]
      have whole := tokens
      rw [tokensFrom_of_lexed offset lexed clear] at tokens
      cases lexeme with
      | blank => exact deeper tokens
      | comment => exact deeper tokens
      | token kind =>
          cases before with
          | nil =>
              have here := (List.cons.inj tokens).1
              have start : first.span.start = offset := by rw [← here]
              exact ⟨[], _, rfl, start, start ▸ whole, .cons lexed clear behind⟩
          | cons _ before => exact deeper (List.cons.inj tokens).2

/-- The text up to the end of a token holds the tokens up to this one. -/
theorem exists_stretch_to (lexes : Lexes chars) {before later : List Token} {last : Token}
    (tokens : tokensFrom offset chars = before ++ last :: later) :
    ∃ covered tail, chars = covered ++ tail ∧ last.span.stop = offset + byteLength covered ∧
      kindsIn covered = (before ++ [last]).map (·.kind) := by
  induction lexes generalizing offset before with
  | nil => simp [tokensFrom_nil] at tokens
  | @cons lexeme c w tail lexed clear behind ih =>
      have deeper {before : List Token}
          (tokens : tokensFrom (offset + byteLength (c :: w)) tail = before ++ last :: later) :
          ∃ covered rest, c :: w ++ tail = covered ++ rest ∧
            last.span.stop = offset + byteLength covered ∧
            kindsIn covered = lexeme.kind?.toList ++ (before ++ [last]).map (·.kind) := by
        obtain ⟨covered, rest, rfl, stop, kinds⟩ := ih tokens
        refine ⟨c :: w ++ covered, rest, (List.append_assoc ..).symm, ?_, ?_⟩
        · rw [stop, byteLength_append, Nat.add_assoc]
        · rw [kindsIn_of_lexed lexed.before clear, kinds]
      rw [tokensFrom_of_lexed offset lexed clear] at tokens
      cases lexeme with
      | blank => exact deeper tokens
      | comment => exact deeper tokens
      | token kind =>
          cases before with
          | nil =>
              obtain ⟨here, -⟩ := List.cons.inj tokens
              -- The last token is cut off as well where the text ends with it.
              have within : Lexed (.token kind) (c :: w) ([] ++ tail) := lexed
              refine ⟨c :: w, tail, rfl, by rw [← here], ?_⟩
              rw [← List.append_nil (c :: w), kindsIn_of_lexed within.before clear, ← here]
              simp [kindsIn, lexemes, Lexeme.kind?]
          | cons next before =>
              obtain ⟨rfl, later⟩ := List.cons.inj tokens
              exact deeper later

end Stretches

/-- From the first token of a run to its last, a text holds this run. -/
theorem slice_of_run {text : String} (lexes : Lexes text.toList) {before run after : List Token}
    (tokens : textTokens text = before ++ run ++ after) {first last : Token}
    (starts : run.head? = some first) (stops : run.getLast? = some last) :
    ∃ covered, Span.slice? ⟨first.span.start, last.span.stop⟩ text = some covered ∧
      tokenKinds covered = run.map (·.kind) := by
  obtain ⟨others, rfl⟩ := List.head?_eq_some_iff.mp starts
  obtain ⟨inner, ends⟩ := List.getLast?_eq_some_iff.mp stops
  have from_first : tokensFrom 0 text.toList = before ++ first :: (others ++ after) := by
    rw [← List.cons_append, ← List.append_assoc]
    exact tokens
  obtain ⟨front, rest, whole, start, stretch, lexes⟩ := exists_stretch_from lexes from_first
  have up_to : tokensFrom first.span.start rest = inner ++ last :: after := by
    rw [stretch, ← List.cons_append, ends, List.append_assoc, List.singleton_append]
  obtain ⟨covered, tail, rfl, stop, kinds⟩ := exists_stretch_to lexes up_to
  refine ⟨String.ofList covered, ?_, ?_⟩
  · rw [Span.slice?, stop, start, Nat.zero_add, slice?_of_append whole]
  · rw [tokenKinds_eq, String.toList_ofList, kinds, ends]

/-! ## Columns -/

/-- The tokens a column is written in, without what is between them. -/
def Column.kinds (column : Column) : List TokenKind :=
  column.table.toList.flatMap (fun table => [.identifier table, .symbol .dot]) ++
    [.identifier column.name]

/-- No byte lies in both spans. -/
def Span.Apart (left right : Span) : Prop :=
  left.stop ≤ right.start ∨ right.stop ≤ left.start

theorem Span.Apart.symm {left right : Span} (apart : left.Apart right) : right.Apart left :=
  Or.symm apart

section Columns

variable {run tokens : List Token} {column : Column} {leaves : List Leaf}

theorem Spells.kinds (spells : Spells run column) : run.map (·.kind) = column.kinds := by
  cases spells <;> rfl

/-- Tokens that stand one behind the other, none of which stops before it starts. -/
structure InLine (tokens : List Token) : Prop where
  ordered : tokens.Pairwise fun left right => left.span.stop ≤ right.span.start
  proper : ∀ token ∈ tokens, token.span.start ≤ token.span.stop

theorem inLine_textTokens (text : String) : InLine (textTokens text) := by
  have tiled : Tiled 0 text.toList (textTokens text) := tiled_tokensFrom 0 text.toList
  have covers := tiled.covers (List.nil_append text.toList).symm rfl
  exact ⟨tiled.ordered, fun token member => Nat.le_of_lt (covers token member).1⟩

theorem InLine.sublist (inLine : InLine tokens) (inside : run.Sublist tokens) : InLine run :=
  ⟨inLine.ordered.sublist inside, fun token member => inLine.proper token (inside.mem member)⟩

/-- The span of a column goes from its first token to its last. -/
theorem Spells.exists_ends (spells : Spells run column) (inLine : InLine run) :
    ∃ first last, run.head? = some first ∧ run.getLast? = some last ∧
      column.span = ⟨first.span.start, last.span.stop⟩ := by
  cases spells with
  | name => exact ⟨_, _, rfl, rfl, rfl⟩
  | @qualified table name first point last =>
      refine ⟨⟨_, first⟩, ⟨_, last⟩, rfl, rfl, ?_⟩
      obtain ⟨later, -⟩ := List.pairwise_cons.mp inLine.ordered
      have apart : first.stop ≤ last.start := later ⟨.identifier name, last⟩ (by simp)
      have first_proper : first.start ≤ first.stop :=
        inLine.proper ⟨.identifier table, first⟩ (by simp)
      have last_proper : last.start ≤ last.stop :=
        inLine.proper ⟨.identifier name, last⟩ (by simp)
      simp only [Span.merge, Span.mk.injEq]
      omega

/-- Columns that are written one behind the other have spans one behind the other. -/
theorem Written.ordered (written : Written tokens leaves) (inLine : InLine tokens) :
    (leaves.filterMap Leaf.column?).Pairwise fun c d => c.span.stop ≤ d.span.start := by
  induction written with
  | nil => exact .nil
  | skip _ ih => exact ih (inLine.sublist (List.sublist_cons_self ..))
  | integer _ _ ih => exact ih (inLine.sublist (List.sublist_cons_self ..))
  | @column run tokens column leaves spells later ih =>
      refine .cons (fun d member => ?_) (ih (inLine.sublist (List.sublist_append_right ..)))
      obtain ⟨before, run', after, rfl, spells'⟩ :=
        later.exists_run (Leaf.column_mem_iff.mp member)
      have inLine' := inLine.sublist (List.sublist_append_right run _)
      have inside : run'.Sublist (before ++ run' ++ after) :=
        List.IsInfix.sublist ⟨before, after, rfl⟩
      obtain ⟨_, last, -, stops, span⟩ :=
        spells.exists_ends (inLine.sublist (List.sublist_append_left ..))
      obtain ⟨first, _, starts, -, span'⟩ := spells'.exists_ends (inLine'.sublist inside)
      rw [span, span']
      have apart := (List.pairwise_append.mp inLine.ordered).2.2
      exact apart last (List.mem_of_getLast? stops) first (inside.mem (List.mem_of_head? starts))

end Columns

/-- The span of a column covers its names and nothing else, and no byte of another column. -/
theorem Statement.columns_in_place {text : String} {statement : Statement}
    (parsed : Statement.parse text = .ok statement) :
    (∀ column ∈ statement.columns, ∃ covered, column.span.slice? text = some covered ∧
      (tokenize covered).map (·.kind) = column.kinds ++ [.eof]) ∧
    statement.columns.Pairwise fun c d => c.span.Apart d.span := by
  have inLine := inLine_textTokens text
  obtain ⟨t, read⟩ := parse_eq_ok.mp parsed
  have nested := gathers_nestedTo ((textTokens text).length + 1)
  have gathers := gathers_statement nested [] (.ofText text) (unsigned_ofText text) trivial
  obtain ⟨found, ⟨⟨passed, ahead, written⟩, _⟩, perm⟩ := gathers.2 statement t read
  replace ahead : textTokens text = passed ++ t.ahead := ahead
  constructor
  · intro column member
    have inside : .column column ∈ statement.leaves := Leaf.column_mem_iff.mp member
    obtain ⟨before, run, after, rfl, spells⟩ := written.exists_run (perm.mem_iff.mpr inside)
    rw [List.append_assoc] at ahead
    have part : run.Sublist (textTokens text) := List.IsInfix.sublist ⟨before, _, ahead.symm⟩
    obtain ⟨first, last, starts, stops, span⟩ := spells.exists_ends (inLine.sublist part)
    obtain ⟨covered, slice, kinds⟩ := slice_of_run (lexes_of_parse parsed) ahead starts stops
    refine ⟨covered, ?_, ?_⟩
    · rw [span, slice]
    · rw [kinds_tokenize, kinds, spells.kinds]
  · have ordered := written.ordered (inLine.sublist (ahead ▸ List.sublist_append_left ..))
    have columns : (found.filterMap Leaf.column?).Perm statement.columns := perm.filterMap _
    exact (columns.pairwise_iff Span.Apart.symm).mp (ordered.imp Or.inl)

/-- A comment and blanks around the point belong to the column's text; an offset written before the
limit comes after it in the statement. -/
theorem Statement.columns_in_place_qualified :
    ∃ statement, Statement.parse "SELECT t /* of */ . `a b` FROM t LIMIT u, v" = .ok statement ∧
      statement.columns =
        [⟨some "t", "a b", ⟨7, 25⟩⟩, ⟨none, "v", ⟨42, 43⟩⟩, ⟨none, "u", ⟨39, 40⟩⟩] ∧
      ∃ covered, Span.slice? ⟨7, 25⟩ "SELECT t /* of */ . `a b` FROM t LIMIT u, v" = some covered ∧
        (tokenize covered).map (·.kind) =
          [.identifier "t", .symbol .dot, .identifier "a b", .eof] := by
  have read : (Statement.parse "SELECT t /* of */ . `a b` FROM t LIMIT u, v").map
      Statement.columns =
        .ok [⟨some "t", "a b", ⟨7, 25⟩⟩, ⟨none, "v", ⟨42, 43⟩⟩, ⟨none, "u", ⟨39, 40⟩⟩] := by
    decide +kernel
  obtain ⟨statement, parsed, columns⟩ := map_eq_ok.mp read
  have covers := (Statement.columns_in_place parsed).1 ⟨some "t", "a b", ⟨7, 25⟩⟩
    (columns ▸ List.mem_cons_self)
  exact ⟨statement, parsed, columns, covers⟩

end ShardedSql.Sql
