import ShardedSql.Expansion
import ShardedSql.Proofs.ParameterMarks
import ShardedSql.Proofs.SpreadTokens
import ShardedSql.Proofs.WrittenHead

/-!
The text and the values of a statement after its lists have been expanded. Main statement: if no
name holds a question mark or a mark that opens a literal or a comment, then in the place of each
question mark that is bound to a list there are as many as the list has elements, and the values
stand in the order of these.
-/

namespace ShardedSql

open Sql Text Segment Sql.Writing
open Sql.Filling (allMarks allMarks_mark)
open Sql.Spreading (furtherKinds spreadKinds)

namespace Expanded

/-- The values a placeholder takes. -/
def elements : Value → List Value
  | .list items => items
  | v => [v]

/-- The number of values beyond the first that the placeholder with an ordinal takes. -/
def further (values : List Value) (k : Nat) : Nat :=
  match values[k]? with
  | some v => (elements v).length - 1
  | none => 0

/-- A question mark and so many further ones. -/
def marksText (further : Nat) : List Char :=
  '?' :: (List.replicate further [',', ' ', '?']).flatten

/-- What is written for a placeholder that is bound to a value. -/
def pieceOf (v : Value) : List Char :=
  marksText ((elements v).length - 1)

/-- The tokens of what is written. -/
def kindsOf (v : Value) : List TokenKind :=
  .symbol .question :: furtherKinds ((elements v).length - 1)

/-- The values in a row: those that so many placeholders take, and the others behind them. -/
def flattened (marks : Nat) (values : List Value) : List Value :=
  (values.take marks).flatMap elements ++ values.drop marks

/-! ## Placeholders -/

theorem joined_marks {α : Type} (first : α) (items : List α) :
    (joined ", " ((first :: items).map fun _ => "?")).toList = marksText items.length := by
  induction items with
  | nil => simp [joined, marksText]
  | cons second rest ih =>
      rw [List.map_cons] at ih
      rw [List.map_cons, List.map_cons, joined, String.intercalate_cons_cons, String.toList_append,
        String.toList_append]
      rw [joined] at ih
      rw [ih]
      simp [marksText, List.replicate_succ]

/-- No placeholder takes an empty list. -/
theorem placeholderFor_ok {v : Value} {written : String} {taken : List Value}
    (found : placeholderFor v = .ok (written, taken)) :
    written.toList = pieceOf v ∧ taken = elements v ∧ elements v ≠ [] := by
  cases v with
  | list items =>
      cases items with
      | nil => cases found
      | cons first items =>
          cases found
          exact ⟨joined_marks first items, rfl, List.cons_ne_nil _ _⟩
  | _ =>
      cases found
      exact ⟨rfl, rfl, List.cons_ne_nil _ _⟩

theorem isPiece_marksText (n : Nat) : IsPiece (marksText n) := by
  refine ⟨⟨'?', by decide +kernel, by decide, rfl⟩, '?', by decide, ?_⟩
  induction n with
  | zero => rfl
  | succ n ih =>
      rw [marksText, List.replicate_succ', List.flatten_append, ← List.cons_append,
        List.getLast?_append]
      rfl

theorem kindsIn_question (rest : List Char) :
    kindsIn ('?' :: rest) = .symbol .question :: kindsIn rest :=
  kindsIn_symbol (by decide) (commentAt_of_other rest (by decide) (by decide)) rfl fun _ _ => rfl

theorem kindsIn_comma (rest : List Char) :
    kindsIn (',' :: ' ' :: rest) = .symbol .comma :: kindsIn rest := by
  have blank : Lexed .blank [' '] rest := .blank (by decide)
  have behind : kindsIn (' ' :: rest) = kindsIn rest := kindsIn_of_lexed blank (by simp)
  rw [kindsIn_symbol (by decide) (commentAt_of_other _ (by decide) (by decide)) rfl fun _ _ => rfl,
    behind]

theorem reads_marksText (n : Nat) : Reads (marksText n) (.symbol .question :: furtherKinds n) := by
  intro rest
  rw [marksText, List.cons_append, kindsIn_question]
  induction n with
  | zero => rfl
  | succ n ih =>
      rw [List.replicate_succ, List.flatten_cons, List.append_assoc, List.cons_append,
        List.cons_append, List.singleton_append, kindsIn_comma, kindsIn_question, ih]
      rfl

/-! ## Stretches of code -/

section Code

variable {run more : List Char} {values : List Value} {progress : Progress}

attribute [local simp] expandCode expandSegments

theorem after_after (progress : Progress) (front front' : List Char) (taken taken' : List Value) :
    (progress.after front' taken').after front taken =
      progress.after (front ++ front') (taken ++ taken') := by
  simp only [Progress.after, List.append_assoc]

/-- Code is expanded from the front. -/
theorem expandCode_append (expanded : expandCode (run ++ more) values = .ok progress) :
    ∃ here others, expandCode run values = .ok here ∧ expandCode more here.left = .ok others ∧
      progress = others.after here.text here.taken := by
  induction run generalizing values progress with
  | nil => exact ⟨⟨[], [], values⟩, progress, by simp, expanded, rfl⟩
  | cons c rest ih =>
      rw [List.cons_append] at expanded
      cases values with
      | nil =>
          rw [expandCode] at expanded ⊢
          obtain ⟨behind, read, rfl⟩ := map_eq_ok.mp expanded
          obtain ⟨here, others, first, second, rfl⟩ := ih read
          exact ⟨_, others, map_eq_ok.mpr ⟨here, first, rfl⟩, second, after_after ..⟩
      | cons v values =>
          rw [expandCode] at expanded ⊢
          by_cases mark : c = '?'
          · rw [if_pos mark] at expanded ⊢
            obtain ⟨⟨written, taken⟩, bound, expanded⟩ := bind_eq_ok.mp expanded
            obtain ⟨behind, read, ending⟩ := bind_eq_ok.mp expanded
            obtain rfl := pure_eq_ok.mp ending
            obtain ⟨here, others, first, second, rfl⟩ := ih read
            refine ⟨here.after written.toList taken, others, bind_eq_ok.mpr ⟨_, bound, ?_⟩, second,
              after_after ..⟩
            exact bind_eq_ok.mpr ⟨here, first, rfl⟩
          · rw [if_neg mark] at expanded ⊢
            obtain ⟨behind, read, rfl⟩ := map_eq_ok.mp expanded
            obtain ⟨here, others, first, second, rfl⟩ := ih read
            exact ⟨_, others, map_eq_ok.mpr ⟨here, first, rfl⟩, second, after_after ..⟩

/-- Code stays as it is without a question mark, or when no value is left. -/
theorem expandCode_stays (stays : values = [] ∨ '?' ∉ run) :
    expandCode run values = .ok ⟨run, [], values⟩ := by
  induction run with
  | nil => simp
  | cons c rest ih =>
      have behind : expandCode rest values = .ok ⟨rest, [], values⟩ :=
        ih (stays.imp_right fun quiet member => quiet (List.mem_cons_of_mem _ member))
      cases values with
      | nil =>
          rw [expandCode, behind]
          rfl
      | cons v values =>
          have other : c ≠ '?' := by
            rintro rfl
            exact stays.resolve_left (List.cons_ne_nil _ _) (List.mem_cons_self ..)
          rw [expandCode, if_neg other, behind]
          rfl

theorem expandSegments_cons_code {text : List Char} {rest : List Segment} :
    expandSegments (⟨.code, text⟩ :: rest) values = .ok progress ↔
      ∃ here others, expandCode text values = .ok here ∧
        expandSegments rest here.left = .ok others ∧
        progress = others.after here.text here.taken := by
  simp [bind_eq_ok, pure_eq_ok, -bind_pure_comp, eq_comm (a := progress)]

theorem expandSegments_cons_other {kind : SegmentKind} {text : List Char} {rest : List Segment}
    (other : kind ≠ .code) :
    expandSegments (⟨kind, text⟩ :: rest) values = .ok progress ↔
      ∃ others, expandSegments rest values = .ok others ∧ progress = others.after text [] := by
  simp [other, bind_eq_ok, pure_eq_ok, -bind_pure_comp, eq_comm (a := progress)]

/-- The code of a segment is expanded before what stands behind it. -/
theorem expandSegments_addText {behind : List Segment}
    (expanded : expandSegments (addText run behind) values = .ok progress) :
    ∃ here others, expandCode run values = .ok here ∧
      expandSegments behind here.left = .ok others ∧
      progress = others.after here.text here.taken := by
  have alone (apart : addText run behind = ⟨.code, run⟩ :: behind) :
      ∃ here others, expandCode run values = .ok here ∧
        expandSegments behind here.left = .ok others ∧
        progress = others.after here.text here.taken := by
    rw [apart] at expanded
    exact expandSegments_cons_code.mp expanded
  rcases behind with _ | ⟨⟨kind, text⟩, rest⟩
  · exact alone rfl
  · cases kind with
    | code =>
        obtain ⟨whole, others, read, later, rfl⟩ := expandSegments_cons_code.mp expanded
        obtain ⟨here, inside, first, second, rfl⟩ := expandCode_append read
        exact ⟨here, _, first, expandSegments_cons_code.mpr ⟨inside, others, second, later, rfl⟩,
          (after_after ..).symm⟩
    | _ => exact alone rfl

end Code

/-! ## Along the lexemes -/

/-- No name is written with a question mark or with a mark that opens a segment. -/
def QuietNames (pieces : List (Lexeme × List Char)) : Prop :=
  ∀ piece ∈ pieces, isName piece.1 = true → ¬ HoldsMark piece.2 ∧ '?' ∉ piece.2

instance (pieces : List (Lexeme × List Char)) : Decidable (QuietNames pieces) :=
  inferInstanceAs (Decidable (∀ piece ∈ pieces, _))

/-- Expanding has passed so many question marks: what it has written, taken and left. -/
structure Expands (values : List Value) (marks : Nat) (written : List Char) (progress : Progress) :
    Prop where
  text : progress.text = written
  taken : progress.taken = (values.take marks).flatMap elements
  left : progress.left = values.drop marks
  nonempty : ∀ v ∈ values.take marks, elements v ≠ []

/-- What is passed is written as it is. -/
theorem Expands.after {values : List Value} {marks : Nat} {written : List Char}
    {progress : Progress} (expands : Expands values marks written progress) (front : List Char) :
    Expands values marks (front ++ written) (progress.after front []) :=
  ⟨congrArg (front ++ ·) expands.text, expands.taken, expands.left, expands.nonempty⟩

/-- Without values it does not matter how many question marks are passed. -/
theorem Expands.unbound {marks : Nat} {written : List Char} {progress : Progress}
    (expands : Expands [] marks written progress) (others : Nat) :
    Expands [] others written progress := by
  obtain ⟨text, taken, left, _⟩ := expands
  rw [List.take_nil] at taken
  rw [List.drop_nil] at left
  exact ⟨text, by rw [List.take_nil, taken], by rw [List.drop_nil, left], by simp⟩

section Lexemes

variable {lexeme : Lexeme} {c : Char} {w tail chars : List Char} {values : List Value}
  {progress : Progress} {behind : List Segment}

/-- A lexeme that is no question mark is passed. -/
theorem expandSegments_put (lexed : Lexed lexeme (c :: w) tail)
    (clear : ∀ reason, lexeme ≠ .token (.error reason))
    (stays : lexeme = .token (.symbol .question) → values = [])
    (quiet : isName lexeme = true → '?' ∉ c :: w)
    (expanded : expandSegments (put lexeme (c :: w) behind) values = .ok progress) :
    ∃ others, expandSegments behind values = .ok others ∧
      progress = others.after (c :: w) [] := by
  have code {run : List Char} {behind : List Segment} {progress : Progress}
      (kept : values = [] ∨ '?' ∉ run)
      (expanded : expandSegments (addText run behind) values = .ok progress) :
      ∃ others, expandSegments behind values = .ok others ∧ progress = others.after run [] := by
    obtain ⟨here, others, first, second, rfl⟩ := expandSegments_addText expanded
    obtain rfl := Except.ok.inj ((expandCode_stays kept).symm.trans first)
    exact ⟨others, second, rfl⟩
  by_cases whole : isCodeLexeme lexeme = true
  · rw [put_of_isCodeLexeme whole] at expanded
    refine code ?_ expanded
    by_cases question : lexeme = .token (.symbol .question)
    · exact .inl (stays question)
    · exact .inr (bare_of_lexed lexed clear whole question quiet)
  · cases lexed with
    | line inside stop => exact (expandSegments_cons_other (commentKind_ne_code _)).mp expanded
    | block closes => exact (expandSegments_cons_other (commentKind_ne_code _)).mp expanded
    | string run stop => exact (expandSegments_cons_other (by decide)).mp expanded
    | blob marker run stop even digits =>
        have bare : '?' ∉ [c] := by
          rcases marker with rfl | rfl <;> decide
        have parts : expandSegments (addText [c] (⟨.literal, _⟩ :: behind)) values =
            .ok progress := expanded
        obtain ⟨front, quoted, rfl⟩ := code (.inr bare) parts
        obtain ⟨others, later, rfl⟩ := (expandSegments_cons_other (by decide)).mp quoted
        exact ⟨others, later, after_after ..⟩
    | number digit shape number =>
        exact absurd (isCodeLexeme_numeral (isNumeral_of_cutNumber number)) whole
    | word => exact absurd (isCodeLexeme_wordKind _) whole
    | _ => exact absurd rfl whole

/-- Expanding the segments of a text writes into the places of its question marks. -/
theorem expands_segments (clear : Clear (lexemes chars)) (quiet : QuietNames (lexemes chars))
    (expanded : expandSegments (segments chars) values = .ok progress) :
    Expands values (allMarks (kindsIn chars)) (writtenChars (values.map pieceOf) chars)
      progress := by
  induction chars using lexed_induction generalizing values progress with
  | nil =>
      rw [segments, expandSegments] at expanded
      cases expanded
      have nothing : kindsIn [] = [] := by simp [kindsIn, lexemes]
      rw [nothing, writtenChars_nil]
      refine ⟨rfl, rfl, rfl, ?_⟩
      intro v bound
      cases bound
  | cons lexeme c w tail lexed ih =>
      obtain ⟨fine, clear_later⟩ := clear.of_cons
      obtain ⟨quiet_here, quiet_later⟩ := List.forall_mem_cons.mp quiet
      rw [segments_of_lexed lexed fine fun named => (quiet_here named).1] at expanded
      rw [kindsIn_of_lexed lexed fine]
      -- A question mark that has no value left stays, as every other lexeme does.
      by_cases marked : lexeme = .token (.symbol .question) ∧ values ≠ []
      · obtain ⟨rfl, some_value⟩ := marked
        obtain ⟨v, values, rfl⟩ := List.exists_cons_of_ne_nil some_value
        obtain ⟨here, others, first, second, rfl⟩ := expandSegments_addText expanded
        rw [covered_of_question lexed rfl, expandCode, if_pos rfl] at first
        obtain ⟨⟨written, taken⟩, bound, first⟩ := bind_eq_ok.mp first
        rw [expandCode_stays (.inr List.not_mem_nil)] at first
        cases first
        obtain ⟨text_here, rfl, some_element⟩ := placeholderFor_ok bound
        have behind := ih clear_later quiet_later second
        change Expands _ (allMarks (.symbol .question :: kindsIn tail)) _ _
        rw [List.map_cons, writtenChars_mark lexed, allMarks_mark]
        constructor
        · rw [Progress.after, behind.text, ← text_here]
          exact congrArg (· ++ _) (List.append_nil _)
        · rw [Progress.after, behind.taken, List.take_succ_cons, List.flatMap_cons]
          exact congrArg (· ++ _) (List.append_nil _)
        · rw [Progress.after, behind.left, List.drop_succ_cons]
          rfl
        · exact List.forall_mem_cons.mpr ⟨some_element, behind.nonempty⟩
      · have stays (same : lexeme = .token (.symbol .question)) : values = [] :=
          not_not.mp fun more => marked ⟨same, more⟩
        obtain ⟨others, later, rfl⟩ := expandSegments_put lexed fine stays
          (fun named => (quiet_here named).2) expanded
        have behind := (ih clear_later quiet_later later).after (c :: w)
        rw [writtenChars_stays lexed fine fun same => by rw [stays same]; rfl]
        by_cases question : lexeme = .token (.symbol .question)
        · obtain rfl := stays question
          exact behind.unbound _
        · rwa [allMarks_kind? question]

end Lexemes

/-! ## Whole texts -/

/-- The question mark of a value is written as one for each of its elements; further values stay
behind those that were taken. -/
theorem expandLists_written {sql : String} {values : List Value} {expanded : Expanded}
    (found : expandLists sql values = .ok expanded) (lists : values.any isList = true)
    (clear : Clear (lexemes sql.toList)) (quiet : QuietNames (lexemes sql.toList)) :
    expanded.sql = writtenText (values.map pieceOf) sql ∧
      expanded.values = flattened (allMarks (tokenKinds sql)) values ∧
      ∀ v ∈ values.take (allMarks (tokenKinds sql)), elements v ≠ [] := by
  rw [expandLists, lists] at found
  obtain ⟨progress, segmented, ending⟩ := bind_eq_ok.mp found
  obtain rfl := pure_eq_ok.mp ending
  have expands := expands_segments clear quiet segmented
  rw [tokenKinds_eq]
  exact ⟨congrArg String.ofList expands.text, by rw [expands.taken, expands.left, flattened],
    expands.nonempty⟩

theorem writtenKinds_drop (values : List Value) (k : Nat) (kinds : List TokenKind) :
    writtenKinds ((values.drop k).map kindsOf) kinds = spreadKinds (further values) k kinds := by
  induction kinds generalizing k with
  | nil => cases (values.drop k) <;> rfl
  | cons kind rest ih =>
      by_cases mark : kind = .symbol .question
      · have behind := ih (k + 1)
        rw [mark, spreadKinds, if_pos rfl]
        cases here : values[k]? with
        | none =>
            have beyond := List.getElem?_eq_none_iff.mp here
            rw [List.drop_eq_nil_of_le (by omega)] at behind
            rw [List.drop_eq_nil_of_le beyond, further, here, ← behind]
            simp [writtenKinds, furtherKinds]
        | some v =>
            obtain ⟨within, rfl⟩ := List.getElem?_eq_some_iff.mp here
            rw [List.drop_eq_getElem_cons within, List.map_cons, writtenKinds_mark, further, here,
              behind]
            rfl
      · rw [spreadKinds, if_neg mark, ← ih k]
        cases values.drop k <;> simp [writtenKinds, mark]

/-- The tokens of a text with the question marks of its lists. -/
theorem tokenKinds_written {text : String} {parsed : Statement}
    (read : Statement.parse text = .ok parsed) (values : List Value) :
    tokenKinds (writtenText (values.map pieceOf) text) =
      spreadKinds (further values) 0 (tokenKinds text) := by
  have fine : ∀ piece ∈ values.map pieceOf, IsPiece piece :=
    List.forall_mem_map.mpr fun v _ => isPiece_marksText _
  have reads : List.Forall₂ Reads (values.map pieceOf)
      (values.map kindsOf) := by
    rw [List.forall₂_map_left_iff, List.forall₂_map_right_iff, List.forall₂_same]
    exact fun v _ => reads_marksText _
  rw [tokenKinds_eq, tokenKinds_eq, writtenText, String.toList_ofList,
    (kindsIn_writtenChars (lexes_of_parse read) fine reads).2, ← writtenKinds_drop, List.drop_zero]

end Expanded

end ShardedSql
