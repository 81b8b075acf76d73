import ShardedSql.Proofs.CodeMarks
import ShardedSql.Proofs.ExpandedLists
import ShardedSql.Proofs.PatchedSegments

/-!
Where the placeholders of a text stand after its lists have been expanded, and what they are bound
to. The segments of a text are expanded one by one, and its expansion is split into these again.
Main statements: expansion fails exactly if a placeholder is bound to an empty list; otherwise each
one becomes a block of as many as its value has elements, in the order of these; and the
placeholders are those that the parser numbers, as long as no name is written with one.
-/

namespace ShardedSql

open Text Sql Segment Sql.Writing

/-! ## Edits at places -/

/-- The characters, of which those at some places are replaced; the first one stands at `offset`,
and the places ascend. -/
def replacedAt (offset : Nat) : List (Nat × List Char) → List Char → List Char
  | _, [] => []
  | [], c :: rest => c :: rest
  | (place, piece) :: edits, c :: rest =>
      if offset = place then piece ++ replacedAt (offset + c.utf8Size) edits rest
      else c :: replacedAt (offset + c.utf8Size) ((place, piece) :: edits) rest

section Edits

variable {offset : Nat} {edits : List (Nat × List Char)}

theorem replacedAt_nil (offset : Nat) (chars : List Char) : replacedAt offset [] chars = chars := by
  cases chars <;> rfl

theorem replacedAt_here (piece : List Char) (c : Char) (rest : List Char) :
    replacedAt offset ((offset, piece) :: edits) (c :: rest) =
      piece ++ replacedAt (offset + c.utf8Size) edits rest := by
  rw [replacedAt, if_pos rfl]

/-- What stands before all edits stays. -/
theorem replacedAt_append {run : List Char}
    (later : ∀ edit ∈ edits, offset + byteLength run ≤ edit.1) (tail : List Char) :
    replacedAt offset edits (run ++ tail) =
      run ++ replacedAt (offset + byteLength run) edits tail := by
  induction run generalizing offset with
  | nil => rfl
  | cons c rest ih =>
      cases edits with
      | nil => simp only [replacedAt_nil]
      | cons edit edits =>
          obtain ⟨place, piece⟩ := edit
          simp only [byteLength, ← Nat.add_assoc] at later ⊢
          have size := c.utf8Size_pos
          have here := later _ (List.mem_cons_self ..)
          have apart : offset ≠ place := by
            simp only at here
            omega
          rw [List.cons_append, replacedAt, if_neg apart, ih later, List.cons_append]

end Edits

namespace Expanded

/-! ## Expanded code -/

/-- Code with what is written for its placeholders, the first of which takes the first value. -/
def spreadCode : List Value → List Char → List Char
  | _, [] => []
  | [], c :: rest => c :: rest
  | v :: values, c :: rest =>
      if c = '?' then pieceOf v ++ spreadCode values rest else c :: spreadCode (v :: values) rest

/-- Segments with what is written for the placeholders in their code. -/
def spreadSegments : List Value → List Segment → List Segment
  | _, [] => []
  | values, segment :: rest =>
      if segment.kind = .code then
        ⟨.code, spreadCode values segment.text⟩ ::
          spreadSegments (values.drop (segment.text.count '?')) rest
      else segment :: spreadSegments values rest

def emptyList : ShardError :=
  .invalidShardValue "IN list" "empty list"

theorem elements_eq_nil_iff {v : Value} : elements v = [] ↔ v = .list [] := by
  cases v <;> simp [elements]

theorem placeholderFor_of_ne {v : Value} (some_element : v ≠ .list []) :
    placeholderFor v = .ok (String.ofList (pieceOf v), elements v) := by
  cases v with
  | list items =>
      cases items with
      | nil => exact absurd rfl some_element
      | cons first items =>
          have written := joined_marks first items
          rw [placeholderFor, ← String.ofList_toList (s := joined ..), written]
          · rfl
          · simp
  | _ => rfl

section Code

variable {values : List Value} {run : List Char}

theorem spreadCode_nil (run : List Char) : spreadCode [] run = run := by
  cases run <;> rfl

theorem expandCode_ok (nonempty : .list [] ∉ values.take (run.count '?')) :
    expandCode run values =
      .ok ⟨spreadCode values run, (values.take (run.count '?')).flatMap elements,
        values.drop (run.count '?')⟩ := by
  induction run generalizing values with
  | nil => simp [expandCode, spreadCode]
  | cons c rest ih =>
      cases values with
      | nil => rw [expandCode_stays (.inl rfl), spreadCode_nil]; simp
      | cons v values =>
          rw [expandCode, spreadCode]
          by_cases mark : c = '?'
          · subst mark
            rw [List.count_cons_self, List.take_succ_cons] at nonempty ⊢
            obtain ⟨here, later⟩ := not_or.mp (mt List.mem_cons.mpr nonempty)
            rw [if_pos rfl, if_pos rfl]
            refine bind_eq_ok.mpr ⟨_, placeholderFor_of_ne (Ne.symm here),
              bind_eq_ok.mpr ⟨_, ih later, ?_⟩⟩
            simp [Progress.after, pure_eq_ok]
          · rw [List.count_cons_of_ne mark] at nonempty ⊢
            rw [if_neg mark, if_neg mark, ih nonempty]
            rfl

theorem expandCode_error (empty : .list [] ∈ values.take (run.count '?')) :
    expandCode run values = .error emptyList := by
  induction run generalizing values with
  | nil => simp at empty
  | cons c rest ih =>
      cases values with
      | nil => simp at empty
      | cons v values =>
          rw [expandCode]
          by_cases mark : c = '?'
          · subst mark
            rw [List.count_cons_self, List.take_succ_cons] at empty
            rw [if_pos rfl]
            by_cases here : v = .list []
            · rw [here]; rfl
            · rw [placeholderFor_of_ne here, ih ((List.mem_cons.mp empty).resolve_left (Ne.symm here))]
              rfl
          · rw [List.count_cons_of_ne mark] at empty
            rw [if_neg mark, ih empty]
            rfl

end Code

/-! ## Expanded segments -/

section Segments

variable {values : List Value} {offset : Nat} {all : List Segment}

theorem length_codeMarks_cons (offset : Nat) (segment : Segment) (rest : List Segment) :
    (codeMarks offset (segment :: rest)).length =
      (if segment.kind = .code then segment.text.count '?' else 0) +
        (codeMarks (offset + byteLength segment.text) rest).length := by
  rw [codeMarks, List.length_append]
  split
  · rw [length_marksIn]
  · rfl

theorem expandSegments_ok (nonempty : .list [] ∉ values.take (codeMarks offset all).length) :
    expandSegments all values =
      .ok ⟨textOf (spreadSegments values all),
        (values.take (codeMarks offset all).length).flatMap elements,
        values.drop (codeMarks offset all).length⟩ := by
  induction all generalizing offset values with
  | nil => simp [expandSegments, spreadSegments, codeMarks, textOf]
  | cons segment rest ih =>
      obtain ⟨kind, text⟩ := segment
      rw [length_codeMarks_cons] at nonempty ⊢
      by_cases code : kind = .code
      · subst code
        rw [if_pos rfl, List.take_add] at nonempty
        obtain ⟨here, later⟩ := not_or.mp (mt List.mem_append.mpr nonempty)
        refine expandSegments_cons_code.mpr ⟨_, _, expandCode_ok here, ih later, ?_⟩
        simp [Progress.after, spreadSegments, List.take_add]
      · simp only [code, if_false, Nat.zero_add] at nonempty ⊢
        refine (expandSegments_cons_other code).mpr ⟨_, ih nonempty, ?_⟩
        simp [Progress.after, spreadSegments, code]

theorem expandSegments_error (empty : .list [] ∈ values.take (codeMarks offset all).length) :
    expandSegments all values = .error emptyList := by
  induction all generalizing offset values with
  | nil => simp [codeMarks] at empty
  | cons segment rest ih =>
      obtain ⟨kind, text⟩ := segment
      rw [length_codeMarks_cons] at empty
      rw [expandSegments]
      by_cases code : kind = .code
      · subst code
        rw [if_pos rfl, List.take_add] at empty
        rw [if_pos rfl]
        by_cases here : .list [] ∈ values.take (text.count '?')
        · rw [expandCode_error here]
          rfl
        · rw [expandCode_ok here]
          have later := (List.mem_append.mp empty).resolve_left here
          simp only [bind, Except.bind, ih later]
      · simp only [code, if_false, Nat.zero_add] at empty ⊢
        simp only [pure_bind, ih empty]
        rfl

/-! ## The same segments again -/

theorem plain_of_mem_pieceOf {v : Value} {c : Char} (member : c ∈ pieceOf v) : c ∉ edgeChars := by
  have shape : c = '?' ∨ c = ',' ∨ c = ' ' := by
    rcases List.mem_cons.mp member with rfl | further
    · exact .inl rfl
    · obtain ⟨piece, repeated, inside⟩ := List.mem_flatten.mp further
      obtain rfl := List.eq_of_mem_replicate repeated
      simp only [List.mem_cons, List.not_mem_nil, or_false] at inside
      tauto
  rcases shape with rfl | rfl | rfl <;> decide

theorem patched_spreadCode (values : List Value) (run : List Char) :
    Patched run (spreadCode values run) := by
  induction run generalizing values with
  | nil => cases values <;> exact .nil
  | cons c rest ih =>
      cases values with
      | nil => exact .refl _
      | cons v values =>
          rw [spreadCode]
          split
          · next mark =>
              subst mark
              have bare : ∀ c ∈ ['?'], c ∉ edgeChars := List.forall_mem_singleton.mpr (by decide)
              exact .patch (List.cons_ne_nil _ _) bare (List.cons_ne_nil _ _)
                (fun _ => plain_of_mem_pieceOf) (ih values)
          · exact .char c (ih (v :: values))

theorem patched_spreadSegments (values : List Value) (all : List Segment) :
    List.Forall₂ PatchedSegment all (spreadSegments values all) := by
  induction all generalizing values with
  | nil => cases values <;> exact .nil
  | cons segment rest ih =>
      obtain ⟨kind, text⟩ := segment
      rw [spreadSegments]
      split
      · next code =>
          cases code
          exact .cons (.code (patched_spreadCode values text)) (ih _)
      · exact .cons (.same _) (ih values)

/-- An expanded text is split where the text is split. -/
theorem segments_spread (values : List Value) (chars : List Char) :
    segments (textOf (spreadSegments values (segments chars))) =
      spreadSegments values (segments chars) :=
  segments_patched (patched_spreadSegments values (segments chars))

/-! ## Everything else stays -/

theorem le_of_mem_codeMarks {place : Nat} (member : place ∈ codeMarks offset all) :
    offset ≤ place := by
  induction all generalizing offset with
  | nil => cases member
  | cons segment rest ih =>
      rcases List.mem_append.mp member with here | later
      · split at here
        · exact (mem_marksIn here).1
        · cases here
      · exact Nat.le_trans (Nat.le_add_right _ _) (ih later)

theorem replacedAt_marksIn {marks : List Nat} {run : List Char}
    (later : ∀ mark ∈ marks, offset + byteLength run ≤ mark) (values : List Value)
    (tail : List Char) :
    replacedAt offset ((marksIn offset run ++ marks).zip (values.map pieceOf)) (run ++ tail) =
      spreadCode values run ++
        replacedAt (offset + byteLength run)
          (marks.zip ((values.drop (run.count '?')).map pieceOf)) tail := by
  induction run generalizing offset values with
  | nil => cases values <;> rfl
  | cons c rest ih =>
      simp only [byteLength, ← Nat.add_assoc] at later ⊢
      cases values with
      | nil => simp only [List.map_nil, List.zip_nil_right, replacedAt_nil, spreadCode, List.drop_nil]
      | cons v values =>
          rw [spreadCode]
          by_cases mark : c = '?'
          · subst mark
            rw [List.count_cons_self, List.drop_succ_cons, if_pos rfl, List.append_assoc,
              ← ih later values]
            exact replacedAt_here ..
          -- The first edit is behind this character, whether in the run or among the later marks.
          · have apart : ∀ edit ∈ (marksIn (offset + c.utf8Size) rest ++ marks).zip
                ((v :: values).map pieceOf), offset + byteLength [c] ≤ edit.1 := by
              intro edit member
              have place := (List.of_mem_zip member).1
              simp only [byteLength, Nat.add_zero]
              rcases List.mem_append.mp place with here | behind
              · exact (mem_marksIn here).1
              · exact Nat.le_trans (Nat.le_add_right _ _) (later _ behind)
            rw [List.count_cons_of_ne mark, if_neg mark]
            change _ = c :: (_ ++ _)
            rw [← ih later (v :: values), marksIn, if_neg mark]
            exact replacedAt_append apart _

theorem textOf_spreadSegments (offset : Nat) (values : List Value) (all : List Segment) :
    textOf (spreadSegments values all) =
      replacedAt offset ((codeMarks offset all).zip (values.map pieceOf)) (textOf all) := by
  induction all generalizing offset values with
  | nil => cases values <;> rfl
  | cons segment rest ih =>
      obtain ⟨kind, text⟩ := segment
      rw [spreadSegments, codeMarks, textOf_cons]
      by_cases code : kind = .code
      · rw [if_pos code, if_pos code,
          replacedAt_marksIn (fun _ => le_of_mem_codeMarks) values, ← ih, textOf_cons]
      · have behind : ∀ edit ∈ (codeMarks (offset + byteLength text) rest).zip
            (values.map pieceOf), offset + byteLength text ≤ edit.1 :=
          fun edit member => le_of_mem_codeMarks (List.of_mem_zip member).1
        rw [if_neg code, if_neg code, List.nil_append, replacedAt_append behind, ← ih, textOf_cons]

end Segments

/-! ## Blocks of placeholders -/

/-- The places of so many placeholders in a row, with a comma and a blank between them. -/
def rowMarks (start count : Nat) : List Nat :=
  (List.range count).map fun i => start + 3 * i

/-- The places of the placeholders that take the elements of each value: what is written before has
moved the first of them. Placeholders beyond the last value are only moved. -/
def blocks (moved : Nat) : List Nat → List Value → List (List Nat)
  | [], _ => []
  | mark :: marks, [] => [mark + moved] :: blocks moved marks []
  | mark :: marks, v :: values =>
      rowMarks (mark + moved) (elements v).length ::
        blocks (moved + 3 * ((elements v).length - 1)) marks values

/-- How much longer a text gets by the elements of values. -/
def grown : List Value → Nat
  | [] => 0
  | v :: values => 3 * ((elements v).length - 1) + grown values

theorem byteLength_marksText (n : Nat) : byteLength (marksText n) = 1 + 3 * n := by
  induction n with
  | zero => rfl
  | succ n ih =>
      rw [marksText, List.replicate_succ', List.flatten_append, ← List.cons_append,
        byteLength_append, ← marksText, ih, Nat.add_assoc]
      rfl

theorem marksIn_marksText (start n : Nat) : marksIn start (marksText n) = rowMarks start (n + 1) := by
  induction n with
  | zero => rfl
  | succ n ih =>
      have size := byteLength_marksText n
      rw [marksText, List.replicate_succ', List.flatten_append, ← List.cons_append,
        marksIn_append, ← marksText, ih, size, rowMarks, rowMarks, List.range_succ (n := n + 1),
        List.map_append]
      refine congrArg _ (congrArg (· :: []) ?_)
      change start + (1 + 3 * n) + 1 + 1 = start + 3 * (n + 1)
      omega

section Blocks

variable {values : List Value} {marks : List Nat}

theorem blocks_nil_values (moved : Nat) (marks : List Nat) :
    (blocks moved marks []).flatten = marks.map (· + moved) := by
  induction marks with
  | nil => rfl
  | cons mark rest ih => rw [blocks, List.flatten_cons, ih, List.map_cons, List.singleton_append]

theorem blocks_append (moved : Nat) (marks more : List Nat) (values : List Value) :
    blocks moved (marks ++ more) values =
      blocks moved marks values ++
        blocks (moved + grown (values.take marks.length)) more (values.drop marks.length) := by
  induction marks generalizing moved values with
  | nil => simp [blocks, grown]
  | cons mark rest ih =>
      cases values with
      | nil =>
          have behind := ih moved []
          simp only [List.take_nil, List.drop_nil] at behind ⊢
          rw [List.cons_append, blocks, blocks, behind, List.cons_append]
      | cons v values =>
          rw [List.cons_append, blocks, blocks, ih, List.cons_append, List.length_cons,
            List.take_succ_cons, List.drop_succ_cons, grown, Nat.add_assoc]

theorem marksIn_add (offset moved : Nat) (run : List Char) :
    marksIn (offset + moved) run = (marksIn offset run).map (· + moved) := by
  induction run generalizing offset with
  | nil => rfl
  | cons c rest ih =>
      rw [marksIn, marksIn, List.map_append, ← ih, Nat.add_right_comm]
      split <;> rfl

theorem byteLength_spreadCode (values : List Value) (run : List Char) :
    byteLength (spreadCode values run) =
      byteLength run + grown (values.take (run.count '?')) := by
  induction run generalizing values with
  | nil => cases values <;> rfl
  | cons c rest ih =>
      cases values with
      | nil => simp [spreadCode, grown]
      | cons v values =>
          rw [spreadCode]
          by_cases mark : c = '?'
          · subst mark
            have size : '?'.utf8Size = 1 := by decide
            rw [if_pos rfl, byteLength_append, ih, pieceOf, byteLength_marksText,
              List.count_cons_self, List.take_succ_cons, byteLength, size, grown]
            omega
          · rw [if_neg mark, byteLength, ih, List.count_cons_of_ne mark, byteLength, Nat.add_assoc]

theorem marksIn_spreadCode (nonempty : .list [] ∉ values.take (run.count '?'))
    (offset moved : Nat) :
    marksIn (offset + moved) (spreadCode values run) =
      (blocks moved (marksIn offset run) values).flatten := by
  induction run generalizing values offset moved with
  | nil => cases values <;> rfl
  | cons c rest ih =>
      cases values with
      | nil => rw [spreadCode_nil, blocks_nil_values, marksIn_add]
      | cons v values =>
          rw [spreadCode, marksIn]
          by_cases mark : c = '?'
          · subst mark
            rw [List.count_cons_self, List.take_succ_cons] at nonempty
            obtain ⟨here, later⟩ := not_or.mp (mt List.mem_cons.mpr nonempty)
            have length := List.length_pos_iff.mpr (mt elements_eq_nil_iff.mp (Ne.symm here))
            have size : '?'.utf8Size = 1 := by decide
            have count : (elements v).length - 1 + 1 = (elements v).length :=
              Nat.sub_add_cancel length
            -- The marks behind are moved by what is written here beyond one question mark.
            have shift : offset + moved + (1 + 3 * ((elements v).length - 1)) =
                offset + 1 + (moved + 3 * ((elements v).length - 1)) := by omega
            rw [if_pos rfl, if_pos rfl, marksIn_append, pieceOf, marksIn_marksText,
              byteLength_marksText, count, shift, ih later, size, List.singleton_append, blocks,
              List.flatten_cons]
          · rw [List.count_cons_of_ne mark] at nonempty
            rw [if_neg mark, if_neg mark, List.nil_append, marksIn, if_neg mark, List.nil_append,
              Nat.add_right_comm, ih nonempty]

theorem codeMarks_spreadSegments {offset : Nat} {all : List Segment}
    (nonempty : .list [] ∉ values.take (codeMarks offset all).length) (moved : Nat) :
    codeMarks (offset + moved) (spreadSegments values all) =
      (blocks moved (codeMarks offset all) values).flatten := by
  induction all generalizing values offset moved with
  | nil => cases values <;> rfl
  | cons segment rest ih =>
      obtain ⟨kind, text⟩ := segment
      rw [length_codeMarks_cons] at nonempty
      rw [spreadSegments]
      by_cases code : kind = .code
      · subst code
        rw [if_pos rfl, List.take_add] at nonempty
        obtain ⟨here, later⟩ := not_or.mp (mt List.mem_append.mpr nonempty)
        have shift : offset + moved + (byteLength text + grown (values.take (text.count '?'))) =
            offset + byteLength text + (moved + grown (values.take (text.count '?'))) := by omega
        rw [if_pos rfl, codeMarks, codeMarks, if_pos rfl, if_pos rfl, blocks_append,
          List.flatten_append, length_marksIn, marksIn_spreadCode here, byteLength_spreadCode,
          shift, ih later]
      · simp only [code, if_false, Nat.zero_add] at nonempty
        rw [if_neg code, codeMarks, codeMarks, if_neg code, if_neg code, List.nil_append,
          List.nil_append, Nat.add_right_comm, ih nonempty]

/-! ## What the placeholders are bound to -/

/-- Each placeholder of a block takes the element of its value that stands at its place. -/
theorem zip_flattened (nonempty : .list [] ∉ values.take marks.length) (moved : Nat) :
    (blocks moved marks values).flatten.zip (flattened marks.length values) =
      ((blocks moved marks values).zip values).flatMap fun (block, v) => block.zip (elements v) := by
  induction marks generalizing moved values with
  | nil => rfl
  | cons mark rest ih =>
      cases values with
      | nil => rw [flattened_nil, List.zip_nil_right, List.zip_nil_right, List.flatMap_nil]
      | cons v values =>
          obtain ⟨here, later⟩ := not_or.mp (mt List.mem_cons.mpr nonempty)
          have length : (rowMarks (mark + moved) (elements v).length).length =
              (elements v).length := by simp [rowMarks]
          rw [blocks, List.flatten_cons, List.length_cons, flattened_cons, List.zip_append length,
            ih later, List.zip_cons_cons, List.flatMap_cons]

theorem any_isList_flattened (all : values.length ≤ marks.length) (unnested : Unnested values) :
    (flattened marks.length values).any isList = false := by
  rw [flattened, List.take_of_length_le all, List.drop_of_length_le all, List.append_nil,
    List.any_eq_false]
  intro item member
  obtain ⟨v, inside, element⟩ := List.mem_flatMap.mp member
  cases v with
  | list items => simp [unnested _ inside items rfl item element]
  | _ =>
      obtain rfl := List.mem_singleton.mp element
      simp [isList]

end Blocks

/-- What has become of a text and its values when its lists are expanded. -/
structure InBlocks (sql : String) (values : List Value) (expanded : Expanded) : Prop where
  /-- Only placeholders that have a value are written anew. -/
  text : expanded.sql.toList =
    replacedAt 0 ((placeholderMarks sql).zip (values.map pieceOf)) sql.toList
  taken : expanded.values = flattened (placeholderMarks sql).length values
  places : placeholderMarks expanded.sql = (blocks 0 (placeholderMarks sql) values).flatten
  bound : (placeholderMarks expanded.sql).zip expanded.values =
    ((blocks 0 (placeholderMarks sql) values).zip values).flatMap fun (block, v) =>
      block.zip (elements v)

theorem exists_inBlocks {sql : String} {values : List Value} (lists : values.any isList = true)
    (nonempty : .list [] ∉ values.take (placeholderMarks sql).length) :
    ∃ expanded, expandLists sql values = .ok expanded ∧ InBlocks sql values expanded := by
  have written := textOf_spreadSegments 0 values (segments sql.toList)
  have split := segments_spread values sql.toList
  have expands : expandLists sql values =
      .ok ⟨String.ofList (textOf (spreadSegments values (segments sql.toList))),
        flattened (placeholderMarks sql).length values⟩ := by
    rw [expandLists, lists]
    exact bind_eq_ok.mpr ⟨_, expandSegments_ok nonempty, rfl⟩
  rw [textOf_segments] at written
  -- The new text is split once more: into the segments that were written.
  generalize textOf (spreadSegments values (segments sql.toList)) = chars at written split expands
  have places : placeholderMarks (String.ofList chars) =
      (blocks 0 (placeholderMarks sql) values).flatten := by
    rw [placeholderMarks, String.toList_ofList, split]
    exact codeMarks_spreadSegments nonempty 0
  refine ⟨_, expands, String.toList_ofList.trans written, rfl, places, ?_⟩
  rw [places]
  exact zip_flattened nonempty 0

theorem expandLists_error {sql : String} {values : List Value}
    (empty : .list [] ∈ values.take (placeholderMarks sql).length) :
    expandLists sql values = .error emptyList := by
  have lists : values.any isList = true :=
    List.any_eq_true.mpr ⟨_, List.mem_of_mem_take empty, rfl⟩
  rw [expandLists, lists]
  simp only [Bool.not_true, Bool.false_eq_true, if_false, expandSegments_error empty]
  rfl

end Expanded

open Expanded

/-- Expansion fails exactly if a placeholder is bound to an empty list, and otherwise keeps
placeholders and values aligned. Once every value had a placeholder, there is nothing left to
expand. -/
theorem expandLists_aligned (sql : String) (values : List Value)
    (lists : values.any isList = true) :
    (.list [] ∈ values.take (placeholderMarks sql).length →
      expandLists sql values = .error emptyList) ∧
    (.list [] ∉ values.take (placeholderMarks sql).length →
      ∃ expanded, expandLists sql values = .ok expanded ∧ InBlocks sql values expanded ∧
        (values.length ≤ (placeholderMarks sql).length → Unnested values →
          expandLists expanded.sql expanded.values = .ok expanded)) := by
  refine ⟨expandLists_error, fun nonempty => ?_⟩
  obtain ⟨expanded, expands, inBlocks⟩ := exists_inBlocks lists nonempty
  refine ⟨expanded, expands, inBlocks, fun all unnested => ?_⟩
  have single : expanded.values.any isList = false := by
    rw [inBlocks.taken]
    exact any_isList_flattened all unnested
  rw [expandLists, single]
  rfl

/-- Of the question marks in a comment, in a string and in code only the last two are placeholders;
the second of them becomes two. -/
theorem expandLists_aligned_members :
    ∃ expanded,
      expandLists "/* ? */ SELECT '?' FROM t WHERE x = ? AND id IN (?)" fiveAndList = .ok expanded ∧
      InBlocks "/* ? */ SELECT '?' FROM t WHERE x = ? AND id IN (?)" fiveAndList expanded ∧
      placeholderMarks "/* ? */ SELECT '?' FROM t WHERE x = ? AND id IN (?)" = [36, 49] ∧
      blocks 0 [36, 49] fiveAndList = [[36], [49, 52]] ∧
      expandLists expanded.sql expanded.values = .ok expanded := by
  have marks : placeholderMarks "/* ? */ SELECT '?' FROM t WHERE x = ? AND id IN (?)" = [36, 49] := by
    decide +kernel
  have unnested : Unnested fiveAndList := by
    simp [Unnested, fiveAndList, isList]
  have nonempty : .list [] ∉ fiveAndList.take 2 := by simp [fiveAndList]
  have aligned := (expandLists_aligned
    "/* ? */ SELECT '?' FROM t WHERE x = ? AND id IN (?)" fiveAndList rfl).2
  rw [marks] at aligned
  obtain ⟨expanded, expands, inBlocks, again⟩ := aligned nonempty
  exact ⟨expanded, expands, inBlocks, marks, rfl, again (Nat.le_refl 2) unnested⟩

/-! ## The placeholders that the parser numbers -/

/-- The parser numbers the placeholders at some places from 0, in the order of the places: a number
in parentheses at each place stands for the placeholder with the ordinal. -/
structure Numbered (sql : String) (parsed : Statement) (places : List Nat) : Prop where
  ordinals : parsed.ordinals.Perm (List.range places.length)
  filled : ∀ numbers : List Int64, numbers.length = places.length →
    (∀ number ∈ numbers, number ≠ Int64.minValue) →
      ∃ parsed', Statement.parse (String.ofList
          (replacedAt 0 (places.zip (numbers.map numberText)) sql.toList)) = .ok parsed' ∧
        parsed'.filled [] = parsed.filled numbers

theorem writtenChars_eq_replacedAt {chars : List Char} (clear : Clear (lexemes chars))
    (offset : Nat) (pieces : List (List Char)) :
    writtenChars pieces chars =
      replacedAt offset (((placed offset (lexemes chars)).filterMap markStart?).zip pieces)
        chars := by
  induction chars using lexed_induction generalizing offset pieces with
  | nil => rw [writtenChars_nil, replacedAt]
  | cons lexeme c w tail lexed ih =>
      obtain ⟨fine, clear_later⟩ := clear.of_cons
      have later : ∀ edit ∈ ((placed (offset + byteLength (c :: w)) (lexemes tail)).filterMap
          markStart?).zip pieces, offset + byteLength (c :: w) ≤ edit.1 := by
        intro edit member
        obtain ⟨piece, inside, start⟩ := List.mem_filterMap.mp (List.of_mem_zip member).1
        rw [start_of_markStart start]
        exact start_of_mem_placed inside
      rw [filterMap_placed_cons]
      -- Without a piece left a question mark stays, and there is no edit for it either.
      by_cases marked : lexeme = .token (.symbol .question) ∧ pieces ≠ []
      · obtain ⟨rfl, some_piece⟩ := marked
        obtain ⟨piece, pieces, rfl⟩ := List.exists_cons_of_ne_nil some_piece
        rw [writtenChars_mark lexed, ih clear_later (offset + byteLength (c :: w)) pieces]
        obtain ⟨rfl, rfl⟩ := List.cons.inj (covered_of_question lexed rfl)
        exact (replacedAt_here piece '?' tail).symm
      · have stays (same : lexeme = .token (.symbol .question)) : pieces = [] :=
          not_not.mp fun more => marked ⟨same, more⟩
        rw [writtenChars_stays lexed fine stays, ih clear_later (offset + byteLength (c :: w)) pieces,
          ← replacedAt_append later]
        by_cases question : lexeme = .token (.symbol .question)
        · rw [stays question, List.zip_nil_right, List.zip_nil_right]
        · rw [markStart?_of_ne question, Option.toList_none, List.nil_append]

theorem numbered_of_parse {sql : String} {parsed : Statement}
    (read : Statement.parse sql = .ok parsed) : Numbered sql parsed (questionStarts sql) := by
  have count := length_questionStarts sql
  refine ⟨?_, fun numbers length regular => ?_⟩
  · rw [count]
    exact (Filling.freeMarks_of_parse read).2
  · have clear := clear_iff.mpr (error_not_mem_tokenKinds read)
    have written := writtenChars_eq_replacedAt clear 0 (numbers.map numberText)
    rw [← questionStarts_eq] at written
    rw [← written, ← Filling.filledChars_eq_writtenChars]
    exact Filling.parse_filledText read (count.symm.trans length.symm) regular

/-- In a statement whose names open no literal and no comment, expansion takes those question marks
for placeholders that the parser numbers, exactly if no name is written with one. Then the value of
the placeholder with an ordinal is written at its place. -/
theorem placeholderMarks_of_parse {sql : String} {parsed : Statement}
    (read : Statement.parse sql = .ok parsed) (plain : PlainNames (lexemes sql.toList)) :
    Numbered sql parsed (questionStarts sql) ∧
    (placeholderMarks sql = questionStarts sql ↔
      ∀ piece ∈ lexemes sql.toList, isName piece.1 = true → '?' ∉ piece.2) ∧
    ((∀ piece ∈ lexemes sql.toList, isName piece.1 = true → '?' ∉ piece.2) →
      ∀ values : List Value, values.any isList = true →
        .list [] ∉ values.take (questionStarts sql).length →
          ∃ expanded, expandLists sql values = .ok expanded ∧
            expanded.sql.toList =
              replacedAt 0 ((questionStarts sql).zip (values.map pieceOf)) sql.toList ∧
            expanded.values = flattened (questionStarts sql).length values) := by
  have exact_iff := placeholderMarks_eq_iff (clear_iff.mpr (error_not_mem_tokenKinds read)) plain
  refine ⟨numbered_of_parse read, exact_iff, fun quiet values lists nonempty => ?_⟩
  rw [← exact_iff.mpr quiet] at nonempty ⊢
  obtain ⟨expanded, expands, inBlocks⟩ := exists_inBlocks lists nonempty
  exact ⟨expanded, expands, inBlocks.text, inBlocks.taken⟩

/-- Question marks in a hint, a blob, a string and a comment are no placeholders for either. -/
theorem placeholderMarks_of_parse_mixed :
    ∃ parsed,
      Statement.parse
        "SELECT `id` /*+ ? */ FROM t WHERE b = x'3F' AND s = '?' AND id IN (?, ?) -- ?" =
          .ok parsed ∧
      parsed.ordinals.Perm [0, 1] ∧
      placeholderMarks
        "SELECT `id` /*+ ? */ FROM t WHERE b = x'3F' AND s = '?' AND id IN (?, ?) -- ?" =
          [67, 70] := by
  have starts : questionStarts
      "SELECT `id` /*+ ? */ FROM t WHERE b = x'3F' AND s = '?' AND id IN (?, ?) -- ?" =
        [67, 70] := by
    decide +kernel
  obtain ⟨parsed, read⟩ := exists_ok_of_isOk (show (Statement.parse
    "SELECT `id` /*+ ? */ FROM t WHERE b = x'3F' AND s = '?' AND id IN (?, ?) -- ?").isOk = true by
      decide +kernel)
  have plain : PlainNames (lexemes
      "SELECT `id` /*+ ? */ FROM t WHERE b = x'3F' AND s = '?' AND id IN (?, ?) -- ?".toList) := by
    decide +kernel
  obtain ⟨numbered, same, _⟩ := placeholderMarks_of_parse read plain
  have ordinals := numbered.ordinals
  rw [starts] at same ordinals
  exact ⟨parsed, read, ordinals, same.mpr (by decide +kernel)⟩

/-- A list is written into the name, and the placeholder that it is bound to stays. -/
theorem placeholderMarks_in_name :
    ∃ parsed,
      Statement.parse "SELECT `a?` FROM t WHERE x IN (?)" = .ok parsed ∧
      placeholderMarks "SELECT `a?` FROM t WHERE x IN (?)" = [9, 31] ∧
      questionStarts "SELECT `a?` FROM t WHERE x IN (?)" = [31] ∧
      expandLists "SELECT `a?` FROM t WHERE x IN (?)"
          [.list [.integer (.ofInt64 1), .integer (.ofInt64 2)]] =
        .ok ⟨"SELECT `a?, ?` FROM t WHERE x IN (?)",
          [.integer (.ofInt64 1), .integer (.ofInt64 2)]⟩ := by
  obtain ⟨parsed, read⟩ := exists_ok_of_isOk
    (show (Statement.parse "SELECT `a?` FROM t WHERE x IN (?)").isOk = true by decide +kernel)
  refine ⟨parsed, read, by decide +kernel, by decide +kernel, ?_⟩
  with_unfolding_all rfl

end ShardedSql
