import Mathlib.Data.List.Forall2
import ShardedSql.Proofs.LexedSegments

/-!
Texts that are changed inside their segments. `Splits` says of a list of segments that its text is
split into just these; `Patched`, that a text is another one with words and question marks changed
for others. Main statement: where the code and the hints of a text are patched, the new text is
split where the old one was.
-/

namespace ShardedSql.Segment

open Text Sql

/-! ## What a segment other than code is -/

/-- The segment is cut off at its end when it stands before `tail`. -/
inductive Cuts (tail : List Char) : Segment → Prop where
  | literal {w : List Char} (length : literalLength (w ++ tail) = w.length) :
      Cuts tail ⟨.literal, '\'' :: w⟩
  | line {line : List Char} (inside : ∀ c ∈ line, c ≠ '\n')
      (stop : tail = [] ∨ tail.head? = some '\n') : Cuts tail ⟨.comment, '-' :: '-' :: line⟩
  | block {inside : List Char} (unclosed : Unclosed inside) :
      Cuts tail ⟨commentKind ('/' :: '*' :: (inside ++ ['*', '/'])),
        '/' :: '*' :: (inside ++ ['*', '/'])⟩
  /-- A block that is never closed. -/
  | unclosed {body : List Char} (unclosed : Unclosed body) (last : tail = []) :
      Cuts tail ⟨commentKind ('/' :: '*' :: body), '/' :: '*' :: body⟩

theorem literalLength_le (chars : List Char) : literalLength chars ≤ chars.length := by
  fun_induction literalLength chars with grind

theorem cutAtPair_eq_none_iff {chars : List Char} :
    cutAtPair '*' '/' chars = none ↔ Unclosed chars := by
  induction chars with
  | nil => simp [cutAtPair, Unclosed]
  | cons c rest ih =>
      cases rest with
      | nil => simp [cutAtPair, Unclosed]
      | cons d rest =>
          rw [cutAtPair, Unclosed, ← ih]
          by_cases closes : c = '*' ∧ d = '/' <;> simp [closes]

theorem opened?_commentKind (body : List Char) :
    opened? '/' ('*' :: body) =
      some (commentKind ('/' :: '*' :: body), blockLength body + 1) := by
  rw [opened?_slash, commentKind_slash]

theorem commentKind_append (body tail : List Char) (nonempty : body ≠ []) :
    commentKind ('/' :: '*' :: (body ++ tail)) = commentKind ('/' :: '*' :: body) := by
  cases body with
  | nil => exact absurd rfl nonempty
  | cons c body => simp [commentKind]

section Cutting

variable {c : Char} {w tail : List Char} {kind : SegmentKind}

theorem opened?_of_cuts (cuts : Cuts tail ⟨kind, c :: w⟩) :
    opened? c (w ++ tail) = some (kind, w.length) := by
  cases cuts with
  | literal length => rw [opened?, length]
  | line inside stop => exact opened?_line inside stop
  | @block inside unclosed =>
      have closes : cutAtPair '*' '/' (inside ++ '*' :: '/' :: tail) = some (inside, tail) :=
        cutAtPair_iff.mpr unclosed
      have whole : inside ++ ['*', '/'] ++ tail = inside ++ '*' :: '/' :: tail := by simp
      rw [List.cons_append, opened?_commentKind, commentKind_append _ _ (by simp), whole, blockLength,
        closes]
      simp
  | unclosed unclosed last =>
      rw [last, List.append_nil, opened?_commentKind, blockLength, cutAtPair_eq_none_iff.mpr unclosed]
      rfl

/-- A block is cut off where it is closed, or ends with the text. -/
theorem cuts_block (body : List Char) :
    blockLength body + 1 ≤ ('*' :: body).length ∧
      Cuts (('*' :: body).drop (blockLength body + 1))
        ⟨commentKind ('/' :: '*' :: body), '/' :: ('*' :: body).take (blockLength body + 1)⟩ := by
  unfold blockLength
  cases closes : cutAtPair '*' '/' body with
  | none =>
      have last : ('*' :: body).drop (body.length + 1) = [] := by simp
      refine ⟨by simp, ?_⟩
      rw [last, List.take_of_length_le (by simp)]
      exact .unclosed (cutAtPair_eq_none_iff.mp closes) rfl
  | some parts =>
      obtain ⟨inside, after⟩ := parts
      obtain rfl := cutAtPair_eq closes
      have whole : '*' :: (inside ++ '*' :: '/' :: after) =
          '*' :: (inside ++ ['*', '/']) ++ after := by simp
      have length : inside.length + 2 + 1 = ('*' :: (inside ++ ['*', '/'])).length := by simp
      have kinds : commentKind ('/' :: '*' :: (inside ++ '*' :: '/' :: after)) =
          commentKind ('/' :: '*' :: (inside ++ ['*', '/'])) := by
        cases inside <;> simp [commentKind]
      refine ⟨by simp, ?_⟩
      simp only [kinds]
      rw [whole, length, List.take_left, List.drop_left]
      exact .block (cutAtPair_iff.mp closes)

/-- A comment behind two dashes is cut off before the end of its line. -/
theorem cuts_line (line : List Char) :
    (line.takeWhile (· ≠ '\n')).length + 1 ≤ ('-' :: line).length ∧
      Cuts (('-' :: line).drop ((line.takeWhile (· ≠ '\n')).length + 1))
        ⟨.comment, '-' :: ('-' :: line).take ((line.takeWhile (· ≠ '\n')).length + 1)⟩ := by
  have inside : ∀ d ∈ line.takeWhile (· ≠ '\n'), d ≠ '\n' := fun d member => by
    simpa using List.mem_takeWhile_imp member
  have stop : line.dropWhile (· ≠ '\n') = [] ∨
      (line.dropWhile (· ≠ '\n')).head? = some '\n' := by
    cases behind : line.dropWhile (· ≠ '\n') with
    | nil => exact .inl rfl
    | cons d rest =>
        have head : (line.dropWhile (· ≠ '\n')).head? = some d := by rw [behind]; rfl
        have newline := head?_dropWhile_of_some head
        exact .inr (by simpa using newline)
  have whole : '-' :: line =
      '-' :: line.takeWhile (· ≠ '\n') ++ line.dropWhile (· ≠ '\n') := by
    rw [List.cons_append, List.takeWhile_append_dropWhile]
  have length : (line.takeWhile (· ≠ '\n')).length + 1 =
      ('-' :: line.takeWhile (· ≠ '\n')).length := rfl
  refine ⟨?_, ?_⟩
  · simpa using (List.takeWhile_sublist _).length_le
  · rw [length]
    conv => arg 1; rw [whole, List.drop_left]
    conv => arg 2; arg 2; rw [whole, List.take_left]
    exact .line inside stop

/-- Whatever opens is cut off at its end. -/
theorem cuts_of_opened {rest : List Char} {extra : Nat}
    (opened : opened? c rest = some (kind, extra)) :
    extra ≤ rest.length ∧ Cuts (rest.drop extra) ⟨kind, c :: rest.take extra⟩ := by
  by_cases slash : c = '/'
  · subst slash
    obtain ⟨body, rfl⟩ : ∃ body, rest = '*' :: body := by
      unfold opened? at opened
      split at opened <;> simp_all
    rw [opened?_commentKind, Option.some.injEq, Prod.mk.injEq] at opened
    obtain ⟨rfl, rfl⟩ := opened
    exact cuts_block body
  · unfold opened? at opened
    split at opened
    · cases opened
      have le := literalLength_le rest
      refine ⟨le, .literal ?_⟩
      rw [List.take_append_drop, List.length_take, Nat.min_eq_left le]
    · next line =>
        cases opened
        exact cuts_line line
    · exact absurd rfl slash
    · exact absurd rfl slash
    · cases opened

end Cutting

/-! ## Lists of segments -/

def textOf (all : List Segment) : List Char :=
  all.flatMap (·.text)

@[simp]
theorem textOf_cons (segment : Segment) (all : List Segment) :
    textOf (segment :: all) = segment.text ++ textOf all :=
  rfl

/-- Each segment is cut off at its end, and no code follows code. -/
inductive Splits : List Segment → Prop where
  | nil : Splits []
  | code {run : List Char} {rest : List Segment} (nonempty : run ≠ [])
      (unopened : Unopened (textOf rest) run)
      (apart : ∀ next, rest.head? = some next → next.kind ≠ .code) (later : Splits rest) :
      Splits (⟨.code, run⟩ :: rest)
  | other {segment : Segment} {rest : List Segment} (cuts : Cuts (textOf rest) segment)
      (later : Splits rest) : Splits (segment :: rest)

theorem Cuts.kind_ne_code {tail : List Char} {segment : Segment} (cuts : Cuts tail segment) :
    segment.kind ≠ .code := by
  cases cuts with
  | literal => simp
  | line => simp
  | block => exact commentKind_ne_code _
  | unclosed => exact commentKind_ne_code _

theorem textOf_segments (chars : List Char) : textOf (segments chars) = chars := by
  rw [textOf, List.flatMap_def, flatten_segments]

theorem Splits.addCode {c : Char} {rest : List Char} (opened : opened? c rest = none)
    (splits : Splits (segments rest)) : Splits (addCode c (segments rest)) := by
  have whole := textOf_segments rest
  have alone (apart : ∀ next, (segments rest).head? = some next → next.kind ≠ .code) :
      Splits (⟨.code, [c]⟩ :: segments rest) :=
    .code (List.cons_ne_nil _ _) ⟨by rwa [whole], trivial⟩ apart splits
  generalize segments rest = all at whole splits alone
  cases splits with
  | nil => exact alone (by simp)
  | code nonempty unopened apart later =>
      refine .code (List.cons_ne_nil _ _) ⟨?_, unopened⟩ apart later
      rwa [← whole] at opened
  | @other segment rest' cuts later =>
      have other := cuts.kind_ne_code
      obtain ⟨kind, text⟩ := segment
      cases kind with
      | code => exact absurd rfl other
      | _ =>
          refine alone fun next head => ?_
          cases head
          exact other

theorem splits_segments (chars : List Char) : Splits (segments chars) := by
  induction chars using segments.induct with
  | case1 => rw [segments]; exact .nil
  | case2 c rest kind extra opened ih =>
      rw [segments, opened]
      refine .other ?_ ih
      rw [textOf_segments]
      exact (cuts_of_opened opened).2
  | case3 c rest opened ih =>
      rw [segments, opened]
      exact ih.addCode opened

/-- Segments that are cut off at their ends are those of their text. -/
theorem Splits.segments_eq {all : List Segment} (splits : Splits all) :
    segments (textOf all) = all := by
  induction splits with
  | nil => rw [textOf, List.flatMap_nil, segments]
  | @code run rest nonempty unopened apart later ih =>
      rw [textOf_cons, segments_of_unopened nonempty unopened, ih]
      rcases rest with _ | ⟨⟨kind, text⟩, rest⟩
      · rfl
      · cases kind with
        | code => exact absurd rfl (apart _ rfl)
        | _ => rfl
  | @other segment rest cuts later ih =>
      obtain ⟨kind, text⟩ := segment
      obtain ⟨c, w, rfl⟩ : ∃ c w, text = c :: w := by cases cuts <;> exact ⟨_, _, rfl⟩
      rw [textOf_cons, segments_of_opened (opened?_of_cuts cuts), ih]

/-! ## Patches -/

/-- The characters by which segments begin and end. -/
def edgeChars : List Char :=
  ['\'', '-', '/', '*', '+', '\n']

/-- The same characters, but for runs without an edge that stand for others. -/
inductive Patched : List Char → List Char → Prop where
  | nil : Patched [] []
  | char {chars chars' : List Char} (c : Char) (later : Patched chars chars') :
      Patched (c :: chars) (c :: chars')
  | patch {w w' chars chars' : List Char} (nonempty : w ≠ []) (inside : ∀ c ∈ w, c ∉ edgeChars)
      (nonempty' : w' ≠ []) (inside' : ∀ c ∈ w', c ∉ edgeChars) (later : Patched chars chars') :
      Patched (w ++ chars) (w' ++ chars')

namespace Patched

variable {chars chars' : List Char}

theorem refl (chars : List Char) : Patched chars chars := by
  induction chars with
  | nil => exact .nil
  | cons c rest ih => exact .char c ih

theorem append {run run' : List Char} (front : Patched run run') (patched : Patched chars chars') :
    Patched (run ++ chars) (run' ++ chars') := by
  induction front with
  | nil => exact patched
  | char c _ ih => exact .char c ih
  | patch nonempty inside nonempty' inside' _ ih =>
      rw [List.append_assoc, List.append_assoc]
      exact .patch nonempty inside nonempty' inside' ih

theorem eq_nil_iff (patched : Patched chars chars') : chars' = [] ↔ chars = [] := by
  cases patched <;> simp_all

/-- Edges stand first in both texts or in none. -/
theorem head_iff (patched : Patched chars chars') {d : Char} (edge : d ∈ edgeChars) :
    chars'.head? = some d ↔ chars.head? = some d := by
  cases patched with
  | nil => rfl
  | char c later => rfl
  | @patch w w' _ _ nonempty inside nonempty' inside' later =>
      obtain ⟨c, w, rfl⟩ := List.exists_cons_of_ne_nil nonempty
      obtain ⟨c', w', rfl⟩ := List.exists_cons_of_ne_nil nonempty'
      have other : c ≠ d := fun same => inside c (List.mem_cons_self ..) (same ▸ edge)
      have other' : c' ≠ d := fun same => inside' c' (List.mem_cons_self ..) (same ▸ edge)
      simp [other, other']

/-- An edge is not patched. -/
theorem cons_edge {c : Char} (edge : c ∈ edgeChars) (patched : Patched (c :: chars) chars') :
    ∃ rest, chars' = c :: rest ∧ Patched chars rest := by
  generalize whole : c :: chars = front at patched
  cases patched with
  | nil => cases whole
  | char d later =>
      cases whole
      exact ⟨_, rfl, later⟩
  | @patch w _ _ _ nonempty inside _ _ _ =>
      obtain ⟨d, w, rfl⟩ := List.exists_cons_of_ne_nil nonempty
      cases whole
      exact absurd edge (inside c (List.mem_cons_self ..))

theorem split_edge {c : Char} (edge : c ∈ edgeChars) {run : List Char}
    (patched : Patched (run ++ c :: chars) chars') :
    ∃ run' rest, chars' = run' ++ c :: rest ∧ Patched run run' ∧ Patched chars rest := by
  generalize whole : run ++ c :: chars = front at patched
  induction patched generalizing run with
  | nil => simp at whole
  | @char front front' d later ih =>
      cases run with
      | nil =>
          cases whole
          exact ⟨[], _, rfl, .nil, later⟩
      | cons e run =>
          cases whole
          obtain ⟨run', rest, rfl, before, behind⟩ := ih rfl
          exact ⟨d :: run', rest, rfl, .char d before, behind⟩
  | @patch w w' front front' nonempty inside nonempty' inside' later ih =>
      -- The edge stands behind the run that is patched.
      obtain ⟨more, rfl, parted⟩ | ⟨more, rfl, parted⟩ := List.append_eq_append_iff.mp whole
      · cases more with
        | nil =>
            obtain ⟨run', rest, rfl, before, behind⟩ := ih (show [] ++ c :: chars = front from parted)
            obtain rfl := before.eq_nil_iff.mpr rfl
            simp only [List.append_nil] at nonempty inside
            have front := Patched.patch nonempty inside nonempty' inside' .nil
            exact ⟨w', rest, rfl, by simpa using front, behind⟩
        | cons e more =>
            obtain ⟨rfl, -⟩ := List.cons.inj parted
            exact absurd edge (inside c (by simp))
      · obtain ⟨run', rest, rfl, before, behind⟩ := ih parted.symm
        exact ⟨w' ++ run', rest, by simp, .patch nonempty inside nonempty' inside' before, behind⟩

/-- Nothing opens in patched code where nothing opened before. -/
theorem unopened {run run' tail tail' : List Char} (patched : Patched run run')
    (behind : Patched tail tail') (unopened : Unopened tail run) : Unopened tail' run' := by
  induction patched with
  | nil => trivial
  | @char chars chars' c later ih =>
      refine ⟨?_, ih unopened.2⟩
      have same {d : Char} (edge : d ∈ edgeChars) := (later.append behind).head_iff edge
      have here := unopened.1
      rw [opened?_eq_none_iff] at here ⊢
      rwa [same (by decide), same (by decide)]
  | @patch w w' chars chars' nonempty inside nonempty' inside' later ih =>
      refine unopened_append.mpr ⟨unopened_of_forall fun c member => ?_, ih ?_⟩
      · have plain := inside' c member
        refine ⟨?_, ?_, ?_⟩ <;> rintro rfl <;> exact plain (by decide)
      · exact (unopened_append.mp unopened).2

/-- Nothing closes a patched comment that did not before. -/
theorem unclosed (patched : Patched chars chars') (unclosed : Unclosed chars) :
    Unclosed chars' := by
  induction patched with
  | nil => trivial
  | @char chars chars' c later ih =>
      refine ⟨fun closes => unclosed.1 ⟨closes.1, ?_⟩, ih unclosed.2⟩
      exact (later.head_iff (by decide)).mp closes.2
  | @patch w w' chars chars' nonempty inside nonempty' inside' later ih =>
      have no_star {v : List Char} (inside : ∀ c ∈ v, c ∉ edgeChars) : ∀ c ∈ v, c ≠ '*' := by
        rintro c member rfl
        exact inside _ member (by decide)
      exact (unclosed_append (no_star inside')).mpr
        (ih ((unclosed_append (no_star inside)).mp unclosed))

end Patched

/-! ## Patched segments -/

/-- A segment of the same kind whose code or hint is patched. -/
inductive PatchedSegment : Segment → Segment → Prop where
  | same (segment : Segment) : PatchedSegment segment segment
  | code {run run' : List Char} (patched : Patched run run') :
      PatchedSegment ⟨.code, run⟩ ⟨.code, run'⟩
  | hint {text text' : List Char} (patched : Patched text text') :
      PatchedSegment ⟨.hint, text⟩ ⟨.hint, text'⟩

theorem PatchedSegment.kind_eq {segment segment' : Segment}
    (patched : PatchedSegment segment segment') : segment'.kind = segment.kind := by
  cases patched <;> rfl

theorem PatchedSegment.text {segment segment' : Segment}
    (patched : PatchedSegment segment segment') : Patched segment.text segment'.text := by
  cases patched with
  | same => exact .refl _
  | code patched => exact patched
  | hint patched => exact patched

theorem patched_textOf {all all' : List Segment} (patched : List.Forall₂ PatchedSegment all all') :
    Patched (textOf all) (textOf all') := by
  induction patched with
  | nil => exact .nil
  | cons here _ ih => exact here.text.append ih

theorem literalLength_pos (c : Char) (rest : List Char) : 0 < literalLength (c :: rest) := by
  unfold literalLength
  split <;> grind

/-- A literal ends where it did when another text stands behind it, unless a quote is added. -/
theorem literalLength_congr {w tail tail' : List Char}
    (length : literalLength (w ++ tail) = w.length) (nothing : tail' = [] ↔ tail = [])
    (quote : tail'.head? = some '\'' ↔ tail.head? = some '\'') :
    literalLength (w ++ tail') = w.length := by
  -- Two characters at a time, as the end of a literal is looked for.
  match w with
  | [] =>
      cases tail with
      | nil => rw [nothing.mpr rfl]; rfl
      | cons d tail => exact absurd length (Nat.ne_of_gt (literalLength_pos d tail))
  | [c] =>
      cases tail with
      | nil => rw [nothing.mpr rfl]; rfl
      | cons d tail =>
          obtain ⟨d', tail', rfl⟩ := List.exists_cons_of_ne_nil (mt nothing.mp (List.cons_ne_nil _ _))
          have positive := literalLength_pos d tail
          simp only [List.cons_append, List.nil_append, literalLength, List.length_singleton] at *
          grind
  | c :: d :: w =>
      simp only [List.cons_append, literalLength, List.length_cons] at length ⊢
      have shorter := @literalLength_congr w tail tail'
      have next := @literalLength_congr (d :: w) tail tail'
      grind
termination_by w.length

theorem commentKind_patched {body body' : List Char} (patched : Patched body body') :
    commentKind ('/' :: '*' :: body') = commentKind ('/' :: '*' :: body) := by
  have kind (body : List Char) : commentKind ('/' :: '*' :: body) =
      if body.head? = some '+' then .hint else .comment := by
    cases body <;> simp [commentKind]
  simp only [kind, patched.head_iff (d := '+') (by decide)]

/-- The text of a hint is a block, patched behind its opening mark. -/
theorem Cuts.patched {tail tail' : List Char} {segment segment' : Segment}
    (cuts : Cuts tail segment) (patched : PatchedSegment segment segment')
    (behind : Patched tail tail') : Cuts tail' segment' := by
  cases patched with
  | code => exact absurd rfl cuts.kind_ne_code
  | same =>
      cases cuts with
      | literal length =>
          exact .literal (literalLength_congr length behind.eq_nil_iff (behind.head_iff (by decide)))
      | line inside stop =>
          refine .line inside ?_
          rwa [behind.eq_nil_iff, behind.head_iff (by decide)]
      | block unclosed => exact .block unclosed
      | unclosed unclosed last => exact .unclosed unclosed (behind.eq_nil_iff.mpr last)
  | @hint text text' patched =>
      generalize whole : (⟨.hint, text⟩ : Segment) = segment at cuts
      cases cuts with
      | literal => cases whole
      | line => cases whole
      | @block inside unclosed =>
          obtain ⟨kind, rfl⟩ := Segment.mk.inj whole
          obtain ⟨_, rfl, opening⟩ := patched.cons_edge (by decide)
          obtain ⟨body, rfl, inner⟩ := opening.cons_edge (by decide)
          have same := commentKind_patched inner
          obtain ⟨inside', rest, rfl, front, last⟩ := inner.split_edge (by decide)
          obtain ⟨_, rfl, nothing⟩ := last.cons_edge (by decide)
          obtain rfl := nothing.eq_nil_iff.mpr rfl
          rw [kind, ← same]
          exact .block (front.unclosed unclosed)
      | unclosed unclosed last =>
          obtain ⟨kind, rfl⟩ := Segment.mk.inj whole
          obtain ⟨_, rfl, opening⟩ := patched.cons_edge (by decide)
          obtain ⟨body, rfl, inner⟩ := opening.cons_edge (by decide)
          rw [kind, ← commentKind_patched inner]
          exact .unclosed (inner.unclosed unclosed) (behind.eq_nil_iff.mpr last)

/-- Where code and hints are patched, a text is split where it was. -/
theorem Splits.patched {all all' : List Segment} (splits : Splits all)
    (patched : List.Forall₂ PatchedSegment all all') : Splits all' := by
  induction patched with
  | nil => exact .nil
  | @cons segment segment' rest rest' here later ih =>
      have behind := patched_textOf later
      cases splits with
      | other cuts splits => exact .other (cuts.patched here behind) (ih splits)
      | @code run _ nonempty unopened apart splits =>
          obtain ⟨run', rfl, changed⟩ : ∃ run', segment' = ⟨.code, run'⟩ ∧ Patched run run' := by
            cases here with
            | same => exact ⟨run, rfl, .refl run⟩
            | code changed => exact ⟨_, rfl, changed⟩
          refine .code (mt changed.eq_nil_iff.mp nonempty) (changed.unopened behind unopened) ?_
            (ih splits)
          intro next' head
          cases later with
          | nil => cases head
          | @cons next _ _ _ first =>
              cases head
              rw [first.kind_eq]
              exact apart next rfl

theorem segments_patched {chars : List Char} {all : List Segment}
    (patched : List.Forall₂ PatchedSegment (segments chars) all) :
    segments (textOf all) = all :=
  ((splits_segments chars).patched patched).segments_eq

end ShardedSql.Segment
