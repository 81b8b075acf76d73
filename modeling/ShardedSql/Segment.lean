import ShardedSql.Text.Words

/-!
A text in segments: code, string literals, comments and hints. Edits to the text of a statement stay
inside code and hints. Main statement: the segments, put together, are the text again.
-/

namespace ShardedSql

open Text

inductive SegmentKind where
  /-- Everything that is nothing else; quoted names are code. -/
  | code
  | literal
  | comment
  /-- A block comment that opens with a plus sign. -/
  | hint
deriving DecidableEq, Repr

structure Segment where
  kind : SegmentKind
  text : List Char
deriving DecidableEq

namespace Segment

/-- The number of characters after an opening quote up to and including the closing one. A doubled
quote and a character behind a backslash do not close; an open literal takes the rest. -/
def literalLength : List Char → Nat
  | [] => 0
  | [_] => 1
  | c :: d :: rest =>
      -- A backslash takes the character behind it, whatever it is.
      if c = '\\' then literalLength rest + 2
      else if c = '\'' then
        if d = '\'' then literalLength rest + 2 else 1
      else literalLength (d :: rest) + 1

/-- The length of a block comment behind its first two characters. -/
def blockLength (body : List Char) : Nat :=
  match cutAtPair '*' '/' body with
  | some (inside, _) => inside.length + 2
  | none => body.length

/-- The segment other than code that starts with `c`, with the number of characters after it. -/
def opened? (c : Char) (rest : List Char) : Option (SegmentKind × Nat) :=
  match c, rest with
  | '\'', _ => some (.literal, literalLength rest)
  | '-', '-' :: line => some (.comment, (line.takeWhile (· ≠ '\n')).length + 1)
  | '/', '*' :: '+' :: body => some (.hint, blockLength ('+' :: body) + 1)
  | '/', '*' :: body => some (.comment, blockLength body + 1)
  | _, _ => none

/-- One more character of code in front. -/
def addCode (c : Char) : List Segment → List Segment
  | ⟨.code, text⟩ :: rest => ⟨.code, c :: text⟩ :: rest
  | segments => ⟨.code, [c]⟩ :: segments

/-- The segments of a text. -/
def segments : List Char → List Segment
  | [] => []
  | c :: rest =>
      match opened? c rest with
      | some (kind, extra) => ⟨kind, c :: rest.take extra⟩ :: segments (rest.drop extra)
      | none => addCode c (segments rest)
termination_by chars => chars.length
decreasing_by
  all_goals
    simp only [List.length_drop, List.length_cons]
    omega

theorem flatten_addCode (c : Char) (segments : List Segment) :
    ((addCode c segments).map (·.text)).flatten = c :: (segments.map (·.text)).flatten := by
  unfold addCode
  split <;> simp

theorem flatten_segments (chars : List Char) :
    ((segments chars).map (·.text)).flatten = chars := by
  induction chars using segments.induct with
  | case1 => simp [segments]
  | case2 c rest kind extra opened ih =>
      rw [segments, opened]
      simp [ih]
  | case3 c rest opened ih =>
      rw [segments, opened]
      simp [flatten_addCode, ih]

end Segment

end ShardedSql
