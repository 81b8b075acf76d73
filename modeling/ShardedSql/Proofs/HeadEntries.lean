import Mathlib.Data.List.Infix
import ShardedSql.Proofs.WrittenHead

/-!
Head comments that are written down and read again. An entry is written `key:value`, and a comma and
a blank stand between entries. Main statement: before any statement, the comment of entries whose
words hold no mark of their own is split off with exactly these entries, and the statement stays,
trimmed; a text that opens with no comment but a hint is all statement.
-/

namespace ShardedSql

open Sql Text

namespace Text

variable {separator : Char} {piece rest : List Char}

theorem splitAt_of_not_mem (absent : separator ∉ piece) : splitAt separator piece = [piece] := by
  induction piece with
  | nil => rfl
  | cons c piece ih =>
      obtain ⟨other, absent⟩ := not_or.mp (List.mem_cons.not.mp absent)
      rw [splitAt, if_neg (Ne.symm other), ih absent]

theorem splitAt_append (absent : separator ∉ piece) :
    splitAt separator (piece ++ separator :: rest) = piece :: splitAt separator rest := by
  induction piece with
  | nil => simp [splitAt]
  | cons c piece ih =>
      obtain ⟨other, absent⟩ := not_or.mp (List.mem_cons.not.mp absent)
      rw [List.cons_append, splitAt, if_neg (Ne.symm other), ih absent]

theorem not_mem_of_blanks {blanks : List Char} (blank : ∀ c ∈ blanks, isBlank c = true)
    {mark : Char} (bare : isBlank mark = false) : mark ∉ blanks := by
  intro member
  rw [blank mark member] at bare
  cases bare

end Text

theorem unpadded_of_trim {chars : List Char} (same : trim chars = chars) : Unpadded chars := by
  obtain ⟨_, _, _, _, _, bare⟩ := exists_padding chars
  rwa [same] at bare

/-- Trimming reaches only what stands behind a text that neither starts nor ends with a blank. -/
theorem trim_append {front : List Char} (bare : Unpadded front) (some_front : front ≠ [])
    (chars : List Char) :
    ∃ after, trim (front ++ chars) = front ++ after ∧ trim after = trim chars := by
  have no_lead : ∀ c ∈ ([] : List Char), isBlank c = true := nofun
  obtain ⟨lead, trail, whole, leading, trailing, inner_bare⟩ := exists_padding chars
  generalize trim chars = inner at whole inner_bare ⊢
  subst whole
  by_cases blank : inner = []
  · subst blank
    have behind : ∀ c ∈ lead ++ trail, isBlank c = true := fun c member =>
      (List.mem_append.mp member).elim (leading c) (trailing c)
    exact ⟨[], by simpa using trim_padded no_lead behind bare, rfl⟩
  · have kept : Unpadded (front ++ (lead ++ inner)) := by
      constructor
      · rw [List.head?_append_of_ne_nil _ some_front]
        exact bare.first
      · rw [← List.append_assoc, List.getLast?_append_of_ne_nil _ blank]
        exact inner_bare.last
    refine ⟨lead ++ inner, ?_, ?_⟩
    · simpa using trim_padded no_lead trailing kept
    · simpa using trim_padded leading no_lead inner_bare

namespace HeadComment

/-! ## Entries as text -/

/-- A word that can stand in an entry as it is. -/
structure Writable (word : String) : Prop where
  nonempty : word ≠ ""
  trimmed : trimmed word = word
  comma : ',' ∉ word.toList
  colon : ':' ∉ word.toList
  closer : ¬ ['*', '/'] <:+: word.toList

instance (word : String) : Decidable (Writable word) :=
  decidable_of_iff (word ≠ "" ∧ Text.trimmed word = word ∧ ',' ∉ word.toList ∧ ':' ∉ word.toList ∧
      ¬ ['*', '/'] <:+: word.toList)
    ⟨fun ⟨nonempty, trimmed, comma, colon, closer⟩ => ⟨nonempty, trimmed, comma, colon, closer⟩,
      fun word => ⟨word.nonempty, word.trimmed, word.comma, word.colon, word.closer⟩⟩

/-- Both words of an entry can stand in it. -/
def WritableEntry (entry : String × String) : Prop :=
  Writable entry.1 ∧ Writable entry.2

instance (entry : String × String) : Decidable (WritableEntry entry) :=
  inferInstanceAs (Decidable (_ ∧ _))

def entryText (entry : String × String) : String :=
  entry.1 ++ ":" ++ entry.2

/-- The comment that says these entries. -/
def written (entries : List (String × String)) : String :=
  "/* " ++ joined ", " (entries.map entryText) ++ " */"

/-- What stands between the first blank and the mark that closes the comment. -/
def listed (entries : List (String × String)) : List Char :=
  [',', ' '].intercalate (entries.map fun entry => (entryText entry).toList) ++ [' ']

theorem toList_entryText (entry : String × String) :
    (entryText entry).toList = entry.1.toList ++ ':' :: entry.2.toList := by
  simp [entryText]

theorem toList_written (entries : List (String × String)) :
    (written entries).toList = '/' :: '*' :: (' ' :: listed entries ++ ['*', '/']) := by
  simp [written, joined, String.toList_intercalate, listed, Function.comp_def]

theorem listed_cons_cons (first second : String × String) (others : List (String × String)) :
    listed (first :: second :: others) =
      (entryText first).toList ++ ',' :: ' ' :: listed (second :: others) := by
  simp [listed, List.intercalate_cons_cons]

theorem listed_singleton (entry : String × String) :
    listed [entry] = (entryText entry).toList ++ [' '] := by
  simp [listed]

/-! ## Reading entries -/

section Reading

variable {entry : String × String} {lead trail : List Char}

theorem Writable.unpadded {word : String} (writable : Writable word) : Unpadded word.toList :=
  unpadded_of_trim (by simpa [Text.trimmed] using congrArg String.toList writable.trimmed)

theorem comma_not_mem_entryText (writable : WritableEntry entry) :
    ',' ∉ (entryText entry).toList := by
  rw [toList_entryText, List.mem_append, List.mem_cons]
  rintro (key | mark | value)
  · exact writable.1.comma key
  · cases mark
  · exact writable.2.comma value

/-- Blanks around an entry are not read. -/
theorem readEntry_padded (writable : WritableEntry entry) (leading : ∀ c ∈ lead, isBlank c = true)
    (trailing : ∀ c ∈ trail, isBlank c = true) :
    readEntry (lead ++ ((entryText entry).toList ++ trail)) = some entry := by
  obtain ⟨key, value⟩ := entry
  obtain ⟨key_writable, value_writable⟩ := writable
  have no_blank : ∀ c ∈ ([] : List Char), isBlank c = true := nofun
  have front : ':' ∉ lead ++ key.toList := by
    rw [List.mem_append]
    rintro (blank | inside)
    · exact not_mem_of_blanks leading (by decide) blank
    · exact key_writable.colon inside
  have back : ':' ∉ value.toList ++ trail := by
    rw [List.mem_append]
    rintro (inside | blank)
    · exact value_writable.colon inside
    · exact not_mem_of_blanks trailing (by decide) blank
  have whole : lead ++ ((entryText (key, value)).toList ++ trail) =
      lead ++ key.toList ++ ':' :: (value.toList ++ trail) := by
    simp [toList_entryText]
  have key_trimmed : trim (lead ++ key.toList) = key.toList := by
    simpa using trim_padded leading no_blank key_writable.unpadded
  have value_trimmed : trim (value.toList ++ trail) = value.toList :=
    trim_padded no_blank trailing value_writable.unpadded
  rw [readEntry, whole, splitAt_append front, splitAt_of_not_mem back]
  simp [key_trimmed, value_trimmed, key_writable.nonempty, value_writable.nonempty]

/-- The entries that are listed are read. -/
theorem ofChars_listed {entries : List (String × String)}
    (writable : ∀ entry ∈ entries, WritableEntry entry) :
    ofChars (' ' :: listed entries) = ⟨entries⟩ := by
  have blank : ∀ c ∈ [' '], isBlank c = true := by simp [isBlank]
  rw [ofChars, mk.injEq]
  cases entries with
  | nil => rfl
  | cons first others =>
      -- Every entry is read with the blank before it; the last one also with the blank behind it.
      induction others generalizing first with
      | nil =>
          have here := writable first List.mem_cons_self
          have absent : ',' ∉ ' ' :: ((entryText first).toList ++ [' ']) := by
            simp [comma_not_mem_entryText here]
          have read : readEntry (' ' :: ((entryText first).toList ++ [' '])) = some first :=
            readEntry_padded here blank blank
          rw [listed_singleton, splitAt_of_not_mem absent, List.filterMap_cons, read]
          rfl
      | cons second others ih =>
          have here := writable first List.mem_cons_self
          have absent : ',' ∉ ' ' :: (entryText first).toList := by
            simp [comma_not_mem_entryText here]
          have read : readEntry (' ' :: (entryText first).toList) = some first := by
            have padded : readEntry ([' '] ++ ((entryText first).toList ++ [])) = some first :=
              readEntry_padded here blank (by simp)
            rwa [List.append_nil] at padded
          have later := ih second fun entry member => writable entry (List.mem_cons_of_mem _ member)
          rw [listed_cons_cons, ← List.cons_append, splitAt_append absent, List.filterMap_cons,
            read, later]

end Reading

/-! ## The whole comment -/

theorem unclosed_join {front back : List Char} (front_unclosed : Unclosed front)
    (back_unclosed : Unclosed back) (apart : back.head? ≠ some '/') : Unclosed (front ++ back) := by
  induction front with
  | nil => exact back_unclosed
  | cons c front ih =>
      refine ⟨?_, ih front_unclosed.2⟩
      cases front with
      | nil => exact fun closes => apart closes.2
      | cons d front => exact front_unclosed.1

theorem unclosed_entryText {entry : String × String} (writable : WritableEntry entry) :
    Unclosed (entryText entry).toList := by
  have value : Unclosed (':' :: entry.2.toList) :=
    ⟨by simp, unclosed_iff.mpr writable.2.closer⟩
  rw [toList_entryText]
  exact unclosed_join (unclosed_iff.mpr writable.1.closer) value (by simp)

/-- No entry closes the comment, nor do two neighbours, as a mark always stands between them. -/
theorem unclosed_listed {entries : List (String × String)}
    (writable : ∀ entry ∈ entries, WritableEntry entry) : Unclosed (' ' :: listed entries) := by
  refine ⟨by simp, ?_⟩
  cases entries with
  | nil => exact ⟨by simp, trivial⟩
  | cons first others =>
      induction others generalizing first with
      | nil =>
          have here := unclosed_entryText (writable first List.mem_cons_self)
          have last : Unclosed [' '] := ⟨by simp, trivial⟩
          rw [listed_singleton]
          exact unclosed_join here last (by simp)
      | cons second others ih =>
          have here := unclosed_entryText (writable first List.mem_cons_self)
          have later := ih second fun entry member => writable entry (List.mem_cons_of_mem _ member)
          have behind : Unclosed (',' :: ' ' :: listed (second :: others)) :=
            ⟨by simp, by simp, later⟩
          rw [listed_cons_cons]
          exact unclosed_join here behind (by simp)

/-- A text that starts with a block comment, not a hint, which is closed somewhere. -/
def OpensComment (chars : List Char) : Prop :=
  ∃ inside after, chars = '/' :: '*' :: (inside ++ '*' :: '/' :: after) ∧ inside.head? ≠ some '+'

theorem not_opensComment_hint (hint : List Char) : ¬ OpensComment ('/' :: '*' :: '+' :: hint) := by
  rintro ⟨inside, after, opened, no_hint⟩
  cases inside with
  | nil => cases opened
  | cons c inside =>
      cases opened
      exact no_hint rfl

theorem splitChars_unopened {chars : List Char} (unopened : ¬ OpensComment (trim chars)) :
    splitChars chars = (empty, trim chars) := by
  apply splitChars_whole
  intro rest opened
  by_contra closes
  obtain ⟨no_hint, closed⟩ := not_or.mp closes
  obtain ⟨⟨inside, after⟩, cut⟩ := Option.ne_none_iff_exists'.mp closed
  obtain rfl := cutAtPair_eq cut
  refine unopened ⟨inside, after, opened, fun hint => no_hint ?_⟩
  rw [List.head?_append, hint, Option.some_or]

theorem splitChars_written {entries : List (String × String)}
    (writable : ∀ entry ∈ entries, WritableEntry entry) (statement : List Char) :
    splitChars ((written entries).toList ++ statement) = (⟨entries⟩, trim statement) := by
  have ends : (written entries).toList =
      '/' :: '*' :: ' ' :: (listed entries ++ ['*']) ++ ['/'] := by
    simp [toList_written]
  have bare : Unpadded (written entries).toList := by
    rw [ends]
    constructor
    · rintro c ⟨⟩
      decide
    · intro c last
      rw [List.getLast?_concat] at last
      cases last
      decide
  have some_front : (written entries).toList ≠ [] := by simp [ends]
  obtain ⟨after, trimmed, behind⟩ := trim_append bare some_front statement
  have opened : trim ((written entries).toList ++ statement) =
      '/' :: '*' :: (' ' :: listed entries ++ '*' :: '/' :: after) := by
    rw [trimmed, toList_written]
    simp
  have closed : cutAtPair '*' '/' (' ' :: listed entries ++ '*' :: '/' :: after) =
      some (' ' :: listed entries, after) :=
    cutAtPair_iff.mpr (unclosed_listed writable)
  rw [splitChars_comment opened (by simp) closed, ofChars_listed writable, behind]

/-- The first of the values that a column has. -/
theorem get?_eq (head : HeadComment) (column : String) :
    head.get? column = (head.valuesFor column).head? := by
  rw [get?, valuesFor, List.head?_map, List.head?_filter]

/-- Entries that are written in a comment before a statement are split off as they are, and each of
their columns has its values in order. A text that opens with no comment of this kind is all
statement. -/
theorem split_written :
    (∀ entries : List (String × String), (∀ entry ∈ entries, WritableEntry entry) →
      ∀ statement column : String, ∃ head, split (written entries ++ statement) =
          (head, trimmed statement) ∧ head.entries = entries ∧
        head.valuesFor column =
          (entries.filter fun entry => sameWord entry.1 column).map (·.2) ∧
        head.get? column = (head.valuesFor column).head?) ∧
      ∀ text : String, ¬ OpensComment (trim text.toList) →
        split text = (.empty, trimmed text) := by
  constructor
  · intro entries writable statement column
    refine ⟨⟨entries⟩, ?_, rfl, rfl, get?_eq _ column⟩
    rw [split, String.toList_append, splitChars_written writable]
    rfl
  · intro text unopened
    rw [split, splitChars_unopened unopened]
    rfl

/-- Stars and slashes beside the marks, and a hint. -/
theorem split_written_starred :
    (∀ entry ∈ [("a*", "/1"), ("A*", "*")], WritableEntry entry) ∧
      written [("a*", "/1"), ("A*", "*")] = "/* a*:/1, A*:* */" ∧
      (∃ head, split "/* a*:/1, A*:* */ SELECT 1 " = (head, "SELECT 1") ∧
        head.entries = [("a*", "/1"), ("A*", "*")] ∧ head.valuesFor "A*" = ["/1", "*"] ∧
        head.get? "A*" = some "/1") ∧
      ¬ OpensComment (trim " /*+ x */ SELECT 1 ".toList) ∧
      split " /*+ x */ SELECT 1 " = (.empty, "/*+ x */ SELECT 1") := by
  have writable : ∀ entry ∈ [("a*", "/1"), ("A*", "*")], WritableEntry entry := by decide +kernel
  have text : written [("a*", "/1"), ("A*", "*")] = "/* a*:/1, A*:* */" := by decide +kernel
  have unopened : ¬ OpensComment (trim " /*+ x */ SELECT 1 ".toList) := by
    have hint : trim " /*+ x */ SELECT 1 ".toList =
        '/' :: '*' :: '+' :: " x */ SELECT 1".toList := by
      decide +kernel
    rw [hint]
    exact not_opensComment_hint _
  obtain ⟨head, cut, entries, values, first⟩ :=
    split_written.1 [("a*", "/1"), ("A*", "*")] writable " SELECT 1 " "A*"
  have columns : head.valuesFor "A*" = ["/1", "*"] := by
    rw [values]
    decide +kernel
  refine ⟨writable, text, ⟨head, ?_, entries, columns, ?_⟩, unopened, ?_⟩
  · rw [text, show trimmed " SELECT 1 " = "SELECT 1" by decide +kernel] at cut
    exact cut
  · rw [first, columns]
    rfl
  · rw [split_written.2 " /*+ x */ SELECT 1 " unopened]
    decide +kernel

end HeadComment

end ShardedSql
