import ShardedSql.Expansion
import ShardedSql.Segment.Rename
import ShardedSql.Sql.Span

/-!
The segments of a text, found in its bytes. The scanner reads the UTF-8 form of a text and notes
byte offsets; the text is cut at them afterwards, and no cut is possible inside a character.
-/

namespace ShardedSql.Segment

open Sql Text

/-- A segment by its place in the text. -/
structure Stretch where
  kind : SegmentKind
  span : Span
deriving DecidableEq, Repr

/-- The UTF-8 form of a text. -/
def bytesOf (text : String) : List UInt8 :=
  text.toUTF8.data.toList

/-- Where a literal stops that goes on at `pos`. A backslash and a doubled quote take two bytes,
which may leave the scanner inside a character or behind the end. -/
def literalStop (bytes : List UInt8) (pos : Nat) : Nat :=
  if inside : pos < bytes.length then
    if bytes[pos] = '\\'.toUInt8 then literalStop bytes (pos + 2)
    else if bytes[pos] = '\''.toUInt8 then
      if bytes[pos + 1]? = some '\''.toUInt8 then literalStop bytes (pos + 2) else pos + 1
    else literalStop bytes (pos + 1)
  else bytes.length
termination_by bytes.length - pos

/-- Where a comment stops that takes the rest of its line. -/
def lineStop (bytes : List UInt8) (pos : Nat) : Nat :=
  pos + (bytes.drop pos).findIdx (· == '\n'.toUInt8)

/-- Where the block comment that opens at `pos` stops. Its end is looked for in the text behind the
opening. -/
def blockStop? (text : String) (pos : Nat) : Option Nat := do
  let stop := (bytesOf text).length
  let body ← slice? text (pos + 2) stop
  return match cutAtPair '*' '/' body.toList with
    | some (inside, _) => pos + 2 + byteLength inside + 2
    | none => stop

/-- The segment that opens at `pos`, with its end. A byte that opens nothing is code on its own. -/
def openedAt? (text : String) (pos : Nat) : Option (SegmentKind × Nat) :=
  let bytes := bytesOf text
  let second := bytes[pos + 1]?
  if bytes[pos]? = some '\''.toUInt8 then some (.literal, literalStop bytes (pos + 1))
  else if bytes[pos]? = some '-'.toUInt8 ∧ second = some '-'.toUInt8 then
    some (.comment, lineStop bytes pos)
  else if bytes[pos]? = some '/'.toUInt8 ∧ second = some '*'.toUInt8 then
    let kind := if bytes[pos + 2]? = some '+'.toUInt8 then .hint else .comment
    (blockStop? text pos).map fun stop => (kind, stop)
  else some (.code, pos + 1)

/-- One more stretch behind the others, of which the last comes first. An empty one is dropped, and
code goes on in code. -/
def push (stretch : Stretch) (found : List Stretch) : List Stretch :=
  if stretch.span.isEmpty then found
  else
    match stretch.kind, found with
    | .code, ⟨.code, span⟩ :: rest => ⟨.code, ⟨span.start, stretch.span.stop⟩⟩ :: rest
    | _, found => stretch :: found

theorem min_le_literalStop (bytes : List UInt8) (pos : Nat) :
    min pos bytes.length ≤ literalStop bytes pos := by
  fun_induction literalStop bytes pos with omega

theorem lt_lineStop {bytes : List UInt8} {pos : Nat} {b : UInt8} (first : bytes[pos]? = some b)
    (goes_on : b ≠ '\n'.toUInt8) : pos < lineStop bytes pos := by
  obtain ⟨inside, rfl⟩ := List.getElem?_eq_some_iff.mp first
  have other : (bytes[pos] == '\n'.toUInt8) = false := by simpa using goes_on
  rw [lineStop, List.drop_eq_getElem_cons inside, List.findIdx_cons, other]
  exact Nat.lt_add_of_pos_right (Nat.succ_pos _)

theorem lt_blockStop {text : String} {pos stop : Nat} (inside : pos < (bytesOf text).length)
    (found : blockStop? text pos = some stop) : pos < stop := by
  rw [blockStop?, Option.bind_eq_bind, Option.bind_eq_some_iff] at found
  obtain ⟨body, -, found⟩ := found
  split at found
  · cases found
    omega
  · cases found
    exact inside

theorem lt_of_openedAt {text : String} {pos stop : Nat} {kind : SegmentKind}
    (inside : pos < (bytesOf text).length) (opened : openedAt? text pos = some (kind, stop)) :
    pos < stop := by
  simp only [openedAt?] at opened
  split at opened
  · cases opened
    have := min_le_literalStop (bytesOf text) (pos + 1)
    omega
  · split at opened
    · next dashes =>
        cases opened
        exact lt_lineStop dashes.1 (by decide)
    · split at opened
      · obtain ⟨next, found, same⟩ := Option.map_eq_some_iff.mp opened
        cases same
        exact lt_blockStop inside found
      · cases opened
        omega

/-- The stretches from `pos` on, where the code that goes up to `pos` began at `start`. -/
def scanFrom (text : String) (pos start : Nat) (found : List Stretch) : Option (List Stretch) :=
  let stop := (bytesOf text).length
  if _ : pos < stop then
    match _ : openedAt? text pos with
    | none => none
    | some (.code, next) => scanFrom text next start found
    | some (kind, next) =>
        scanFrom text next next (push ⟨kind, ⟨pos, next⟩⟩ (push ⟨.code, ⟨start, pos⟩⟩ found))
  else some (push ⟨.code, ⟨start, stop⟩⟩ found).reverse
termination_by (bytesOf text).length - pos
decreasing_by
  all_goals
    have := lt_of_openedAt ‹_› ‹_›
    omega

/-- The stretches of a text. -/
def scan? (text : String) : Option (List Stretch) :=
  scanFrom text 0 0 []

/-- The segment at the place of a stretch. -/
def Stretch.cut? (text : String) (stretch : Stretch) : Option Segment :=
  (stretch.span.slice? text).map fun covered => ⟨stretch.kind, covered.toList⟩

/-- The segments at the places the scanner finds. -/
def cut? (text : String) : Option (List Segment) := do
  (← scan? text).mapM (Stretch.cut? text)

/-- `renameWords` by way of the scanner. -/
def renameCut? (renamings : List Renaming) (sql : String) : Option String :=
  (cut? sql).map fun segments => String.ofList (segments.flatMap (rename renamings))

/-- `expandLists` by way of the scanner. -/
def expandCut? (sql : String) (values : List Value) : Option (Except ShardError Expanded) :=
  if !values.any Expanded.isList then some (.ok ⟨sql, values⟩)
  else (cut? sql).map fun segments => do
    let progress ← Expanded.expandSegments segments values
    return ⟨String.ofList progress.text, progress.taken ++ progress.left⟩

end ShardedSql.Segment
