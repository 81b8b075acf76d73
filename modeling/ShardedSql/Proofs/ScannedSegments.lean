import Mathlib.Data.List.Chain
import ShardedSql.Proofs.PatchedSegments
import ShardedSql.Proofs.Tiling
import ShardedSql.Segment.Scan

/-!
The scanner over bytes and the segments of characters. The scanner may come to stand inside a
character, behind a backslash or in code, but no byte there is a mark, so it goes on to the end of
the character before anything opens or stops. Main statement: the stretches of any text lie in it
without gaps, cut between characters, and what is cut out at them are the segments of the text.
-/

namespace ShardedSql.Segment

open Sql Text

/-! ## Characters in bytes -/

def encode (chars : List Char) : List UInt8 :=
  chars.flatMap String.utf8EncodeChar

@[simp]
theorem encode_cons (c : Char) (rest : List Char) :
    encode (c :: rest) = String.utf8EncodeChar c ++ encode rest :=
  List.flatMap_cons

@[simp]
theorem encode_append (front rest : List Char) :
    encode (front ++ rest) = encode front ++ encode rest :=
  List.flatMap_append

theorem bytesOf_eq (text : String) : bytesOf text = encode text.toList := by
  rw [bytesOf, String.toUTF8_eq_toByteArray, ← String.utf8Encode_toList]
  exact List.toList_data_toByteArray

theorem length_encode (chars : List Char) : (encode chars).length = byteLength chars := by
  induction chars with
  | nil => rfl
  | cons c rest ih => simp [byteLength, ih]

theorem length_bytesOf (text : String) : (bytesOf text).length = byteLength text.toList := by
  rw [bytesOf_eq, length_encode]

/-- The characters that are one byte long. -/
def IsNarrow (c : Char) : Prop :=
  c.toNat < 128

instance (c : Char) : Decidable (IsNarrow c) :=
  inferInstanceAs (Decidable (c.toNat < 128))

theorem encodeChar_of_narrow {c : Char} (narrow : IsNarrow c) :
    String.utf8EncodeChar c = [c.toUInt8] := by
  have le : c.val.toNat ≤ 127 := Nat.le_of_lt_succ narrow
  simp only [String.utf8EncodeChar, if_pos le]
  rfl

theorem wide_of_mem {c : Char} (wide : ¬ IsNarrow c) :
    ∀ b ∈ String.utf8EncodeChar c, 128 ≤ b.toNat := by
  have gt : ¬ c.val.toNat ≤ 127 := fun le => wide (Nat.lt_succ_of_le le)
  simp only [String.utf8EncodeChar, if_neg gt]
  split
  · simp
    omega
  · split
    · simp
      omega
    · simp
      omega

theorem utf8Size_of_narrow {c : Char} (narrow : IsNarrow c) : c.utf8Size = 1 := by
  rw [← String.length_utf8EncodeChar, encodeChar_of_narrow narrow]
  rfl

theorem byteLength_snoc (front : List Char) {c : Char} (narrow : IsNarrow c) :
    byteLength (front ++ [c]) = byteLength front + 1 := by
  simp [byteLength, utf8Size_of_narrow narrow]

theorem toNat_toUInt8 {c : Char} (narrow : IsNarrow c) : c.toUInt8.toNat = c.toNat := by
  have small : c.toNat < 2 ^ 8 := Nat.lt_trans narrow (by decide)
  change (c.val.toNat % 2 ^ 8) = c.toNat
  exact Nat.mod_eq_of_lt small

/-- The byte of a narrow character stands in no other character. -/
theorem toUInt8_mem_iff {mark c : Char} (narrow : IsNarrow mark) :
    mark.toUInt8 ∈ String.utf8EncodeChar c ↔ c = mark := by
  by_cases narrow' : IsNarrow c
  · rw [encodeChar_of_narrow narrow', List.mem_singleton]
    refine ⟨fun same => ?_, fun same => congrArg _ same.symm⟩
    have value := congrArg UInt8.toNat same
    rw [toNat_toUInt8 narrow, toNat_toUInt8 narrow'] at value
    exact (Char.toNat_inj.mp value).symm
  · constructor
    · intro member
      have wide := wide_of_mem narrow' _ member
      rw [toNat_toUInt8 narrow] at wide
      exact absurd narrow (Nat.not_lt.mpr wide)
    · rintro rfl
      exact absurd narrow narrow'

theorem encode_head?_iff {mark : Char} (narrow : IsNarrow mark) (chars : List Char) :
    (encode chars).head? = some mark.toUInt8 ↔ chars.head? = some mark := by
  cases chars with
  | nil => simp [encode]
  | cons c rest =>
      have some_bytes : String.utf8EncodeChar c ≠ [] :=
        List.ne_nil_of_length_pos (by simp [c.utf8Size_pos])
      rw [encode_cons, List.head?_append_of_ne_nil _ some_bytes, List.head?_cons, Option.some.injEq]
      constructor
      · intro head
        exact (toUInt8_mem_iff narrow).mp (List.mem_of_head? head)
      · rintro rfl
        rw [encodeChar_of_narrow narrow, List.head?_cons]

/-- A line is as long in bytes as the bytes that come before the next line feed. -/
theorem findIdx_encode (chars : List Char) :
    (encode chars).findIdx (· == '\n'.toUInt8) = byteLength (chars.takeWhile (· ≠ '\n')) := by
  induction chars with
  | nil => rfl
  | cons c rest ih =>
      rw [encode_cons, List.takeWhile_cons]
      by_cases newline : c = '\n'
      · subst newline
        rfl
      · have inside : ∀ b ∈ String.utf8EncodeChar c, (b == '\n'.toUInt8) = false := by
          intro b member
          rw [beq_eq_false_iff_ne]
          rintro rfl
          exact newline ((toUInt8_mem_iff (by decide)).mp member)
        rw [List.findIdx_append, List.findIdx_eq_length_of_false inside, if_neg (Nat.lt_irrefl _),
          ih, if_pos (by simpa using newline), byteLength, String.length_utf8EncodeChar,
          Nat.add_comm]

/-! ## Bytes of a text -/

section Places

variable {text : String} {front rest : List Char} {c : Char}

theorem drop_bytesOf (whole : text.toList = front ++ rest) :
    (bytesOf text).drop (byteLength front) = encode rest := by
  rw [bytesOf_eq, whole, encode_append, ← length_encode, List.drop_left]

theorem byteAt_iff (whole : text.toList = front ++ rest) (mark : Char)
    (narrow : IsNarrow mark) :
    (bytesOf text)[byteLength front]? = some mark.toUInt8 ↔ rest.head? = some mark := by
  rw [← encode_head?_iff narrow, ← drop_bytesOf whole, List.head?_drop]

theorem nextByte_iff (whole : text.toList = front ++ c :: rest) (first : IsNarrow c) (mark : Char)
    (narrow : IsNarrow mark) :
    (bytesOf text)[byteLength front + 1]? = some mark.toUInt8 ↔ rest.head? = some mark := by
  have whole' : text.toList = front ++ [c] ++ rest := by simp [whole]
  rw [← byteLength_snoc front first, byteAt_iff whole' mark narrow]

/-- Two bytes in a row are a pair of narrow characters. -/
theorem bytePair_iff (whole : text.toList = front ++ c :: rest) (one two : Char)
    (first : IsNarrow one) (second : IsNarrow two) :
    ((bytesOf text)[byteLength front]? = some one.toUInt8 ∧
        (bytesOf text)[byteLength front + 1]? = some two.toUInt8) ↔
      c = one ∧ rest.head? = some two := by
  rw [byteAt_iff whole one first, List.head?_cons, Option.some.injEq, and_congr_right_iff]
  rintro rfl
  exact nextByte_iff whole first two second

/-- Any byte but the first of a character is none of the marks. -/
theorem wide_inside (whole : text.toList = front ++ c :: rest) {count : Nat} (positive : 0 < count)
    (inside : count < c.utf8Size) :
    ∃ b, (bytesOf text)[byteLength front + count]? = some b ∧ 128 ≤ b.toNat := by
  have wide : ¬ IsNarrow c := fun narrow => by
    rw [utf8Size_of_narrow narrow] at inside
    omega
  have bound : count < (String.utf8EncodeChar c).length := by
    rwa [String.length_utf8EncodeChar]
  refine ⟨(String.utf8EncodeChar c)[count], ?_, wide_of_mem wide _ (List.getElem_mem bound)⟩
  rw [← List.getElem?_drop, drop_bytesOf whole, encode_cons, List.getElem?_append_left bound,
    List.getElem?_eq_getElem bound]

/-- What passes over each byte that is no mark passes, from its second byte on, over a character. -/
theorem passed {α : Type} {f : Nat → α} (whole : text.toList = front ++ c :: rest)
    (passes : ∀ pos b, (bytesOf text)[pos]? = some b → 128 ≤ b.toNat → f pos = f (pos + 1)) :
    f (byteLength front + 1) = f (byteLength (front ++ [c])) := by
  have along : ∀ count, 1 ≤ count → count ≤ c.utf8Size →
      f (byteLength front + 1) = f (byteLength front + count) := by
    intro count positive
    induction count, positive using Nat.le_induction with
    | base => exact fun _ => rfl
    | succ count positive ih =>
        intro inside
        obtain ⟨b, found, wide⟩ := wide_inside whole positive inside
        rw [ih (Nat.le_of_succ_le inside), passes _ b found wide, Nat.add_assoc]
  rw [byteLength_append]
  exact along _ c.utf8Size_pos (Nat.le_refl _)

end Places

/-! ## Where segments stop -/

theorem literalStop_eq {bytes : List UInt8} {pos : Nat} {b : UInt8} (found : bytes[pos]? = some b) :
    literalStop bytes pos =
      if b = '\\'.toUInt8 then literalStop bytes (pos + 2)
      else if b = '\''.toUInt8 then
        if bytes[pos + 1]? = some '\''.toUInt8 then literalStop bytes (pos + 2) else pos + 1
      else literalStop bytes (pos + 1) := by
  obtain ⟨inside, rfl⟩ := List.getElem?_eq_some_iff.mp found
  rw [literalStop, dif_pos inside]

theorem literalStop_of_le {text : String} {pos : Nat} (past : byteLength text.toList ≤ pos) :
    literalStop (bytesOf text) pos = byteLength text.toList := by
  rw [literalStop, dif_neg (by rwa [length_bytesOf, Nat.not_lt]), length_bytesOf]

theorem ne_of_wide {b : UInt8} {mark : Char} (wide : 128 ≤ b.toNat) (narrow : IsNarrow mark) :
    b ≠ mark.toUInt8 := by
  rintro rfl
  rw [toNat_toUInt8 narrow] at wide
  exact Nat.not_lt.mpr wide narrow

theorem literalStop_of_wide {bytes : List UInt8} {pos : Nat} {b : UInt8}
    (found : bytes[pos]? = some b) (wide : 128 ≤ b.toNat) :
    literalStop bytes pos = literalStop bytes (pos + 1) := by
  rw [literalStop_eq found, if_neg (ne_of_wide wide (by decide)),
    if_neg (ne_of_wide wide (by decide))]

section Stops

variable {text : String} {front rest : List Char} {c : Char}

theorem length_of_whole (whole : text.toList = front ++ rest) :
    (bytesOf text).length = byteLength front + byteLength rest := by
  rw [length_bytesOf, whole, byteLength_append]

theorem literalStop_cons (whole : text.toList = front ++ c :: rest) :
    literalStop (bytesOf text) (byteLength front) =
      if c = '\\' then literalStop (bytesOf text) (byteLength front + 2)
      else if c = '\'' then
        if rest.head? = some '\'' then literalStop (bytesOf text) (byteLength front + 2)
        else byteLength front + 1
      else literalStop (bytesOf text) (byteLength (front ++ [c])) := by
  have inside : byteLength front < (bytesOf text).length := by
    rw [length_of_whole whole]
    exact Nat.lt_add_of_pos_right byteLength_pos
  have found := List.getElem?_eq_getElem inside
  have is (mark : Char) (narrow : IsNarrow mark) :
      (bytesOf text)[byteLength front] = mark.toUInt8 ↔ c = mark := by
    have first := byteAt_iff whole mark narrow
    rwa [found, Option.some.injEq, List.head?_cons, Option.some.injEq] at first
  rw [literalStop_eq found]
  simp only [is '\\' (by decide), is '\'' (by decide)]
  split
  · rfl
  · split
    · next quote =>
        subst quote
        simp only [nextByte_iff whole (by decide) '\'' (by decide)]
    · exact passed whole fun _ _ => literalStop_of_wide

/-- Two bytes on from a mark: from there the scanner comes to the end of the next character. -/
theorem literalStop_add_two {d : Char} (whole : text.toList = front ++ c :: d :: rest)
    (narrow : IsNarrow c) :
    literalStop (bytesOf text) (byteLength front + 2) =
      literalStop (bytesOf text) (byteLength (front ++ [c, d])) := by
  have whole' : text.toList = front ++ [c] ++ d :: rest := by simp [whole]
  have next := passed (f := literalStop (bytesOf text)) whole' fun _ _ => literalStop_of_wide
  rwa [byteLength_snoc front narrow, List.append_assoc] at next

theorem literalStop_whole (whole : text.toList = front ++ rest) :
    literalStop (bytesOf text) (byteLength front) =
      byteLength (front ++ rest.take (literalLength rest)) := by
  induction rest using literalLength.induct generalizing front with
  | case1 =>
      rw [List.append_nil] at whole
      rw [literalStop_of_le (by rw [whole]), whole]
      simp
  | case2 c =>
      have taken : [c].take (literalLength [c]) = [c] := rfl
      rw [literalStop_cons whole, taken]
      split
      · next mark =>
          subst mark
          have size := byteLength_snoc front (c := '\\') (by decide)
          rw [literalStop_of_le (by rw [whole, size]; exact Nat.le_succ _), whole]
      · split
        · next mark =>
            subst mark
            rw [byteLength_snoc front (by decide)]
            rfl
        · rw [literalStop_of_le (by rw [whole]), whole]
  | case3 d rest ih =>
      have whole' : text.toList = front ++ ['\\', d] ++ rest := by simp [whole]
      rw [literalStop_cons whole, if_pos rfl, literalStop_add_two whole (by decide), ih whole',
        literalLength, if_pos rfl, List.append_assoc]
      rfl
  | case4 rest _ ih =>
      have whole' : text.toList = front ++ ['\'', '\''] ++ rest := by simp [whole]
      rw [literalStop_cons whole, if_neg (by decide), if_pos rfl, List.head?_cons, if_pos rfl,
        literalStop_add_two whole (by decide), ih whole', literalLength, if_neg (by decide),
        if_pos rfl, if_pos rfl, List.append_assoc]
      rfl
  | case5 d rest other =>
      rw [literalStop_cons whole, if_neg (by decide), if_pos rfl, List.head?_cons,
        if_neg (by simpa), literalLength, if_neg (by decide), if_pos rfl, if_neg other, List.take_succ_cons,
        List.take_zero, byteLength_snoc front (by decide)]
  | case6 c d rest plain unquoted ih =>
      have whole' : text.toList = front ++ [c] ++ d :: rest := by simp [whole]
      rw [literalStop_cons whole, if_neg plain, if_neg unquoted, ih whole', literalLength,
        if_neg plain, if_neg unquoted, List.append_assoc]
      rfl

theorem lineStop_whole (whole : text.toList = front ++ rest) :
    lineStop (bytesOf text) (byteLength front) =
      byteLength (front ++ rest.takeWhile (· ≠ '\n')) := by
  rw [lineStop, drop_bytesOf whole, findIdx_encode, byteLength_append]

theorem blockStop_whole {body : List Char} (whole : text.toList = front ++ '/' :: '*' :: body) :
    blockStop? text (byteLength front) =
      some (byteLength (front ++ '/' :: '*' :: body.take (blockLength body))) := by
  have whole' : text.toList = front ++ ['/', '*'] ++ (body ++ []) := by simp [whole]
  have opening : byteLength (front ++ ['/', '*']) = byteLength front + 2 := by
    rw [byteLength_append]
    rfl
  have stop : (bytesOf text).length = byteLength front + 2 + byteLength body := by
    rw [length_of_whole whole', opening, List.append_nil]
  have sliced := slice?_of_append whole'
  rw [opening] at sliced
  rw [blockStop?, stop, sliced]
  have goes_on (inside : List Char) : byteLength (front ++ '/' :: '*' :: inside) =
      byteLength front + 2 + byteLength inside := by
    rw [← opening, ← byteLength_append, List.append_assoc]
    rfl
  rw [goes_on]
  simp only [String.toList_ofList, Option.bind_eq_bind, Option.bind_some, blockLength]
  cases closes : cutAtPair '*' '/' body with
  | none => simp
  | some parts =>
      obtain ⟨inside, after⟩ := parts
      obtain rfl := cutAtPair_eq closes
      have taken : (inside ++ '*' :: '/' :: after).take (inside.length + 2) =
          inside ++ ['*', '/'] := by
        rw [List.append_cons inside, List.append_cons (inside ++ ['*']), List.append_assoc inside]
        exact List.take_left' (by simp)
      dsimp only
      rw [taken, byteLength_append]
      rfl

/-- At the start of a character the scanner sees what opens there. -/
theorem openedAt_whole (whole : text.toList = front ++ c :: rest) :
    openedAt? text (byteLength front) =
      some (match opened? c rest with
        | some (kind, extra) => (kind, byteLength (front ++ c :: rest.take extra))
        | none => (.code, byteLength front + 1)) := by
  simp only [openedAt?, byteAt_iff whole '\'' (by decide), List.head?_cons,
    Option.some.injEq, bytePair_iff whole '-' '-' (by decide) (by decide),
    bytePair_iff whole '/' '*' (by decide) (by decide)]
  split
  · next quote =>
      subst quote
      have whole' : text.toList = front ++ ['\''] ++ rest := by simp [whole]
      rw [← byteLength_snoc front (c := '\'') (by decide), literalStop_whole whole',
        List.append_assoc]
      rfl
  · next unquoted =>
      split
      · next dashes =>
          obtain ⟨rfl, second⟩ := dashes
          obtain ⟨line, rfl⟩ := List.head?_eq_some_iff.mp second
          have taken := List.prefix_iff_eq_take.mp (List.takeWhile_prefix (· ≠ '\n') (l := line))
          rw [lineStop_whole whole, opened?]
          simp only [List.take_succ_cons, ← taken]
          rfl
      · next undashed =>
          split
          · next slash =>
              obtain ⟨rfl, second⟩ := slash
              obtain ⟨body, rfl⟩ := List.head?_eq_some_iff.mp second
              have whole' : text.toList = front ++ ['/', '*'] ++ body := by simp [whole]
              have third := byteAt_iff whole' '+' (by decide)
              have opening : byteLength (front ++ ['/', '*']) = byteLength front + 2 := by
                rw [byteLength_append]
                rfl
              rw [opening] at third
              rw [blockStop_whole whole, opened?_slash]
              simp only [third]
              rfl
          · next bare =>
              rw [opened?_eq_none_iff.mpr ⟨unquoted, undashed, bare⟩]

end Stops

/-! ## The scan -/

/-- The places of segments that stand one behind the other from `offset` on. -/
def stretchesFrom (offset : Nat) : List Segment → List Stretch
  | [] => []
  | segment :: rest =>
      let stop := offset + byteLength segment.text
      ⟨segment.kind, ⟨offset, stop⟩⟩ :: stretchesFrom stop rest

/-- The segments of a text behind code that has been passed over. -/
def behindCode (run : List Char) (all : List Segment) : List Segment :=
  if run = [] then all else addText run all

theorem behindCode_addCode (run : List Char) (c : Char) (all : List Segment) :
    behindCode run (addCode c all) = behindCode (run ++ [c]) all := by
  have some_code : run ++ [c] ≠ [] := by simp
  rw [behindCode, behindCode, if_neg some_code, addCode_eq_addText]
  split
  · next none_yet => rw [none_yet, List.nil_append]
  · exact addText_addText run [c] all

section Scan

variable {text : String} {front run rest : List Char} {c : Char} {pos start : Nat}
  {found : List Stretch}

theorem scanFrom_code {next : Nat} (inside : pos < (bytesOf text).length)
    (opened : openedAt? text pos = some (.code, next)) :
    scanFrom text pos start found = scanFrom text next start found := by
  rw [scanFrom, dif_pos inside]
  split <;> simp_all

theorem scanFrom_other {kind : SegmentKind} {next : Nat} (inside : pos < (bytesOf text).length)
    (opened : openedAt? text pos = some (kind, next)) (other : kind ≠ .code) :
    scanFrom text pos start found =
      scanFrom text next next (push ⟨kind, ⟨pos, next⟩⟩ (push ⟨.code, ⟨start, pos⟩⟩ found)) := by
  rw [scanFrom, dif_pos inside]
  split <;> simp_all

theorem scanFrom_of_wide {b : UInt8} (here : (bytesOf text)[pos]? = some b)
    (wide : 128 ≤ b.toNat) :
    scanFrom text pos start found = scanFrom text (pos + 1) start found := by
  apply scanFrom_code (List.getElem?_eq_some_iff.mp here).1
  have other (mark : Char) (narrow : IsNarrow mark) : b ≠ mark.toUInt8 := ne_of_wide wide narrow
  simp only [openedAt?, here, Option.some.injEq, other '\'' (by decide),
    other '-' (by decide), other '/' (by decide), false_and, if_false]

/-- No code is the last that was found. -/
def CodeMayFollow (found : List Stretch) : Prop :=
  ∀ last, found.head? = some last → last.kind ≠ .code

theorem push_code (apart : CodeMayFollow found) :
    push ⟨.code, ⟨byteLength front, byteLength (front ++ run)⟩⟩ found =
      (stretchesFrom (byteLength front) (behindCode run [])).reverse ++ found := by
  unfold push behindCode
  rw [byteLength_append]
  by_cases none_yet : run = []
  · simp [none_yet, Span.isEmpty, byteLength, stretchesFrom]
  · obtain ⟨c, more, rfl⟩ := List.exists_cons_of_ne_nil none_yet
    have nonempty : ¬ byteLength front = byteLength front + byteLength (c :: more) :=
      Nat.ne_of_lt (Nat.lt_add_of_pos_right byteLength_pos)
    simp only [Span.isEmpty, beq_iff_eq, nonempty, if_false, reduceCtorEq, addText, stretchesFrom,
      List.reverse_singleton, List.singleton_append]
    split
    · exact absurd rfl (apart _ rfl)
    · rfl

theorem push_other {stretch : Stretch} (other : stretch.kind ≠ .code)
    (nonempty : stretch.span.start < stretch.span.stop) (found : List Stretch) :
    push stretch found = stretch :: found := by
  have some_bytes : ¬ stretch.span.isEmpty = true := by
    simpa [Span.isEmpty] using Nat.ne_of_lt nonempty
  unfold push
  rw [if_neg some_bytes]
  split
  · next code => exact absurd code other
  · rfl

/-- Code that has been passed over is a segment of its own before one that is not code. -/
theorem stretchesFrom_behindCode (offset : Nat) {segment : Segment} (other : segment.kind ≠ .code)
    (all : List Segment) :
    stretchesFrom offset (behindCode run (segment :: all)) =
      stretchesFrom offset (behindCode run []) ++
        stretchesFrom (offset + byteLength run) (segment :: all) := by
  unfold behindCode
  split
  · next none_yet =>
      rw [none_yet]
      rfl
  · obtain ⟨kind, covered⟩ := segment
    cases kind with
    | code => exact absurd rfl other
    | _ => rfl

/-- One step of the scanner where a segment opens behind a run of code. -/
theorem scanFrom_opened {kind : SegmentKind} {extra : Nat}
    (whole : text.toList = front ++ run ++ c :: rest) (opened : opened? c rest = some (kind, extra))
    (apart : CodeMayFollow found) {stop : Nat}
    (stops : stop = byteLength (front ++ run ++ c :: rest.take extra)) :
    scanFrom text (byteLength (front ++ run)) (byteLength front) found =
      scanFrom text stop stop (⟨kind, ⟨byteLength (front ++ run), stop⟩⟩ ::
        ((stretchesFrom (byteLength front) (behindCode run [])).reverse ++ found)) := by
  have inside : byteLength (front ++ run) < (bytesOf text).length :=
    length_of_whole whole ▸ Nat.lt_add_of_pos_right byteLength_pos
  have longer : byteLength (front ++ run) < stop := by
    rw [stops, byteLength_append (front ++ run)]
    exact Nat.lt_add_of_pos_right byteLength_pos
  have here := openedAt_whole whole
  rw [opened] at here
  dsimp only at here
  rw [← stops] at here
  have other := kind_of_opened opened
  rw [scanFrom_other inside here other, push_other other longer, push_code apart]

/-- Steps of the scanner over a character of code. -/
theorem scanFrom_unopened (whole : text.toList = front ++ c :: rest)
    (opened : opened? c rest = none) :
    scanFrom text (byteLength front) start found =
      scanFrom text (byteLength (front ++ [c])) start found := by
  have inside : byteLength front < (bytesOf text).length :=
    length_of_whole whole ▸ Nat.lt_add_of_pos_right byteLength_pos
  have code := openedAt_whole whole
  rw [opened] at code
  rw [scanFrom_code inside code]
  exact passed (f := fun pos => scanFrom text pos start found) whole fun _ _ => scanFrom_of_wide

/-- The scanner finds the segments of characters, at their places. -/
theorem scanFrom_whole (whole : text.toList = front ++ run ++ rest) (apart : CodeMayFollow found) :
    scanFrom text (byteLength (front ++ run)) (byteLength front) found =
      some (found.reverse ++
        stretchesFrom (byteLength front) (behindCode run (segments rest))) := by
  induction rest using segments.induct generalizing front run found with
  | case1 =>
      have stop : (bytesOf text).length = byteLength (front ++ run) := length_of_whole whole
      rw [scanFrom, dif_neg (by rw [stop]; exact Nat.lt_irrefl _), stop, push_code apart, segments,
        List.reverse_append, List.reverse_reverse]
  | case2 c rest kind extra opened ih =>
      have other := kind_of_opened opened
      have whole' : text.toList =
          front ++ run ++ c :: rest.take extra ++ [] ++ rest.drop extra := by simp [whole]
      -- What opened is the last that was found, so that code may follow again.
      have next (span : Span) (found : List Stretch) :=
        @ih _ [] (⟨kind, span⟩ :: found) whole' (by rintro _ ⟨⟩; exact other)
      simp only [List.append_nil] at next
      rw [scanFrom_opened whole opened apart rfl, next, segments, opened]
      dsimp only
      rw [stretchesFrom_behindCode _ other, ← byteLength_append, stretchesFrom, ← byteLength_append]
      simp [behindCode]
  | case3 c rest opened ih =>
      have whole' : text.toList = front ++ (run ++ [c]) ++ rest := by simp [whole]
      rw [scanFrom_unopened whole opened, List.append_assoc, ih whole' apart, segments, opened]
      dsimp only
      rw [behindCode_addCode]

end Scan

theorem scan?_eq (text : String) : scan? text = some (stretchesFrom 0 (segments text.toList)) := by
  have whole : text.toList = [] ++ [] ++ text.toList := rfl
  have none_found : CodeMayFollow [] := nofun
  exact scanFrom_whole whole none_found

/-! ## The tiles of a text -/

/-- Stretches that lie in a text one behind the other and leave nothing out. -/
structure Tiles (text : String) (stretches : List Stretch) : Prop where
  nonempty : ∀ stretch ∈ stretches, stretch.span.start < stretch.span.stop
  bounds : ∀ stretch ∈ stretches, String.Pos.Raw.IsValid text ⟨stretch.span.start⟩ ∧
    String.Pos.Raw.IsValid text ⟨stretch.span.stop⟩
  consecutive : (.point 0 :: (stretches.map (·.span) ++ [.point text.utf8ByteSize])).IsChain
    fun left right => left.stop = right.start
  apart : stretches.IsChain fun left right => left.kind = .code → right.kind ≠ .code
  /-- Each stretch can be cut out, and what is cut out makes up the text. -/
  pieces : ∃ pieces, stretches.mapM (Stretch.cut? text) = some pieces ∧
    String.ofList (textOf pieces) = text

theorem utf8ByteSize_eq (text : String) : text.utf8ByteSize = byteLength text.toList := by
  rw [← length_bytesOf, bytesOf, Array.length_toList, String.toUTF8_eq_toByteArray]
  rfl

section Placed

variable {text : String} {front rest : List Char} {all : List Segment}

theorem isValid_of_whole (whole : text.toList = front ++ rest) :
    String.Pos.Raw.IsValid text ⟨byteLength front⟩ := by
  rw [String.Pos.Raw.isValid_iff_exists_append]
  refine ⟨String.ofList front, String.ofList rest, ?_, ?_⟩
  · rw [← String.ofList_append, ← whole, String.ofList_toList]
  · rw [String.rawEndPos, utf8ByteSize_eq, String.toList_ofList]

theorem cut?_stretchesFrom (whole : text.toList = front ++ textOf all) :
    (stretchesFrom (byteLength front) all).mapM (Stretch.cut? text) = some all := by
  induction all generalizing front with
  | nil => rfl
  | cons segment all ih =>
      have whole' : text.toList = front ++ segment.text ++ textOf all := by simp [whole]
      have later := ih whole'
      have first : Stretch.cut? text ⟨segment.kind, ⟨byteLength front,
          byteLength front + byteLength segment.text⟩⟩ = some segment := by
        rw [Stretch.cut?, Span.slice?, slice?_of_append whole, Option.map_some,
          String.toList_ofList]
      rw [byteLength_append] at later
      simp only [stretchesFrom, List.mapM_cons, first, later]
      rfl

theorem bounds_stretchesFrom (whole : text.toList = front ++ textOf all) :
    ∀ stretch ∈ stretchesFrom (byteLength front) all,
      String.Pos.Raw.IsValid text ⟨stretch.span.start⟩ ∧
        String.Pos.Raw.IsValid text ⟨stretch.span.stop⟩ := by
  induction all generalizing front with
  | nil => nofun
  | cons segment all ih =>
      have whole' : text.toList = front ++ segment.text ++ textOf all := by simp [whole]
      rw [stretchesFrom, ← byteLength_append, List.forall_mem_cons]
      exact ⟨⟨isValid_of_whole whole, isValid_of_whole whole'⟩, ih whole'⟩

theorem consecutive_stretchesFrom (whole : text.toList = front ++ textOf all) {left : Span}
    (behind : left.stop = byteLength front) :
    (left :: ((stretchesFrom (byteLength front) all).map (·.span) ++
      [.point text.utf8ByteSize])).IsChain fun left right => left.stop = right.start := by
  induction all generalizing front left with
  | nil =>
      refine .cons_cons ?_ (.singleton _)
      rw [behind, utf8ByteSize_eq, whole]
      simp [Span.point, textOf]
  | cons segment all ih =>
      have whole' : text.toList = front ++ segment.text ++ textOf all := by simp [whole]
      rw [stretchesFrom, ← byteLength_append]
      exact .cons_cons behind (ih whole' rfl)

end Placed

theorem nonempty_stretchesFrom {all : List Segment} (some_text : ∀ segment ∈ all, segment.text ≠ [])
    (offset : Nat) :
    ∀ stretch ∈ stretchesFrom offset all, stretch.span.start < stretch.span.stop := by
  induction all generalizing offset with
  | nil => nofun
  | cons segment all ih =>
      rw [List.forall_mem_cons] at some_text
      obtain ⟨c, rest, text⟩ := List.exists_cons_of_ne_nil some_text.1
      rw [stretchesFrom, List.forall_mem_cons]
      refine ⟨Nat.lt_add_of_pos_right ?_, ih some_text.2 _⟩
      rw [text]
      exact byteLength_pos

theorem kinds_stretchesFrom (offset : Nat) (all : List Segment) :
    (stretchesFrom offset all).map (·.kind) = all.map (·.kind) := by
  induction all generalizing offset with
  | nil => rfl
  | cons segment all ih => rw [stretchesFrom, List.map_cons, ih, List.map_cons]

theorem Splits.nonempty {all : List Segment} (splits : Splits all) :
    ∀ segment ∈ all, segment.text ≠ [] := by
  induction splits with
  | nil => nofun
  | code nonempty _ _ _ ih => exact List.forall_mem_cons.mpr ⟨nonempty, ih⟩
  | other cuts _ ih =>
      refine List.forall_mem_cons.mpr ⟨?_, ih⟩
      cases cuts <;> simp

theorem Splits.apart {all : List Segment} (splits : Splits all) :
    (all.map (·.kind)).IsChain fun left right => left = .code → right ≠ .code := by
  induction splits with
  | nil => exact .nil
  | @code _ rest _ _ apart _ ih =>
      cases rest with
      | nil => exact .singleton _
      | cons next rest => exact .cons_cons (fun _ => apart next rfl) ih
  | @other segment rest cuts _ ih =>
      cases rest with
      | nil => exact .singleton _
      | cons next rest => exact .cons_cons (fun code => absurd code cuts.kind_ne_code) ih

/-- The scanner tiles every text, and no cut at its places fails: what is cut there are the
segments, so that tables are renamed and lists expanded in the pieces as they are in the text. -/
theorem scan_tiles (text : String) :
    ∃ stretches, scan? text = some stretches ∧ Tiles text stretches ∧
      cut? text = some (segments text.toList) ∧
      (∀ renamings, renameCut? renamings text = some (renameWords renamings text)) ∧
      ∀ values, expandCut? text values = some (expandLists text values) := by
  have whole : text.toList = [] ++ textOf (segments text.toList) := (textOf_segments _).symm
  have splits := splits_segments text.toList
  have pieces := cut?_stretchesFrom whole
  have cut : cut? text = some (segments text.toList) := by
    rw [cut?, scan?_eq]
    exact pieces
  refine ⟨_, scan?_eq text, ?_, cut, fun renamings => ?_, fun values => ?_⟩
  · constructor
    · exact nonempty_stretchesFrom splits.nonempty 0
    · exact bounds_stretchesFrom whole
    · exact consecutive_stretchesFrom whole rfl
    · have apart := splits.apart
      rwa [← kinds_stretchesFrom 0, List.isChain_map] at apart
    · exact ⟨_, pieces, by rw [textOf_segments, String.ofList_toList]⟩
  · rw [renameCut?, cut]
    rfl
  · rw [expandCut?, expandLists, cut]
    split <;> rfl

-- The backslash takes the first byte of the character behind it; the scanner goes on in its second.
example : scan? "x'\\é' --é" =
    some [⟨.code, ⟨0, 1⟩⟩, ⟨.literal, ⟨1, 6⟩⟩, ⟨.code, ⟨6, 7⟩⟩, ⟨.comment, ⟨7, 11⟩⟩] := by
  cbv

end ShardedSql.Segment
