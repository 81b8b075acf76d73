import ShardedSql.Proofs.LetterFold
import ShardedSql.Proofs.RenamedText
import ShardedSql.Proofs.Respelling

/-!
Tables renamed for a shard are spelled differently and nothing else: a new name is a word again, and
never a reserved one. Main statements: what a word becomes, and that renaming is a respelling.
-/

namespace ShardedSql

open Numeric Text Sql Segment

/-! ## Words of one spelling -/

namespace Text

theorem sameChars_iff {left right : List Char} :
    sameChars left right = true ↔ foldCase left = foldCase right := by
  simp [sameChars]

/-- What letters have in common with their other case, words have in common that fold alike. -/
theorem forall_of_foldCase_eq {p : Char → Bool}
    (respects : ∀ c d : Char, c.toLower = d.toLower → p c = p d) {left right : List Char}
    (same : foldCase left = foldCase right) (holds : ∀ c ∈ left, p c = true) :
    ∀ c ∈ right, p c = true := by
  induction left generalizing right with
  | nil =>
      cases right with
      | nil => simp
      | cons d right => cases same
  | cons c left ih =>
      cases right with
      | nil => cases same
      | cons d right =>
          simp only [foldCase, List.map_cons, List.cons.injEq] at same
          intro e member
          rcases List.mem_cons.mp member with rfl | later
          · rw [← respects c e same.1]
            exact holds c (List.mem_cons_self ..)
          · exact ih same.2 (fun c member => holds c (List.mem_cons_of_mem _ member)) e later

theorem map_toUpper_eq {left right : List Char} (same : foldCase left = foldCase right) :
    left.map Char.toUpper = right.map Char.toUpper := by
  induction left generalizing right with
  | nil =>
      cases right with
      | nil => rfl
      | cons d right => cases same
  | cons c left ih =>
      cases right with
      | nil => cases same
      | cons d right =>
          simp only [foldCase, List.map_cons, List.cons.injEq] at same
          rw [List.map_cons, List.map_cons, toUpper_eq_of_toLower_eq same.1, ih same.2]

theorem foldCase_map_toUpper (chars : List Char) :
    foldCase (chars.map Char.toUpper) = foldCase chars := by
  simp [foldCase, Function.comp_def, toLower_toUpper]

theorem toNat_of_isAlpha {c : Char} (letter : c.isAlpha = true) : c.toNat < 0x80 := by
  rw [isAlpha_iff] at letter
  omega

theorem congr_of_letters {p : Char → Bool} (letters : ∀ c : Char, c.isAlpha = true → p c = true)
    (c d : Char) (same : c.toLower = d.toLower) : p c = p d := by
  rcases eq_or_letters same with rfl | ⟨left, right⟩
  · rfl
  · rw [letters c left, letters d right]

end Text

theorem startsWord_of_isAlpha {c : Char} (letter : c.isAlpha = true) : startsWord c = true := by
  simp [startsWord, isAlphabetic, toNat_of_isAlpha letter, letter]

theorem isWordChar_of_startsWord {c : Char} (starts : startsWord c = true) :
    isWordChar c = true := by
  rcases Bool.or_eq_true_iff.mp starts with alphabetic | underscore
  · simp [isWordChar, isAlphanumeric, alphabetic]
  · simp [isWordChar, underscore]

theorem isWordChar_of_isDigit {c : Char} (digit : c.isDigit = true) : isWordChar c = true := by
  have ascii : c.toNat < 0x80 := by
    have := toNat_of_isDigit digit
    omega
  simp [isWordChar, isAlphanumeric, isNumeric, ascii, digit]

theorem isNameChar_of_isWordChar {c : Char} (word : isWordChar c = true) :
    isNameChar c = true := by
  by_cases ascii : c.toNat < 0x80
  · simp only [isWordChar, isAlphanumeric, isAlphabetic, isNumeric, ascii, if_true] at word
    simp only [isNameChar, word, Bool.true_or]
  · simp [isNameChar, Nat.le_of_not_lt ascii]

theorem isNameChar_of_isDigit {c : Char} (digit : c.isDigit = true) : isNameChar c = true :=
  isNameChar_of_isWordChar (isWordChar_of_isDigit digit)

theorem isNameChar_of_isAlpha (c : Char) (letter : c.isAlpha = true) : isNameChar c = true :=
  isNameChar_of_isWordChar (isWordChar_of_startsWord (startsWord_of_isAlpha letter))

/-! ## Shards of tables -/

/-- Each table gets a number behind its name; no name is one the grammar looks for, and none starts
like a number. -/
structure NamesShards (renamings : List Renaming) : Prop where
  suffix : ∀ entry ∈ renamings, ∃ digits : List Char, digits ≠ [] ∧
    (∀ d ∈ digits, d.isDigit = true) ∧ entry.new.toList = entry.old.toList ++ '_' :: digits
  unreserved : ∀ entry ∈ renamings, Keyword.lookup entry.old = none
  contextual : ∀ entry ∈ renamings, ∀ word ∈ ["IGNORE", "DUPLICATE", "KEY"],
    sameWord entry.old word = false
  starts : ∀ entry ∈ renamings, ∀ c, entry.old.toList.head? = some c → c.isDigit = false

section Renamed

variable {renamings : List Renaming}

theorem renamed_cases (renamings : List Renaming) (w : List Char) :
    renamed renamings w = w ∨ ∃ entry ∈ renamings,
      foldCase entry.old.toList = foldCase w ∧ renamed renamings w = entry.new.toList := by
  unfold renamed
  split
  · next entry found =>
      exact .inr ⟨entry, List.mem_of_find?_eq_some found,
        sameChars_iff.mp (by simpa using List.find?_some found), rfl⟩
  · exact .inl rfl

/-- A word by itself. -/
theorem renameText_alone {w : List Char} (nonempty : w ≠ [])
    (inside : ∀ c ∈ w, isNameChar c = true) :
    renameText renamings false w = renamed renamings w := by
  have whole := renameText_word renamings false nonempty inside endsName_nil
  rw [List.append_nil, renameText, List.append_nil] at whole
  rw [whole]
  rfl

theorem lookup_of_underscore {w : List Char} (underscore : '_' ∈ w) :
    Keyword.lookup (String.ofList w) = none := by
  cases found : Keyword.lookup (String.ofList w) with
  | none => rfl
  | some keyword =>
      have spelled := List.find?_some found
      simp only [beq_iff_eq, upperAscii, String.toList_ofList] at spelled
      have member : '_' ∈ keyword.spelling.toList := by
        rw [spelled, String.toList_ofList]
        exact List.mem_map.mpr ⟨'_', underscore, by decide⟩
      cases keyword <;> exact absurd member (by decide)

variable (shards : NamesShards renamings)
include shards

theorem renamed_of_lookup {w : List Char} {keyword : Keyword}
    (reserved : Keyword.lookup (String.ofList w) = some keyword) : renamed renamings w = w := by
  rcases renamed_cases renamings w with same | ⟨entry, member, same, _⟩
  · exact same
  · have unreserved := shards.unreserved entry member
    have upper : upperAscii entry.old = upperAscii (String.ofList w) := by
      simp only [upperAscii, String.toList_ofList, map_toUpper_eq same]
    rw [Keyword.lookup, upper] at unreserved
    rw [Keyword.lookup, unreserved] at reserved
    cases reserved

theorem renamed_of_digit {c : Char} {w : List Char} (digit : c.isDigit = true) :
    renamed renamings (c :: w) = c :: w := by
  rcases renamed_cases renamings (c :: w) with same | ⟨entry, member, same, _⟩
  · exact same
  · cases old : entry.old.toList with
    | nil =>
        rw [old] at same
        cases same
    | cons d rest =>
        have no_digit := shards.starts entry member d (by rw [old]; rfl)
        rw [old] at same
        simp only [foldCase, List.map_cons, List.cons.injEq] at same
        rcases eq_or_letters same.1 with rfl | ⟨_, letter⟩
        · rw [digit] at no_digit
          cases no_digit
        · have bounds := toNat_of_isDigit digit
          rw [isAlpha_iff] at letter
          omega

/-- A bare word becomes itself or another word, which is no reserved one. -/
theorem renamed_word {c : Char} {w : List Char} (starts : startsWord c = true)
    (bare : isBlank c = false) (inside : ∀ d ∈ w, isWordChar d = true) :
    renamed renamings (c :: w) = c :: w ∨ ∃ c' w', renamed renamings (c :: w) = c' :: w' ∧
      startsWord c' = true ∧ isBlank c' = false ∧ (∀ d ∈ w', isWordChar d = true) ∧ w' ≠ [] ∧
      Keyword.lookup (String.ofList (c' :: w')) = none := by
  rcases renamed_cases renamings (c :: w) with same | ⟨entry, member, same, new⟩
  · exact .inl same
  · obtain ⟨digits, nonempty, digit, spelled⟩ := shards.suffix entry member
    cases old : entry.old.toList with
    | nil =>
        rw [old] at same
        cases same
    | cons d rest =>
        rw [old] at same
        simp only [foldCase, List.map_cons, List.cons.injEq] at same
        obtain ⟨head, rest_same⟩ := same
        refine .inr ⟨d, rest ++ '_' :: digits, ?_, ?_, ?_, ?_, by simp, ?_⟩
        · rw [new, spelled, old, List.cons_append]
        · rwa [congr_of_letters (fun _ => startsWord_of_isAlpha) d c head]
        · have respects := congr_of_letters (p := fun c => !isBlank c) (fun c letter => by
            rw [isAlpha_iff] at letter
            simp only [isBlank, Bool.not_eq_true', Bool.or_eq_false_iff, Bool.and_eq_false_iff,
              decide_eq_false_iff_not, beq_eq_false_iff_ne]
            omega) d c head
          simpa [bare] using respects
        · intro e member
          rcases List.mem_append.mp member with before | behind
          · refine forall_of_foldCase_eq (congr_of_letters fun c letter => ?_) rest_same.symm
              inside e before
            exact isWordChar_of_startsWord (startsWord_of_isAlpha letter)
          · rcases List.mem_cons.mp behind with rfl | number
            · decide
            · exact isWordChar_of_isDigit (digit e number)
        · exact lookup_of_underscore (by simp)

/-- Renaming shows: it leaves a text as it is or puts an underscore into it. -/
theorem underscore_mem_renameText (afterPoint : Bool) (chars : List Char) :
    renameText renamings afterPoint chars = chars ∨
      '_' ∈ renameText renamings afterPoint chars := by
  induction chars using words_induction generalizing afterPoint with
  | nil => exact .inl (by rw [renameText])
  | other c rest other ih =>
      rw [renameText_other _ _ _ other]
      rcases ih (c == '.') with same | member
      · exact .inl (by rw [same])
      · exact .inr (List.mem_cons_of_mem _ member)
  | word w others nonempty inside stop ih =>
      rw [renameText_word _ _ nonempty inside stop]
      have here : renamedWord renamings afterPoint w others = w ∨
          '_' ∈ renamedWord renamings afterPoint w others := by
        unfold renamedWord
        split
        · exact .inl rfl
        · rcases renamed_cases renamings w with same | ⟨entry, member, _, new⟩
          · exact .inl same
          · obtain ⟨digits, _, _, spelled⟩ := shards.suffix entry member
            exact .inr (by rw [new, spelled]; simp)
      rcases here with same | member
      · rcases ih false with rest_same | member
        · exact .inl (by rw [same, rest_same])
        · exact .inr (List.mem_append_right _ member)
      · exact .inr (List.mem_append_left _ member)

/-- A word of letters that no table is named by is the same before and after. -/
theorem sameChars_renameText {word : List Char} (letters : ∀ c ∈ word, c.isAlpha = true)
    (nonempty : word ≠ []) (other : ∀ entry ∈ renamings, sameChars entry.old.toList word = false)
    (name : List Char) :
    sameChars (renameText renamings false name) word = sameChars name word := by
  have name_chars {chars : List Char} (same : foldCase chars = foldCase word) :
      ∀ c ∈ chars, isNameChar c = true :=
    forall_of_foldCase_eq (congr_of_letters isNameChar_of_isAlpha) same.symm
      fun c member => isNameChar_of_isAlpha c (letters c member)
  have kept (same : foldCase name = foldCase word) : renameText renamings false name = name := by
    have name_nonempty : name ≠ [] := by
      rintro rfl
      cases word with
      | nil => exact nonempty rfl
      | cons c word => cases same
    rw [renameText_alone name_nonempty (name_chars same)]
    rcases renamed_cases renamings name with unchanged | ⟨entry, member, old_same, _⟩
    · exact unchanged
    · have conflict := other entry member
      rw [sameChars_iff.mpr (old_same.trans same)] at conflict
      cases conflict
  rw [Bool.eq_iff_iff, sameChars_iff, sameChars_iff]
  constructor
  · intro same
    -- A renamed name has an underscore, and the word has letters only.
    rcases underscore_mem_renameText shards false name with unchanged | member
    · rwa [unchanged] at same
    · have letter := forall_of_foldCase_eq (p := Char.isAlpha) (congr_of_letters fun _ => id)
        same.symm letters '_' member
      cases letter
  · intro same
    rw [kept same, same]

end Renamed

/-! ## The respelling -/

section Spelling

variable {renamings : List Renaming}

/-- The renamings of words in upper case. -/
def upperNames (renamings : List Renaming) : List Renaming :=
  renamings.map fun entry => ⟨entry.old, upperAscii entry.new⟩

theorem isNameChar_toUpper (c : Char) : isNameChar c.toUpper = isNameChar c :=
  congr_of_letters isNameChar_of_isAlpha _ _ (toLower_toUpper c)

theorem isNameChar_map_toUpper {w : List Char} (inside : ∀ c ∈ w, isNameChar c = true) :
    ∀ c ∈ w.map Char.toUpper, isNameChar c = true := by
  intro c member
  obtain ⟨d, d_member, rfl⟩ := List.mem_map.mp member
  rw [isNameChar_toUpper]
  exact inside d d_member

theorem renamed_upper (w : List Char) :
    renamed (upperNames renamings) (w.map Char.toUpper) =
      (renamed renamings w).map Char.toUpper := by
  have matching : (fun entry : Renaming => sameChars entry.old.toList (w.map Char.toUpper)) =
      fun entry => sameChars entry.old.toList w := by
    funext entry
    rw [sameChars, foldCase_map_toUpper, sameChars]
  unfold renamed
  rw [matching, upperNames, List.find?_map]
  simp only [Function.comp_def]
  cases renamings.find? fun entry => sameChars entry.old.toList w with
  | none => rfl
  | some entry => simp [upperAscii]

theorem toUpper_eq_point {c : Char} : c.toUpper = '.' ↔ c = '.' := by
  constructor
  · intro upper
    have same := toLower_toUpper c
    rw [upper] at same
    rcases eq_or_letters same with rfl | ⟨letter, _⟩
    · rfl
    · cases letter
  · rintro rfl
    decide

theorem renameText_upper (afterPoint : Bool) (chars : List Char) :
    renameText (upperNames renamings) afterPoint (chars.map Char.toUpper) =
      (renameText renamings afterPoint chars).map Char.toUpper := by
  induction chars using words_induction generalizing afterPoint with
  | nil => simp [renameText]
  | other c rest other ih =>
      have point : (c.toUpper == '.') = (c == '.') := by
        rw [Bool.eq_iff_iff, beq_iff_eq, beq_iff_eq, toUpper_eq_point]
      rw [List.map_cons, renameText_other _ _ _ (by rwa [isNameChar_toUpper]),
        renameText_other _ _ _ other, ih, point, List.map_cons]
  | word w others nonempty inside stop ih =>
      have stop' : EndsName (others.map Char.toUpper) := by
        intro c head
        rw [List.head?_map, Option.map_eq_some_iff] at head
        obtain ⟨d, head, rfl⟩ := head
        rw [isNameChar_toUpper]
        exact stop d head
      have point : (others.map Char.toUpper).head? = some '.' ↔ others.head? = some '.' := by
        rw [List.head?_map]
        cases others.head? <;> simp [toUpper_eq_point]
      have word : renamedWord (upperNames renamings) afterPoint (w.map Char.toUpper)
          (others.map Char.toUpper) =
            (renamedWord renamings afterPoint w others).map Char.toUpper := by
        simp only [renamedWord, ne_eq, point, renamed_upper]
        split <;> rfl
      rw [List.map_append, renameText_word _ _ (by simpa using nonempty)
        (isNameChar_map_toUpper inside) stop', renameText_word _ _ nonempty inside stop, ih, word,
        List.map_append]

/-- Renaming leaves numbers as they are, whatever stands between them. -/
theorem renameText_numbers (shards : NamesShards renamings) (afterPoint : Bool)
    {chars : List Char} (numbers : ∀ c ∈ chars, isNameChar c = true → c.isDigit = true) :
    renameText renamings afterPoint chars = chars := by
  induction chars using words_induction generalizing afterPoint with
  | nil => rw [renameText]
  | other c rest other ih =>
      rw [renameText_other _ _ _ other, ih _ fun d member =>
        numbers d (List.mem_cons_of_mem _ member)]
  | word w others nonempty inside stop ih =>
      have kept : renamed renamings w = w := by
        cases w with
        | nil => exact absurd rfl nonempty
        | cons c w =>
            exact renamed_of_digit shards (numbers c (by simp) (inside c (List.mem_cons_self ..)))
      rw [renameText_word _ _ nonempty inside stop, ih _ fun d member =>
        numbers d (List.mem_append_right _ member), renamedWord, kept, ite_self]

theorem mem_joined {separator : String} {texts : List String} {c : Char}
    (member : c ∈ (joined separator texts).toList) :
    c ∈ separator.toList ∨ ∃ text ∈ texts, c ∈ text.toList := by
  induction texts with
  | nil => simp [joined] at member
  | cons text rest ih =>
      cases rest with
      | nil => exact .inr ⟨text, by simp, by simpa [joined] using member⟩
      | cons next rest =>
          rw [joined, String.intercalate_cons_cons, String.toList_append, String.toList_append,
            List.mem_append, List.mem_append] at member
          rcases member with (here | between) | later
          · exact .inr ⟨text, by simp, here⟩
          · exact .inl between
          · rcases ih later with between | ⟨other, other_member, found⟩
            · exact .inl between
            · exact .inr ⟨other, List.mem_cons_of_mem _ other_member, found⟩

theorem renameText_reserved (shards : NamesShards renamings) (word : Keyword) :
    renameText renamings false word.spelling.toList = word.spelling.toList := by
  have letters : ∀ c ∈ word.spelling.toList, c.isAlpha = true :=
    List.all_eq_true.mp (by cases word <;> decide)
  have lookup : Keyword.lookup (String.ofList word.spelling.toList) = some word := by
    rw [String.ofList_toList]
    cases word <;> decide
  rw [renameText_alone (by cases word <;> decide)
    fun c member => isNameChar_of_isAlpha c (letters c member), renamed_of_lookup shards lookup]

theorem renameText_upperAscii (word : String) :
    renameText (upperNames renamings) false (upperAscii word).toList =
      (upperAscii (String.ofList (renameText renamings false word.toList))).toList := by
  simp only [upperAscii, String.toList_ofList, renameText_upper]

/-- Words with blanks between them are renamed one by one. -/
theorem renameText_joined_upper (words : List String) :
    renameText (upperNames renamings) false (joined " " (words.map upperAscii)).toList =
      (joined " " (words.map fun word =>
        upperAscii (String.ofList (renameText renamings false word.toList)))).toList := by
  induction words with
  | nil => simp [joined, renameText]
  | cons first rest ih =>
      cases rest with
      | nil => simpa [joined] using renameText_upperAscii first
      | cons second rest =>
          simp only [List.map_cons, joined, String.intercalate_cons_cons, String.toList_append]
            at ih ⊢
          rw [List.append_assoc, show " ".toList = [' '] from rfl, List.singleton_append,
            renameText_append _ _ _ _ (by decide) (by decide), renameText_upperAscii, ih,
            List.append_assoc, List.singleton_append]

theorem mem_joined_sizes {sizes : List Int} {c : Char}
    (member : c ∈ (joined "," (sizes.map intText)).toList) :
    c = ',' ∨ c = '-' ∨ c.isDigit = true := by
  rcases mem_joined member with comma | ⟨text, text_member, found⟩
  · exact .inl (by simpa using comma)
  · obtain ⟨n, _, rfl⟩ := List.mem_map.mp text_member
    exact .inr (mem_intText found)

theorem upper_joined_sizes (sizes : List Int) :
    (joined "," (sizes.map intText)).toList.map Char.toUpper =
      (joined "," (sizes.map intText)).toList := by
  refine (List.map_congr_left fun c member => ?_).trans (List.map_id _)
  rcases mem_joined_sizes member with rfl | rfl | digit
  · decide
  · decide
  · have bounds := toNat_of_isDigit digit
    rw [id_eq, ← Char.toNat_inj, toNat_toUpper, if_neg (by omega)]

/-- The sizes of a type hold no word that could be renamed. -/
theorem renameText_joined_sizes (shards : NamesShards renamings) (sizes : List Int) :
    renameText (upperNames renamings) false (joined "," (sizes.map intText)).toList =
      (joined "," (sizes.map intText)).toList := by
  rw [← upper_joined_sizes, renameText_upper, renameText_numbers shards]
  intro c member name
  rcases mem_joined_sizes member with rfl | rfl | digit
  · cases name
  · cases name
  · exact digit

/-- The type of a cast, renamed where its words are. -/
theorem renameText_typeText (shards : NamesShards renamings) (words : List String)
    (sizes : Option (List Int)) :
    renameText (upperNames renamings) false (typeText (words.map upperAscii) sizes).toList =
      (typeText (words.map fun word =>
        upperAscii (String.ofList (renameText renamings false word.toList))) sizes).toList := by
  cases sizes with
  | none => exact renameText_joined_upper words
  | some sizes =>
      simp only [typeText, String.toList_append, List.append_assoc]
      rw [show "(".toList = ['('] from rfl, show ")".toList = [')'] from rfl,
        List.singleton_append, renameText_append _ _ _ _ (by decide) (by decide),
        renameText_append _ _ _ _ (by decide) (by decide), renameText_joined_upper,
        renameText_joined_sizes shards, renameText]

/-- A name with its words renamed. -/
def renameName (renamings : List Renaming) (name : String) : String :=
  String.ofList (renameText renamings false name.toList)

/-- Tables renamed, as another spelling of names. -/
def shardSpelling (shards : NamesShards renamings) : Respelling where
  name := renameName renamings
  type := renameName (upperNames renamings)
  reserved word := by rw [renameName, renameText_reserved shards, String.ofList_toList]
  contextual word contextual name := by
    have letters : ∀ c ∈ word.toList, c.isAlpha = true := by
      simp only [List.mem_cons, List.not_mem_nil, or_false] at contextual
      rw [← List.all_eq_true]
      rcases contextual with rfl | rfl | rfl <;> decide
    have nonempty : word.toList ≠ [] := by
      simp only [List.mem_cons, List.not_mem_nil, or_false] at contextual
      rcases contextual with rfl | rfl | rfl <;> decide
    rw [sameWord, renameName, String.toList_ofList]
    exact sameChars_renameText shards letters nonempty
      (fun entry member => shards.contextual entry member word contextual) name.toList
  types words sizes := by
    rw [renameName, renameText_typeText shards, String.ofList_toList]
    rfl

end Spelling

end ShardedSql
