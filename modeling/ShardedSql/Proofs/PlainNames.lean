import ShardedSql.Proofs.LoweredText
import ShardedSql.Proofs.RenamedWords
import ShardedSql.Proofs.Suffixes
import ShardedSql.Rewrite

/-!
Plain names: words of which the grammar, the renamer and the list of tables make the same. Main
statements: a plain name in lower case is the name with its letters folded, and a table and its
number can be told apart again.
-/

namespace ShardedSql

open Numeric Sql Text Segment

/-- A character of words that has no capital but that of an ASCII letter. -/
def IsPlainChar (c : Char) : Prop :=
  isNameChar c = true ∧ c ≠ capitalSigma ∧ lowerChar c = [c.toLower]

instance (c : Char) : Decidable (IsPlainChar c) :=
  inferInstanceAs (Decidable (_ ∧ _ ∧ _))

/-- A word of plain characters. -/
def IsPlain (name : String) : Prop :=
  name.toList ≠ [] ∧ ∀ c ∈ name.toList, IsPlainChar c

instance (name : String) : Decidable (IsPlain name) :=
  have := List.decidableBAll IsPlainChar name.toList
  inferInstanceAs (Decidable (_ ∧ _))

theorem isPlainChar_of_ascii {c : Char} (name : isNameChar c = true) (ascii : c.toNat < 0x80) :
    IsPlainChar c := by
  refine ⟨name, ?_, by rw [lowerChar, if_pos ascii]⟩
  rintro rfl
  exact absurd ascii (by decide)

theorem isPlainChar_of_isDigit {c : Char} (digit : c.isDigit = true) : IsPlainChar c := by
  have bounds := toNat_of_isDigit digit
  exact isPlainChar_of_ascii (isNameChar_of_isDigit digit) (by omega)

theorem isPlainChar_toLower {c : Char} (plain : IsPlainChar c) : IsPlainChar c.toLower := by
  rcases eq_or_letters (toLower_toLower c) with same | ⟨letter, _⟩
  · rw [same]
    exact plain
  · exact isPlainChar_of_ascii (isNameChar_of_isAlpha _ letter) (toNat_of_isAlpha letter)

theorem IsPlain.lowerCase_eq {name : String} (plain : IsPlain name) :
    lowerCase name = lowerAscii name := by
  rw [lowerCase, lowerAfter_eq_foldCase fun c member => (plain.2 c member).2, lowerAscii]

theorem isPlain_lowerCase {name : String} (plain : IsPlain name) : IsPlain (lowerCase name) := by
  rw [plain.lowerCase_eq, lowerAscii, IsPlain, String.toList_ofList, foldCase]
  constructor
  · simpa using plain.1
  · intro c member
    obtain ⟨d, inside, rfl⟩ := List.mem_map.mp member
    exact isPlainChar_toLower (plain.2 d inside)

/-! ## Tables and their numbers -/

theorem toList_physicalName (table suffix : String) :
    (physicalName table suffix).toList = table.toList ++ '_' :: suffix.toList := by
  rw [physicalName, String.toList_append, String.toList_append, List.append_assoc]
  rfl

theorem physicalName_inj {table suffix other : String}
    (same : physicalName table suffix = physicalName table other) : suffix = other := by
  have chars := congrArg String.toList same
  rw [toList_physicalName, toList_physicalName] at chars
  exact String.toList_inj.mp (List.cons.inj (List.append_cancel_left chars)).2

theorem foldCase_of_isNumeric {suffix : String} (numeric : IsNumeric suffix) :
    foldCase suffix.toList = suffix.toList := by
  refine (List.map_congr_left fun c member => ?_).trans (List.map_id _)
  have bounds := toNat_of_isDigit (numeric.2 c member)
  rw [id_eq, ← Char.toNat_inj, toNat_toLower, if_neg (by omega)]

theorem isPlain_physicalName {table suffix : String} (plain : IsPlain table)
    (numeric : IsNumeric suffix) : IsPlain (physicalName table suffix) := by
  rw [IsPlain, toList_physicalName]
  constructor
  · simp
  · intro c member
    rcases List.mem_append.mp member with before | behind
    · exact plain.2 c before
    · rcases List.mem_cons.mp behind with rfl | digit
      · exact isPlainChar_of_ascii (by decide) (by decide)
      · exact isPlainChar_of_isDigit (numeric.2 c digit)

theorem foldCase_physicalName {table suffix : String} (numeric : IsNumeric suffix) :
    foldCase (physicalName table suffix).toList =
      foldCase table.toList ++ '_' :: suffix.toList := by
  rw [toList_physicalName, foldCase, List.map_append, List.map_cons, ← foldCase, ← foldCase,
    foldCase_of_isNumeric numeric]
  rfl

/-- A table is what stands before the last underscore of its shard's name. -/
theorem eq_of_append_underscore {left right first second : List Char}
    (first_digit : ∀ c ∈ first, c.isDigit = true) (second_digit : ∀ c ∈ second, c.isDigit = true)
    (same : left ++ '_' :: first = right ++ '_' :: second) : left = right := by
  have none : ¬ '_'.isDigit = true := by decide
  rcases List.append_eq_append_iff.mp same with ⟨between, rfl, shift⟩ | ⟨between, rfl, shift⟩
  · cases between with
    | nil => rw [List.append_nil]
    | cons c between =>
        rw [List.cons_append, List.cons.injEq] at shift
        exact absurd (first_digit _ (by simp [shift.2])) none
  · cases between with
    | nil => rw [List.append_nil]
    | cons c between =>
        rw [List.cons_append, List.cons.injEq] at shift
        exact absurd (second_digit _ (by simp [shift.2])) none

theorem foldCase_eq_of_sameWord_physicalName {left right first second : String}
    (first_numeric : IsNumeric first) (second_numeric : IsNumeric second)
    (same : sameWord (physicalName left first) (physicalName right second) = true) :
    foldCase left.toList = foldCase right.toList := by
  rw [sameWord, sameChars_iff, foldCase_physicalName first_numeric,
    foldCase_physicalName second_numeric] at same
  exact eq_of_append_underscore first_numeric.2 second_numeric.2 same

end ShardedSql
