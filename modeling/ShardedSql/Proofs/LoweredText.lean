import ShardedSql.Proofs.LetterFold
import ShardedSql.Text.LetterCase

/-!
What lower-casing leaves. No case mapping leads to a character that has a lower case of its own, so
a text in lower case stays as it is. Main statements: lower-casing twice is lower-casing once, no
capital is left for the folding of ASCII letters, and a text that folds to one in lower case has it
as its lower case.
-/

namespace ShardedSql.Text

/-! ## Case mappings -/

/-- No code point of this run is mapped to one of the other. -/
def CaseRun.avoids (run other : CaseRun) : Bool :=
  Nat.blt (run.last + run.offset).toNat other.first ||
    Nat.blt other.last (run.first + run.offset).toNat ||
    -- In steps of two, the runs may lie side by side.
    (run.step == 2 || run.first == run.last) && other.step == 2 &&
      (run.first + run.offset - other.first) % 2 == 1

theorem CaseRun.holds_eq_false {run other : CaseRun} (avoids : run.avoids other = true) {n m : Nat}
    (held : run.holds n = true) (moved : (m : Int) = n + run.offset) : other.holds m = false := by
  simp only [holds, Bool.and_eq_true, decide_eq_true_eq, beq_iff_eq] at held
  obtain ⟨⟨low, high⟩, stepped⟩ := held
  rw [Bool.eq_false_iff]
  intro holds
  simp only [CaseRun.holds, Bool.and_eq_true, decide_eq_true_eq, beq_iff_eq] at holds
  obtain ⟨⟨low', high'⟩, stepped'⟩ := holds
  simp only [CaseRun.avoids, Bool.or_eq_true, Bool.and_eq_true, Nat.blt_eq, beq_iff_eq] at avoids
  rcases avoids with (before | behind) | ⟨⟨even | single, even'⟩, odd⟩
  · omega
  · omega
  · rw [even] at stepped
    rw [even'] at stepped'
    omega
  · rw [even'] at stepped'
    omega

/-- The code points with a lower case of their own: ASCII capitals, the dotted I, and the runs. -/
def capitalRuns : List CaseRun :=
  ⟨0x41, 0x5A, 1, 32⟩ :: ⟨0x130, 0x130, 1, 0⟩ :: lowerRuns.toList

theorem avoids_capitalRuns {run other : CaseRun} (member : run ∈ lowerRuns.toList)
    (capital : other ∈ capitalRuns) : run.avoids other = true := by
  have all : (lowerRuns.toList.all fun run => capitalRuns.all run.avoids) = true := by
    decide +kernel
  exact List.all_eq_true.mp (List.all_eq_true.mp all run member) other capital

/-! ## Characters in lower case -/

/-- Lower-casing leaves the character as it is. -/
def Settled (c : Char) : Prop :=
  c ≠ capitalSigma ∧ lowerChar c = [c]

instance (c : Char) : Decidable (Settled c) :=
  inferInstanceAs (Decidable (_ ∧ _))

theorem settled_of_small {c : Char} (small : ∀ run ∈ capitalRuns, run.holds c.toNat = false) :
    Settled c := by
  constructor
  · rintro rfl
    obtain ⟨run, member, holds⟩ : ∃ run ∈ capitalRuns, run.holds capitalSigma.toNat = true := by
      decide +kernel
    simp [small run member] at holds
  · have ascii : ¬ (0x41 ≤ c.toNat ∧ c.toNat ≤ 0x5A) := by
      simpa [CaseRun.holds, Nat.mod_one] using small ⟨0x41, 0x5A, 1, 32⟩ (by simp [capitalRuns])
    have dotted : c.toNat ≠ 0x130 := by
      intro same
      simpa [CaseRun.holds, same] using small ⟨0x130, 0x130, 1, 0⟩ (by simp [capitalRuns])
    unfold lowerChar
    split
    · rw [List.singleton_inj, ← Char.toNat_inj, toNat_toLower, if_neg ascii]
    · have none : lowerRuns.find? (·.holds c.toNat) = none := by
        rw [Array.find?_eq_none]
        intro run member
        simp [small run (by simp [capitalRuns, member])]
      rw [if_neg (by simpa using dotted), shiftCase, none]

/-- The characters that lower-casing writes by name, and the one for no character. -/
def namedCharacters : List Char :=
  [Char.ofNat 0, 'i', Char.ofNat 0x307, smallSigma, finalSigma]

theorem settled_named {c : Char} (named : c ∈ namedCharacters) : Settled c := by
  have all : (namedCharacters.all fun c => capitalRuns.all (!·.holds c.toNat)) = true := by
    decide +kernel
  refine settled_of_small fun run member => ?_
  simpa using List.all_eq_true.mp (List.all_eq_true.mp all c named) run member

/-- A number that is no code point is taken for zero. -/
theorem toNat_ofNat_cases (n : Nat) : (Char.ofNat n).toNat = n ∨ Char.ofNat n = Char.ofNat 0 := by
  by_cases valid : n.isValidChar
  · left
    rw [Char.ofNat, dif_pos valid]
    rfl
  · right
    rw [Char.ofNat, dif_neg valid]
    rfl

/-- A mapping of a single character leads to one in lower case. -/
theorem settled_shiftCase {c : Char} (wide : 0x80 ≤ c.toNat) (other : c.toNat ≠ 0x130) :
    Settled (shiftCase lowerRuns c) := by
  unfold shiftCase
  split
  · next run found =>
      have member : run ∈ lowerRuns.toList :=
        Array.mem_toList_iff.mpr (Array.mem_of_find?_eq_some found)
      have held := Array.find?_some found
      have nul : Settled (Char.ofNat 0) := settled_named (by simp [namedCharacters])
      rcases toNat_ofNat_cases (c.toNat + run.offset).toNat with code | none
      · by_cases moved : 0 ≤ c.toNat + run.offset
        · refine settled_of_small fun other capital => ?_
          refine CaseRun.holds_eq_false (avoids_capitalRuns member capital) held ?_
          omega
        · rwa [Int.toNat_of_nonpos (by omega)]
      · rwa [none]
  · next none =>
      refine settled_of_small fun run capital => ?_
      simp only [capitalRuns, List.mem_cons] at capital
      rcases capital with rfl | rfl | member
      · simp [CaseRun.holds]
        omega
      · simp [CaseRun.holds, Nat.mod_one]
        omega
      · have passed := Array.find?_eq_none.mp none run (Array.mem_toList_iff.mp member)
        simpa using passed

theorem settled_of_mem_lowerChar {c d : Char} (member : d ∈ lowerChar c) : Settled d := by
  unfold lowerChar at member
  split at member
  · next ascii =>
      rw [List.mem_singleton.mp member]
      constructor
      · intro sigma
        have code := congrArg Char.toNat sigma
        rw [toNat_toLower] at code
        have : capitalSigma.toNat = 0x3A3 := by decide
        split at code <;> omega
      · rw [lowerChar, toLower_toLower, if_pos]
        rw [toNat_toLower]
        split <;> omega
  · next wide =>
      split at member
      · refine settled_named (List.mem_cons_of_mem _ ?_)
        exact List.mem_append_left [smallSigma, finalSigma] member
      · next dotted =>
          rw [List.mem_singleton.mp member]
          exact settled_shiftCase (by omega) (by simpa using dotted)

theorem settled_of_mem_lowerAfter {before chars : List Char} {d : Char}
    (member : d ∈ lowerAfter before chars) : Settled d := by
  induction chars generalizing before with
  | nil => cases member
  | cons c rest ih =>
      rw [lowerAfter] at member
      rcases List.mem_append.mp member with here | later
      · by_cases sigma : c = capitalSigma
        · rw [if_pos (by simp [sigma])] at here
          apply settled_named
          split at here <;> simp [namedCharacters, List.mem_singleton.mp here]
        · rw [if_neg (by simpa using sigma)] at here
          exact settled_of_mem_lowerChar here
      · exact ih later

theorem Settled.toLower_eq {c : Char} (settled : Settled c) : c.toLower = c := by
  by_cases ascii : c.toNat < 0x80
  · have lower := settled.2
    rwa [lowerChar, if_pos ascii, List.singleton_inj] at lower
  · rw [← Char.toNat_inj, toNat_toLower, if_neg (by omega)]

/-! ## Texts -/

/-- A text without capitals beyond ASCII is folded. -/
theorem lowerAfter_eq_foldCase {before chars : List Char}
    (folds : ∀ c ∈ chars, c ≠ capitalSigma ∧ lowerChar c = [c.toLower]) :
    lowerAfter before chars = foldCase chars := by
  induction chars generalizing before with
  | nil => rfl
  | cons c rest ih =>
      obtain ⟨other, lower⟩ := folds c (List.mem_cons_self ..)
      simp only [lowerAfter, beq_iff_eq, other, if_false, lower,
        ih fun d member => folds d (List.mem_cons_of_mem _ member)]
      rfl

theorem foldCase_lowerCase (text : String) :
    foldCase (lowerCase text).toList = (lowerCase text).toList := by
  rw [lowerCase, String.toList_ofList]
  refine (List.map_congr_left fun c member => ?_).trans (List.map_id _)
  exact (settled_of_mem_lowerAfter member).toLower_eq

/-- A text that is one in lower case but for ASCII capitals has it as its lower case. -/
theorem lowerCase_of_foldCase {name text : String}
    (same : foldCase name.toList = (lowerCase text).toList) : lowerCase name = lowerCase text := by
  rw [← String.toList_inj, ← same, lowerCase, String.toList_ofList]
  refine lowerAfter_eq_foldCase fun c member => ?_
  by_cases ascii : c.toNat < 0x80
  · refine ⟨?_, by rw [lowerChar, if_pos ascii]⟩
    rintro rfl
    exact absurd ascii (by decide)
  · -- Beyond ASCII the character is one of the lower case itself.
    have fixed : c.toLower = c := by
      rw [← Char.toNat_inj, toNat_toLower, if_neg (by omega)]
    have inside : c ∈ (lowerCase text).toList := by
      rw [← same, foldCase]
      exact List.mem_map.mpr ⟨c, member, fixed⟩
    rw [lowerCase, String.toList_ofList] at inside
    obtain ⟨other, lower⟩ := settled_of_mem_lowerAfter inside
    exact ⟨other, by rw [fixed, lower]⟩

theorem lowerCase_lowerCase (text : String) : lowerCase (lowerCase text) = lowerCase text :=
  lowerCase_of_foldCase (foldCase_lowerCase text)

/-- A character has a lower case of at least one. -/
theorem one_le_lowerChar (c : Char) : 1 ≤ (lowerChar c).length := by
  unfold lowerChar
  split
  · exact Nat.le_refl _
  · split
    · exact Nat.le_succ _
    · exact Nat.le_refl _

theorem length_le_lowerAfter (before chars : List Char) :
    chars.length ≤ (lowerAfter before chars).length := by
  induction chars generalizing before with
  | nil => exact Nat.zero_le _
  | cons c rest ih =>
      have later := ih (c :: before)
      rw [lowerAfter, List.length_append, List.length_cons]
      split
      · split <;> simp only [List.length_singleton] <;> omega
      · have here := one_le_lowerChar c
        omega

end ShardedSql.Text
