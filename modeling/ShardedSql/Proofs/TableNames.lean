import ShardedSql.Proofs.LexedSegments
import ShardedSql.Proofs.PlainNames

/-!
When two names are one table. A router is found by the lower case of a name in every script, a table
is bound to it and renamed by a comparison that only ignores the case of ASCII letters. Main
statement: the three agree on a name exactly if it is another table, or lower-casing it changes
ASCII letters alone.
-/

namespace ShardedSql

open Sql Text Segment

/-! ## Words replaced in code -/

/-- Where a word of code may name a table: no name goes on into it or out of it, and if a point
stands before it, one stands behind it. -/
structure NamesTable (front back : List Char) : Prop where
  starts : ∀ c, front.getLast? = some c → isNameChar c = false
  ends : EndsName back
  no_column : front.getLast? = some '.' → back.head? = some '.'

/-- The new name takes the place of the word wherever that may name a table in code. -/
def Replaces (entry : Renaming) (word : String) : Prop :=
  ∀ sql before front back after,
    segments sql.toList = before ++ ⟨.code, front ++ word.toList ++ back⟩ :: after →
    NamesTable front back →
    renameWords [entry] sql = String.ofList (before.flatMap (rename [entry]) ++
      (renameText [entry] false front ++ entry.new.toList ++
        renameText [entry] false back) ++ after.flatMap (rename [entry]))

theorem renameText_around (renamings : List Renaming) {afterPoint : Bool}
    {front word back : List Char} (nonempty : word ≠ [])
    (inside : ∀ c ∈ word, isNameChar c = true) (free : NamesTable front back)
    (first : front = [] → afterPoint = true → back.head? = some '.') :
    renameText renamings afterPoint (front ++ word ++ back) =
      renameText renamings afterPoint front ++ renamed renamings word ++
        renameText renamings false back := by
  induction front using words_induction generalizing afterPoint with
  | nil =>
      have looked : renamedWord renamings afterPoint word back = renamed renamings word := by
        cases point : afterPoint with
        | false => rfl
        | true => simp [renamedWord, first rfl point]
      rw [List.nil_append, renameText_word _ _ nonempty inside free.ends, looked, renameText,
        List.nil_append]
  | other c rest mark ih =>
      have later : NamesTable rest back := by
        refine ⟨fun d last => free.starts d ?_, free.ends, fun last => free.no_column ?_⟩ <;>
          simp [List.getLast?_cons, last]
      have again : rest = [] → (c == '.') = true → back.head? = some '.' := by
        rintro rfl point
        exact free.no_column (by simpa using point)
      rw [List.cons_append, List.cons_append, renameText_other _ _ _ mark,
        renameText_other _ _ _ mark, ih later again, List.cons_append, List.cons_append]
  | word w others full names stop ih =>
      -- The word itself does not go on, so that something stands between.
      cases others with
      | nil =>
          have mark := free.starts (w.getLast full) (by simp [List.getLast?_eq_some_getLast full])
          rw [names _ (List.getLast_mem full)] at mark
          cases mark
      | cons d others =>
          have later : NamesTable (d :: others) back := by
            refine ⟨fun e last => free.starts e ?_, free.ends, fun last => free.no_column ?_⟩ <;>
              simp [List.getLast?_append, last]
          have stop' : EndsName ((d :: others) ++ (word ++ back)) := fun e head => stop e head
          have same : renamedWord renamings afterPoint w ((d :: others) ++ (word ++ back)) =
              renamedWord renamings afterPoint w (d :: others) := rfl
          rw [List.append_assoc, List.append_assoc, renameText_word _ _ full names stop', same,
            renameText_word _ _ full names stop, ← List.append_assoc (d :: others),
            ih later (fun none => absurd none (List.cons_ne_nil _ _))]
          simp only [List.append_assoc]

/-- A word is replaced exactly if it is the old name but for the case of ASCII letters. -/
theorem replaces_iff {entry : Renaming} {word : String} (nonempty : word.toList ≠ [])
    (inside : ∀ c ∈ word.toList, isNameChar c = true) (differs : entry.new ≠ word) :
    Replaces entry word ↔ sameChars entry.old.toList word.toList = true := by
  constructor
  · intro replaces
    by_contra other
    have kept : renamed [entry] word.toList = word.toList := by
      simp [renamed, other]
    have alone : segments word.toList = [⟨.code, word.toList⟩] := by
      have unopened : Unopened [] word.toList :=
        unopened_of_forall fun c member => ne_mark_of_isNameChar (inside c member)
      have whole := segments_of_unopened nonempty unopened
      rwa [List.append_nil, segments] at whole
    have free : NamesTable [] [] := ⟨by simp, endsName_nil, by simp⟩
    have replaced := replaces word [] [] [] [] (by simpa using alone) free
    refine differs (String.toList_inj.mp ?_)
    rw [renameWords, alone, String.ofList_inj] at replaced
    simp [rename, renameText_alone nonempty inside, kept, renameText] at replaced
    exact replaced.symm
  · intro same sql before front back after cut free
    have new : renamed [entry] word.toList = entry.new.toList := by
      simp [renamed, same]
    have code : rename [entry] ⟨.code, front ++ word.toList ++ back⟩ =
        renameText [entry] false front ++ entry.new.toList ++ renameText [entry] false back := by
      rw [← new]
      exact renameText_around [entry] nonempty inside free fun _ point => absurd point Bool.false_ne_true
    rw [renameWords, cut, List.flatMap_append, List.flatMap_cons, code]
    simp only [List.append_assoc]

/-! ## Three comparisons -/

theorem RouterTable.table_of_get? {routers : RouterTable} {router : Router} {name : String}
    (found : routers.get? name = some router) : router.table = lowerCase name := by
  simpa using List.find?_some found

/-- The routers of a single table. -/
def RouterTable.single (table : String) (strategy : Strategy) : RouterTable :=
  .insert .empty (.ofTable table strategy)

theorem RouterTable.single_get? (table : String) (strategy : Strategy) :
    (single table strategy).get? table = some (.ofTable table strategy) := by
  simp [single, get?, find?, insert, empty, Router.ofTable]

section Names

variable {routers : RouterTable} {router : Router} {table name : String}

/-- The router of a table is found for the names that are the table in lower case. -/
theorem RouterTable.get?_lowerCase_iff (configured : routers.get? table = some router) :
    routers.get? (lowerCase name) = some router ↔ lowerCase name = lowerCase table := by
  constructor
  · intro found
    rw [← table_of_get? configured, table_of_get? found, lowerCase_lowerCase]
  · intro same
    rwa [same, get?, lowerCase_lowerCase]

theorem Router.owns_iff (own : router.table = lowerCase table) {label : Option String} :
    router.owns ⟨name, label⟩ = true ↔ lowerAscii name = lowerCase table := by
  rw [owns, own, sameWord, sameChars_iff, foldCase_lowerCase, ← String.toList_inj, lowerAscii,
    String.toList_ofList]

/-- The name that a plan has for a word is longer on a shard, so that replacing it shows. -/
theorem physicalName_lowerCase_ne (name suffix : String) :
    physicalName (lowerCase name) suffix ≠ name := by
  intro same
  have lengths := congrArg (fun text => text.toList.length) same
  have longer := length_le_lowerAfter [] name.toList
  simp only [toList_physicalName, lowerCase, String.toList_ofList, List.length_append,
    List.length_cons] at lengths
  omega

theorem replaces_lowerCase_iff {suffix : String} (nonempty : name.toList ≠ [])
    (inside : ∀ c ∈ name.toList, isNameChar c = true) :
    Replaces ⟨lowerCase name, physicalName (lowerCase name) suffix⟩ name ↔
      lowerCase name = lowerAscii name := by
  rw [replaces_iff nonempty inside (physicalName_lowerCase_ne name suffix), sameChars_iff,
    foldCase_lowerCase, ← String.toList_inj, lowerAscii, String.toList_ofList]

/-- The router of a table is found for a name exactly if both have one lower case; it takes the name
for its table and the renamer finds the word exactly if, moreover, lower-casing the name changes
ASCII letters alone. So the two agree exactly if the name is another table, or is lower-cased in
this way. -/
theorem RouterTable.found_iff_owned_iff (configured : routers.get? table = some router)
    (nonempty : name.toList ≠ []) (inside : ∀ c ∈ name.toList, isNameChar c = true)
    (label : Option String) (suffix : String) :
    (routers.get? (lowerCase name) = some router ↔ lowerCase name = lowerCase table) ∧
    (router.owns ⟨name, label⟩ = true ∧
        Replaces ⟨lowerCase name, physicalName (lowerCase name) suffix⟩ name ↔
      lowerCase name = lowerCase table ∧ lowerCase name = lowerAscii name) ∧
    ((routers.get? (lowerCase name) = some router ↔
        router.owns ⟨name, label⟩ = true ∧
          Replaces ⟨lowerCase name, physicalName (lowerCase name) suffix⟩ name) ↔
      (lowerCase name = lowerCase table → lowerCase name = lowerAscii name)) := by
  have found : routers.get? (lowerCase name) = some router ↔ lowerCase name = lowerCase table :=
    get?_lowerCase_iff configured
  have owned : router.owns ⟨name, label⟩ = true ↔ lowerAscii name = lowerCase table :=
    Router.owns_iff (table_of_get? configured)
  have replaced : Replaces ⟨lowerCase name, physicalName (lowerCase name) suffix⟩ name ↔
      lowerCase name = lowerAscii name := replaces_lowerCase_iff nonempty inside
  refine ⟨found, ?_, ?_⟩
  · rw [owned, replaced]
    exact and_congr_left fun same => by rw [same]
  · rw [found, owned, replaced]
    constructor
    · intro agree same
      exact (agree.mp same).2
    · intro ascii
      refine ⟨fun same => ⟨(ascii same).symm.trans same, ascii same⟩, fun both => ?_⟩
      exact both.2.trans both.1

end Names

/-- A capital S is an ASCII letter, and the umlaut is in lower case already. -/
theorem RouterTable.found_iff_owned_overview :
    (single "übersicht" (.value "id")).get? "übersicht" =
        some (.ofTable "übersicht" (.value "id")) ∧
      "überSicht".toList ≠ [] ∧ (∀ c ∈ "überSicht".toList, isNameChar c = true) ∧
      (single "übersicht" (.value "id")).get? (lowerCase "überSicht") =
        some (.ofTable "übersicht" (.value "id")) ∧
      (Router.ofTable "übersicht" (.value "id")).owns ⟨"überSicht", none⟩ = true ∧
      Replaces ⟨lowerCase "überSicht", physicalName (lowerCase "überSicht") "1"⟩ "überSicht" := by
  have configured := single_get? "übersicht" (.value "id")
  have nonempty : "überSicht".toList ≠ [] := by decide
  have inside : ∀ c ∈ "überSicht".toList, isNameChar c = true :=
    List.all_eq_true.mp (by decide +kernel)
  have same : lowerCase "überSicht" = lowerCase "übersicht" := by decide +kernel
  have ascii : lowerCase "überSicht" = lowerAscii "überSicht" := by decide +kernel
  obtain ⟨found, owned, _⟩ := found_iff_owned_iff configured nonempty inside none "1"
  exact ⟨configured, nonempty, inside, found.mpr same, owned.mpr ⟨same, ascii⟩⟩

/-- An umlaut in upper case: the router is found, but the name is not its table. -/
theorem RouterTable.found_unowned :
    ¬ ((single "über" (.value "id")).get? (lowerCase "ÜBER") =
          some (.ofTable "über" (.value "id")) ↔
        (Router.ofTable "über" (.value "id")).owns ⟨"ÜBER", none⟩ = true ∧
          Replaces ⟨lowerCase "ÜBER", physicalName (lowerCase "ÜBER") "1"⟩ "ÜBER") := by
  have same : lowerCase "ÜBER" = lowerCase "über" := by decide +kernel
  have other : lowerAscii "ÜBER" ≠ lowerCase "über" := by decide +kernel
  intro agree
  have found := (get?_lowerCase_iff (single_get? "über" (.value "id"))).mpr same
  exact other ((Router.owns_iff rfl).mp (agree.mp found).1)

end ShardedSql
