import ShardedSql.Proofs.PlainNames
import ShardedSql.Proofs.RenamedTokens
import ShardedSql.Proofs.ShardStatements

/-!
The names of shards as tokens. Main statement: where tables have the strategies of the registry, the
shard of a table with a bare name has a name that is one identifier, if its number is a remainder or
a month; if its suffix is the text of a value, it is one exactly if word characters in this text are
followed by blanks and comments only.
-/

namespace ShardedSql

open Sql Text

/-! ## Bare names -/

/-- How a name is written: as it is, or quoted and longer. -/
theorem spelled_of_lexed {lexeme : Lexeme} {c : Char} {w tail : List Char}
    (lexed : Lexed lexeme (c :: w) tail) {name : String}
    (named : lexeme = .token (.identifier name)) :
    name.toList.length < (c :: w).length ∨
      name.toList = c :: w ∧ startsWord c = true ∧ isBlank c = false ∧
        ∀ d ∈ w, isWordChar d = true := by
  cases lexed with
  | quotedName opens run stop =>
      cases named
      rw [String.toList_ofList]
      exact .inl (Nat.lt_succ_of_lt run.length_lt)
  | word starts bare inside stop noBlob =>
      have spelled : name = String.ofList (c :: w) := by
        unfold wordKind at named
        split at named <;> cases named
        rfl
      exact .inr ⟨by rw [spelled, String.toList_ofList], starts, bare, inside⟩
  | number _ _ number =>
      obtain ⟨_, rfl⟩ | ⟨_, rfl⟩ | ⟨_, rfl⟩ := isNumeral_of_cutNumber number <;> cases named
  | _ => cases named

theorem length_le_of_mem_kindsIn {name : String} {chars : List Char}
    (member : .identifier name ∈ kindsIn chars) : name.toList.length ≤ chars.length := by
  rw [kindsIn] at member
  induction chars using lexed_induction with
  | nil => cases member
  | cons lexeme c w tail lexed ih =>
      rw [List.length_append]
      simp only [List.mem_filterMap, List.mem_cons] at member ih
      obtain ⟨piece, rfl | later, kind⟩ := member
      · have named : lexeme = .token (.identifier name) := by
          cases lexeme <;> cases kind
          rfl
        rcases spelled_of_lexed lexed named with shorter | ⟨spelled, _⟩
        · omega
        · rw [spelled]
          omega
      · exact Nat.le_trans (ih ⟨piece, later, kind⟩) (Nat.le_add_left ..)

/-- A name that can be written without quotes. -/
structure IsBareName (name : String) : Prop where
  nonempty : name.toList ≠ []
  starts : ∀ c, name.toList.head? = some c → startsWord c = true ∧ isBlank c = false
  inside : ∀ c ∈ name.toList, isWordChar c = true

/-- A name that is the only token of its own text is a bare word. -/
theorem isBareName_of_tokenKinds {name : String} (alone : tokenKinds name = [.identifier name]) :
    IsBareName name := by
  rw [tokenKinds_eq] at alone
  cases chars : name.toList with
  | nil =>
      rw [chars] at alone
      simp [kindsIn, lexemes] at alone
  | cons c rest =>
      have whole : rest = rest.take (cutAtHead c rest).extra ++ rest.drop (cutAtHead c rest).extra :=
        (List.take_append_drop ..).symm
      have lexed := lexed_cutAtHead c rest
      rw [chars, kindsIn_cons] at alone
      generalize (cutAtHead c rest).lexeme = lexeme at alone lexed
      generalize rest.take (cutAtHead c rest).extra = w at whole lexed
      generalize rest.drop (cutAtHead c rest).extra = tail at whole lexed alone
      have length : name.toList.length = 1 + w.length + tail.length := by
        rw [chars, whole]
        simp only [List.length_cons, List.length_append]
        omega
      cases kind : lexeme.kind? with
      -- The name is longer than what stands behind a blank or a comment.
      | none =>
          rw [kind, Option.toList_none, List.nil_append] at alone
          have behind : name.toList.length ≤ tail.length :=
            length_le_of_mem_kindsIn (by rw [alone]; exact List.mem_singleton_self _)
          omega
      | some found =>
          rw [kind, Option.toList_some, List.singleton_append, List.cons.injEq] at alone
          have named : lexeme = .token (.identifier name) := by
            rw [← alone.1]
            cases lexeme <;> cases kind
            rfl
          rcases spelled_of_lexed lexed named with shorter | ⟨spelled, starts, bare, inside⟩
          · simp only [List.length_cons] at shorter
            omega
          · refine ⟨by simp [spelled], ?_, ?_⟩
            · intro d head
              rw [spelled] at head
              cases head
              exact ⟨starts, bare⟩
            · intro d member
              rw [spelled] at member
              rcases List.mem_cons.mp member with rfl | later
              · exact isWordChar_of_startsWord starts
              · exact inside d later

/-! ## Names of shards -/

/-- The name of a shard starts with one identifier; the rest of the suffix stands behind it. -/
theorem tokenKinds_physicalName {table : String} (name : IsBareName table) (suffix : String) :
    tokenKinds (physicalName table suffix) =
      .identifier (table ++ "_" ++ String.ofList (suffix.toList.takeWhile isWordChar)) ::
        kindsIn (suffix.toList.dropWhile isWordChar) := by
  obtain ⟨c, w, spelled⟩ := List.exists_cons_of_ne_nil name.nonempty
  obtain ⟨starts, bare⟩ := name.starts c (by rw [spelled, List.head?_cons])
  have tail_words : ∀ d ∈ w ++ '_' :: suffix.toList.takeWhile isWordChar,
      isWordChar d = true := by
    intro d member
    rcases List.mem_append.mp member with before | behind
    · exact name.inside d (by rw [spelled]; exact List.mem_cons_of_mem _ before)
    · rcases List.mem_cons.mp behind with rfl | later
      · decide
      · exact List.mem_takeWhile_imp later
  have no_quote (d : Char) (head : (w ++ '_' :: suffix.toList.takeWhile isWordChar ++
      suffix.toList.dropWhile isWordChar).head? = some d) : isWordChar d = true := by
    refine tail_words d (List.mem_of_head? ?_)
    cases w <;> exact head
  have lexed : Lexed
      (.token (wordKind (c :: (w ++ '_' :: suffix.toList.takeWhile isWordChar))))
      (c :: (w ++ '_' :: suffix.toList.takeWhile isWordChar))
      (suffix.toList.dropWhile isWordChar) := by
    refine .word starts bare tail_words (fun d head => head?_dropWhile_of_some head) ?_
    intro _ quote
    exact absurd (no_quote _ quote) (by decide)
  have free : wordKind (c :: (w ++ '_' :: suffix.toList.takeWhile isWordChar)) =
      .identifier (table ++ "_" ++ String.ofList (suffix.toList.takeWhile isWordChar)) := by
    have same : String.ofList (c :: (w ++ '_' :: suffix.toList.takeWhile isWordChar)) =
        table ++ "_" ++ String.ofList (suffix.toList.takeWhile isWordChar) := by
      rw [← String.toList_inj]
      simp [spelled]
    rw [wordKind, lookup_of_underscore (by simp), same]
  have whole : (physicalName table suffix).toList =
      c :: (w ++ '_' :: suffix.toList.takeWhile isWordChar) ++
        suffix.toList.dropWhile isWordChar := by
    rw [toList_physicalName, spelled]
    simp [List.takeWhile_append_dropWhile]
  rw [tokenKinds_eq, whole, kindsIn_of_lexed lexed (by simpa using wordKind_ne_error _), free]
  rfl

theorem tokenKinds_numbered {table suffix : String} (name : IsBareName table)
    (numeric : IsNumeric suffix) :
    tokenKinds (physicalName table suffix) = [.identifier (physicalName table suffix)] := by
  have words : ∀ c ∈ suffix.toList, isWordChar c = true := fun c member =>
    isWordChar_of_isDigit (numeric.2 c member)
  rw [tokenKinds_physicalName name, List.takeWhile_eq_self_iff.mpr words,
    List.dropWhile_eq_nil_iff.mpr words, String.ofList_toList]
  simp [kindsIn, lexemes, physicalName]

/-- The name of a shard is one identifier exactly if no token stands behind the word characters that
its suffix starts with. -/
theorem single_physicalName_iff {table : String} (name : IsBareName table) (suffix : String) :
    (∃ shard, tokenKinds (physicalName table suffix) = [.identifier shard]) ↔
      kindsIn (suffix.toList.dropWhile isWordChar) = [] := by
  rw [tokenKinds_physicalName name]
  simp

/-! ## Strategies of the registry -/

namespace Strategy

/-- A strategy by remainders, by months or by values. -/
def BuiltIn : Strategy → Prop
  | .custom _ => False
  | .modulo _ _ _ | .month _ | .value _ => True

theorem BuiltIn.counts_or {strategy : Strategy} (builtIn : strategy.BuiltIn) :
    strategy.Counts ∨ ∃ column, strategy = .value column := by
  cases strategy with
  | modulo => exact .inl trivial
  | month => exact .inl trivial
  | value column => exact .inr ⟨column, rfl⟩
  | custom rule => exact builtIn.elim

theorem gives_keyText (column : String) :
    (Strategy.value column).Gives fun suffix => ∃ v, keyText? v = some suffix := by
  intro v suffixes found suffix member
  simp only [suffixesFor] at found
  split at found
  · cases found
    exact absurd member NameSet.not_mem_empty
  · cases text : keyText? v with
    | none => simp [text] at found
    | some shown =>
        simp only [text, Except.ok.injEq] at found
        rw [← found, mem_singleton] at member
        exact ⟨v, by rw [text, member]⟩

end Strategy

/-- The shards of a table that is shared out by values are named by texts of values. -/
theorem Router.keyText_of_mem_subTables {router : Router} {bindings : Bindings}
    {prepared : PreparedStatement} {suffixes : NameSet} {column : String}
    (values : router.strategy = .value column)
    (found : router.subTables bindings prepared = .ok suffixes) {suffix : String}
    (member : suffix ∈ suffixes) : ∃ v, Strategy.keyText? v = some suffix := by
  have gives : router.strategy.Gives fun suffix => ∃ v, Strategy.keyText? v = some suffix := by
    rw [values]
    exact Strategy.gives_keyText column
  refine mem_subTables gives (fun other listed => ?_) found suffix member
  rw [values] at listed
  exact absurd listed NameSet.not_mem_empty

namespace Rewriter

variable {rewriter : Rewriter} {bindings : Bindings} {prepared : PreparedStatement}

/-- The shard of a table with a bare name is one identifier if it has a number. If the text of a
value is its suffix, it is one exactly if no token stands behind the word characters at the start
of this text. -/
theorem physicalName_lexes
    (builtIn : ∀ router ∈ rewriter.routers.routers, router.strategy.BuiltIn) {rewrites : Rewrites}
    (rewritten : rewriter.rewrite bindings prepared = .ok rewrites) {s : ShardStatement}
    (member : s ∈ rewrites.toList) {entry : String × String} (inside : entry ∈ s.tables)
    (name : tokenKinds entry.1 = [.identifier entry.1]) :
    ∃ router, rewriter.routers.get? entry.1 = some router ∧
      (router.strategy.Counts ∧ tokenKinds entry.2 = [.identifier entry.2] ∨
        ∃ column v suffix, router.strategy = .value column ∧
          Strategy.keyText? v = some suffix ∧ entry.2 = physicalName entry.1 suffix ∧
          ((∃ shard, tokenKinds entry.2 = [.identifier shard]) ↔
            kindsIn (suffix.toList.dropWhile isWordChar) = [])) := by
  have bare := isBareName_of_tokenKinds name
  obtain ⟨suffix, ⟨_, router, suffixes, known, routed, found⟩, renamed⟩ :=
    (found_of_mem_rewrite rewritten member).2 entry inside
  refine ⟨router, known, ?_⟩
  rcases (builtIn router (List.mem_of_find?_eq_some known)).counts_or with
    counts | ⟨column, values⟩
  · have numeric := Router.isNumeric_of_mem_subTables counts routed found
    exact .inl ⟨counts, by rw [renamed]; exact tokenKinds_numbered bare numeric⟩
  · obtain ⟨v, text⟩ := Router.keyText_of_mem_subTables values routed found
    refine .inr ⟨column, v, suffix, values, text, renamed, ?_⟩
    rw [renamed]
    exact single_physicalName_iff bare suffix

/-- The table `t` by the value of `id`. -/
def byValue : Rewriter :=
  ⟨⟨[.ofTable "t" (.value "id")]⟩, false⟩

/-- A query over `t` for one `id`. -/
def oneId (sql value : String) : PreparedStatement :=
  ⟨.empty, sql, .select { Select.ofItems [⟨.wildcard none, none⟩] (some (.bare "t")) with
    condition := some (.binary (.column none "id" ⟨22, 24⟩) .eq (.literal (.string value))) }⟩

/-- The statement on the one shard of this `id`. -/
def onShard (sql value : String) : ShardStatement :=
  ⟨sql, 0, [("t", physicalName "t" value)]⟩

theorem physicalName_lexes_word :
    ∃ rewrites,
      PreparedStatement.ofText "SELECT * FROM t WHERE id = 'eu'" =
        .ok (oneId "SELECT * FROM t WHERE id = 'eu'" "eu") ∧
      byValue.rewrite .empty (oneId "SELECT * FROM t WHERE id = 'eu'" "eu") = .ok rewrites ∧
      onShard "SELECT * FROM t_eu WHERE id = 'eu'" "eu" ∈ rewrites.toList ∧
      ∃ shard, tokenKinds "t_eu" = [.identifier shard] := by
  have builtIn : ∀ router ∈ byValue.routers.routers, router.strategy.BuiltIn := by
    intro router member
    cases List.mem_singleton.mp member
    trivial
  let rewrites : Rewrites := ⟨"SELECT * FROM t WHERE id = 'eu'", [⟨"t", ["eu"]⟩], [0], 0, 1⟩
  have rewritten : byValue.rewrite .empty (oneId "SELECT * FROM t WHERE id = 'eu'" "eu") =
      .ok rewrites := by
    with_unfolding_all rfl
  have member : onShard "SELECT * FROM t_eu WHERE id = 'eu'" "eu" ∈ rewrites.toList := by
    decide +kernel
  refine ⟨rewrites, by with_unfolding_all rfl, rewritten, member, ?_⟩
  obtain ⟨router, known, ⟨counts, _⟩ | ⟨column, v, suffix, _, _, renamed, single⟩⟩ :=
    physicalName_lexes builtIn rewritten member (List.mem_singleton_self ("t", "t_eu"))
      (by decide +kernel)
  · obtain rfl : Router.ofTable "t" (.value "id") = router :=
      Option.some.inj ((show byValue.routers.get? "t" = _ by with_unfolding_all rfl).symm.trans known)
    exact counts.elim
  · have same : suffix.toList = "eu".toList := by
      have spelled := congrArg String.toList renamed
      rw [toList_physicalName] at spelled
      exact (List.cons.inj (List.cons.inj spelled).2).2.symm
    exact single.mpr (by rw [same]; decide +kernel)

/-- The table by the remainder of `id`, where the quotes belong to its name. -/
def quotedById : Rewriter :=
  ⟨⟨[.ofTable "\"t\"" (.modulo "id" 2 Nat.two_pos)]⟩, false⟩

/-- The text of a value may hold more than a name, and behind a quoted name the number of the shard
is a name of its own. -/
theorem physicalName_splits :
    (∃ rewrites,
      PreparedStatement.ofText "SELECT * FROM t WHERE id = '1; DROP TABLE u'" =
        .ok (oneId "SELECT * FROM t WHERE id = '1; DROP TABLE u'" "1; DROP TABLE u") ∧
      byValue.rewrite .empty
        (oneId "SELECT * FROM t WHERE id = '1; DROP TABLE u'" "1; DROP TABLE u") = .ok rewrites ∧
      onShard "SELECT * FROM t_1; DROP TABLE u WHERE id = '1; DROP TABLE u'" "1; DROP TABLE u" ∈
        rewrites.toList ∧
      tokenKinds "t" = [.identifier "t"] ∧
      ∀ shard, tokenKinds (physicalName "t" "1; DROP TABLE u") ≠ [.identifier shard]) ∧
    ∃ prepared rewrites,
      PreparedStatement.ofText "SELECT * FROM `\"t\"` WHERE id = 1" = .ok prepared ∧
      quotedById.rewrite .empty prepared = .ok rewrites ∧
      (∃ s ∈ rewrites.toList, s.tables = [("\"t\"", physicalName "\"t\"" "1")]) ∧
      tokenKinds "\"t\"" = [.identifier "t"] ∧
      ∀ shard, tokenKinds (physicalName "\"t\"" "1") ≠ [.identifier shard] := by
  have longer {kinds : List TokenKind} (two : 1 < kinds.length) (shard : String) :
      kinds ≠ [.identifier shard] := by
    rintro rfl
    exact absurd two (by simp)
  constructor
  · let rewrites : Rewrites :=
      ⟨"SELECT * FROM t WHERE id = '1; DROP TABLE u'", [⟨"t", ["1; DROP TABLE u"]⟩], [0], 0, 1⟩
    refine ⟨rewrites, by with_unfolding_all rfl, by with_unfolding_all rfl, by decide +kernel,
      by decide +kernel, longer (by decide +kernel)⟩
  · let prepared : PreparedStatement :=
      ⟨.empty, "SELECT * FROM `\"t\"` WHERE id = 1",
        .select { Select.ofItems [⟨.wildcard none, none⟩] (some (.bare "\"t\"")) with
          condition := some
            (.binary (.column none "id" ⟨26, 28⟩) .eq (.literal (.integer 1))) }⟩
    let rewrites : Rewrites :=
      ⟨"SELECT * FROM `\"t\"` WHERE id = 1", [⟨"\"t\"", ["1"]⟩], [0], 0, 1⟩
    have some_shard : ∃ s ∈ rewrites.toList, s.tables = [("\"t\"", physicalName "\"t\"" "1")] := by
      decide +kernel
    refine ⟨prepared, rewrites, by with_unfolding_all rfl, by with_unfolding_all rfl, some_shard,
      by decide +kernel, longer (by decide +kernel)⟩

end Rewriter

end ShardedSql
