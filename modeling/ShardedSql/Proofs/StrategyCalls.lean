import ShardedSql.Proofs.HeadEntries
import ShardedSql.Strategy.Registry

/-!
Strategies asked for by name. A call is a name, and perhaps arguments in parentheses; a registry
knows the names that have been registered, whatever the case of their letters. Main statement: after
any registrations a text makes the strategy of the latest factory of its name from its arguments
exactly if it is a call without empty arguments, and is refused for the first thing that is missing
otherwise.
-/

namespace ShardedSql

open Sql Text

/-! ## Pieces between separators -/

namespace Text

variable {separator : Char} {chars : List Char} {pieces : List (List Char)}

theorem not_mem_of_mem_splitAt {piece : List Char} (member : piece ∈ splitAt separator chars) :
    separator ∉ piece := by
  induction chars generalizing piece with
  | nil =>
      rw [List.mem_singleton.mp member]
      exact List.not_mem_nil
  | cons c rest ih =>
      obtain ⟨first, others, split⟩ := List.exists_cons_of_ne_nil (splitAt_ne_nil separator rest)
      rw [split] at ih
      obtain ⟨plain, plain_others⟩ := List.forall_mem_cons.mp fun piece => @ih piece
      rw [splitAt, split] at member
      split at member
      · rcases List.mem_cons.mp member with rfl | later
        · exact List.not_mem_nil
        · exact ih later
      · next other =>
          rcases List.mem_cons.mp member with rfl | later
          · simp [Ne.symm other, plain]
          · exact plain_others piece later

/-- The pieces of a text are the only ones without a separator that make it when joined. -/
theorem splitAt_eq_iff :
    splitAt separator chars = pieces ↔
      pieces ≠ [] ∧ joinWith separator pieces = chars ∧ ∀ piece ∈ pieces, separator ∉ piece := by
  constructor
  · rintro rfl
    exact ⟨splitAt_ne_nil separator chars, joinWith_splitAt separator chars,
      fun piece => not_mem_of_mem_splitAt⟩
  · rintro ⟨nonempty, rfl, plain⟩
    induction pieces with
    | nil => exact absurd rfl nonempty
    | cons first others ih =>
        obtain ⟨absent, plain⟩ := List.forall_mem_cons.mp plain
        cases others with
        | nil => exact splitAt_of_not_mem absent
        | cons second others =>
            rw [joinWith, splitAt_append absent, ih (List.cons_ne_nil _ _) plain]
            exact List.cons_ne_nil _ _

end Text

/-! ## Calls as they are written -/

namespace StrategyCall

/-- All of the characters are blanks. -/
abbrev Blanks (chars : List Char) : Prop :=
  ∀ c ∈ chars, isBlank c = true

def IsName (name : List Char) : Prop :=
  ∃ c rest, name = c :: rest ∧ isNameStart c = true ∧ ∀ d ∈ rest, isNameChar d = true

/-- An argument without the blanks at its ends. -/
def IsArgument (piece : List Char) (arg : String) : Prop :=
  ∃ lead trail, piece = lead ++ (arg.toList ++ trail) ∧ Blanks lead ∧ Blanks trail ∧
    Unpadded arg.toList

/-- The arguments between the commas; blanks alone are no argument. -/
inductive Lists : List Char → List String → Prop where
  | nothing {inside : List Char} (blank : Blanks inside) : Lists inside []
  | pieces {inside : List Char} {pieces : List (List Char)} {args : List String}
      (full : ¬ Blanks inside) (nonempty : pieces ≠ []) (whole : joinWith ',' pieces = inside)
      (plain : ∀ piece ∈ pieces, ',' ∉ piece) (each : List.Forall₂ IsArgument pieces args) :
      Lists inside args

/-- A name alone, or with arguments in parentheses, and blanks wherever they may stand. -/
inductive Written : List Char → StrategyCall → Prop where
  | bare {lead name trail : List Char} (leading : Blanks lead) (named : IsName name)
      (trailing : Blanks trail) : Written (lead ++ (name ++ trail)) ⟨String.ofList name, []⟩
  | call {lead name gap inside trail : List Char} {args : List String} (leading : Blanks lead)
      (named : IsName name) (between : Blanks gap) (plain : '(' ∉ inside ∧ ')' ∉ inside)
      (lists : Lists inside args) (trailing : Blanks trail) :
      Written (lead ++ (name ++ (gap ++ '(' :: (inside ++ ')' :: trail)))) ⟨String.ofList name, args⟩

theorem isArgument_iff {piece : List Char} {arg : String} :
    IsArgument piece arg ↔ String.ofList (trim piece) = arg := by
  constructor
  · rintro ⟨lead, trail, rfl, leading, trailing, bare⟩
    rw [trim_padded leading trailing bare, String.ofList_toList]
  · rintro rfl
    obtain ⟨lead, trail, whole, leading, trailing, bare⟩ := exists_padding piece
    rw [← String.toList_ofList (l := trim piece)] at whole bare
    exact ⟨lead, trail, whole, leading, trailing, bare⟩

theorem forall₂_isArgument_iff {pieces : List (List Char)} {args : List String} :
    List.Forall₂ IsArgument pieces args ↔
      pieces.map (fun piece => String.ofList (trim piece)) = args := by
  have trims : IsArgument = fun piece arg => String.ofList (trim piece) = arg := by
    funext piece arg
    exact propext isArgument_iff
  rw [trims]
  exact List.forall₂_map_left_iff.symm.trans (by rw [List.forall₂_eq_eq_eq])

theorem lists_iff {inside : List Char} {args : List String} :
    Lists inside args ↔ splitArgs inside = args := by
  have all : inside.all isBlank = true ↔ Blanks inside := List.all_eq_true
  constructor
  · intro lists
    cases lists with
    | nothing blank => rw [splitArgs, if_pos (all.mpr blank)]
    | pieces full nonempty whole plain each =>
        rw [splitArgs, if_neg (fun blank => full (all.mp blank)),
          splitAt_eq_iff.mpr ⟨nonempty, whole, plain⟩]
        exact forall₂_isArgument_iff.mp each
  · rintro rfl
    unfold splitArgs
    split
    · next blank => exact .nothing (all.mp blank)
    · next full =>
        obtain ⟨nonempty, whole, plain⟩ := splitAt_eq_iff.mp (Eq.refl (splitAt ',' inside))
        exact .pieces (fun blank => full (all.mpr blank)) nonempty whole plain
          (forall₂_isArgument_iff.mpr rfl)

/-! ## Reading a call -/

section Reading

variable {lead name gap inside trail after : List Char}

theorem isBlank_of_isNameChar {c : Char} (inside : isNameChar c = true) : isBlank c = false := by
  simp only [isNameChar, Bool.or_eq_true, beq_iff_eq] at inside
  rcases inside with (((letter | digit) | rfl) | rfl) | rfl
  · have bounds := (isAlpha_iff c).mp letter
    simp only [isBlank, Bool.or_eq_false_iff, Bool.and_eq_false_iff, decide_eq_false_iff_not,
      beq_eq_false_iff_ne]
    omega
  · exact isBlank_of_isDigit digit
  all_goals decide

theorem isNameChar_of_isNameStart {c : Char} (starts : isNameStart c = true) :
    isNameChar c = true := by
  simp only [isNameStart, isNameChar, Bool.or_eq_true] at *
  tauto

theorem isNameChar_of_isBlank {c : Char} (blank : isBlank c = true) : isNameChar c = false := by
  cases inside : isNameChar c with
  | false => rfl
  | true => exact absurd blank (by simp [isBlank_of_isNameChar inside])

theorem insideParens?_of_plain {trail : List Char} (plain : '(' ∉ inside ∧ ')' ∉ inside)
    (blank : Blanks trail) : insideParens? ('(' :: (inside ++ ')' :: trail)) = some inside := by
  have content : (inside ++ ')' :: trail).takeWhile (fun c => c ≠ '(' && c ≠ ')') = inside := by
    apply takeWhile_append_of_stop
    · intro c member
      have opening : c ≠ '(' := fun same => plain.1 (same ▸ member)
      have closing : c ≠ ')' := fun same => plain.2 (same ▸ member)
      simp [opening, closing]
    · rintro c ⟨⟩
      rfl
  have behind : trail.all isBlank = true := List.all_eq_true.mpr blank
  rw [insideParens?]
  rw [content, List.drop_left]
  simp only [behind, if_true]

/-- What stands between parentheses is read up to the closing one, if only blanks follow it. -/
theorem insideParens?_eq_some_iff :
    insideParens? after = some inside ↔
      ∃ trail, after = '(' :: (inside ++ ')' :: trail) ∧ ('(' ∉ inside ∧ ')' ∉ inside) ∧
        Blanks trail := by
  constructor
  · intro found
    unfold insideParens? at found
    split at found
    · next rest =>
        have whole := List.takeWhile_append_dropWhile (p := fun c => c ≠ '(' && c ≠ ')') (l := rest)
        have plain : ∀ c ∈ rest.takeWhile fun c => c ≠ '(' && c ≠ ')', c ≠ '(' ∧ c ≠ ')' := by
          intro c member
          simpa using List.mem_takeWhile_imp member
        generalize rest.takeWhile (fun c => c ≠ '(' && c ≠ ')') = run at *
        generalize rest.dropWhile (fun c => c ≠ '(' && c ≠ ')') = behind at *
        rw [← whole] at found
        dsimp only at found
        rw [List.drop_left] at found
        split at found
        · next trail =>
            split at found
            · next blank =>
                cases found
                refine ⟨trail, by rw [whole], ⟨fun member => ?_, fun member => ?_⟩,
                  List.all_eq_true.mp blank⟩
                · exact (plain _ member).1 rfl
                · exact (plain _ member).2 rfl
            · cases found
        · cases found
    · cases found
  · rintro ⟨trail, rfl, plain, blank⟩
    exact insideParens?_of_plain plain blank

/-- A name ends where its characters do. -/
theorem read?_of_name {c : Char} {rest : List Char} (leading : Blanks lead)
    (starts : isNameStart c = true) (inside : ∀ d ∈ rest, isNameChar d = true)
    (stop : ∀ d, after.head? = some d → isNameChar d = false) :
    read? (String.ofList (lead ++ (c :: rest ++ after))) =
      if (after.dropWhile isBlank).isEmpty then some ⟨String.ofList (c :: rest), []⟩
      else (insideParens? (after.dropWhile isBlank)).map fun inside =>
        ⟨String.ofList (c :: rest), splitArgs inside⟩ := by
  have bare := isBlank_of_isNameChar (isNameChar_of_isNameStart starts)
  have front : (lead ++ (c :: rest ++ after)).dropWhile isBlank = c :: (rest ++ after) := by
    apply dropWhile_append_of_stop leading
    rintro d ⟨⟩
    exact bare
  simp only [read?, String.toList_ofList, front, starts, if_true,
    takeWhile_append_of_stop inside stop, dropWhile_append_of_stop inside stop]

/-- Only from a name on is anything read. -/
theorem exists_name_of_read? {spec : String} {call : StrategyCall} (found : read? spec = some call) :
    ∃ lead c rest after, spec.toList = lead ++ (c :: rest ++ after) ∧ Blanks lead ∧
      isNameStart c = true ∧ (∀ d ∈ rest, isNameChar d = true) ∧
      ∀ d, after.head? = some d → isNameChar d = false := by
  unfold read? at found
  split at found
  · next c rest opened =>
      split at found
      · next starts =>
          refine ⟨spec.toList.takeWhile isBlank, c, rest.takeWhile isNameChar,
            rest.dropWhile isNameChar, ?_, fun _ => List.mem_takeWhile_imp, starts,
            fun _ => List.mem_takeWhile_imp, fun _ => head?_dropWhile_of_some⟩
          rw [List.cons_append, List.takeWhile_append_dropWhile, ← opened,
            List.takeWhile_append_dropWhile]
      · cases found
  · cases found

theorem written_of_read? {spec : String} {call : StrategyCall} (found : read? spec = some call) :
    Written spec.toList call := by
  obtain ⟨lead, c, rest, after, whole, leading, starts, inside, stop⟩ := exists_name_of_read? found
  have named : IsName (c :: rest) := ⟨c, rest, rfl, starts, inside⟩
  have gap := List.takeWhile_append_dropWhile (p := isBlank) (l := after)
  have between : Blanks (after.takeWhile isBlank) := fun _ => List.mem_takeWhile_imp
  rw [← String.ofList_toList (s := spec), whole, read?_of_name leading starts inside stop] at found
  rw [whole, ← gap]
  split at found
  · next nothing =>
      cases found
      rw [List.isEmpty_iff.mp nothing, List.append_nil]
      exact .bare leading named between
  · obtain ⟨content, closed, rfl⟩ := Option.map_eq_some_iff.mp found
    obtain ⟨trail, behind, plain, trailing⟩ := insideParens?_eq_some_iff.mp closed
    rw [behind]
    exact .call leading named between plain (lists_iff.mpr rfl) trailing

theorem read?_of_written {chars : List Char} {call : StrategyCall} (written : Written chars call) :
    read? (String.ofList chars) = some call := by
  cases written with
  | @bare lead _ trail leading named trailing =>
      obtain ⟨c, rest, rfl, starts, inside⟩ := named
      have nothing : trail.dropWhile isBlank = [] := List.dropWhile_eq_nil_iff.mpr trailing
      rw [read?_of_name leading starts inside, nothing]
      · rfl
      · exact fun d head => isNameChar_of_isBlank (trailing d (List.mem_of_mem_head? head))
  | @call lead _ gap inside trail args leading named between plain lists trailing =>
      obtain ⟨c, rest, rfl, starts, letters⟩ := named
      have opened : (gap ++ '(' :: (inside ++ ')' :: trail)).dropWhile isBlank =
          '(' :: (inside ++ ')' :: trail) := by
        apply dropWhile_append_of_stop between
        rintro d ⟨⟩
        rfl
      have closed := insideParens?_of_plain plain trailing
      rw [read?_of_name leading starts letters, opened, closed, ← lists_iff.mp lists]
      · rfl
      · intro d head
        cases gap with
        | nil =>
            cases head
            rfl
        | cons e gap =>
            cases head
            exact isNameChar_of_isBlank (between d List.mem_cons_self)

/-- A call is read exactly from the texts that it is written as. -/
theorem read?_eq_some_iff {spec : String} {call : StrategyCall} :
    read? spec = some call ↔ Written spec.toList call := by
  constructor
  · exact written_of_read?
  · intro written
    have found := read?_of_written written
    rwa [String.ofList_toList] at found

example : read? " MOD( user_id , 8 ) " = some ⟨"MOD", ["user_id", "8"]⟩ := by
  decide +kernel

example : read? "mod(id, 4) extra" = none := by
  decide +kernel

end Reading

end StrategyCall

/-! ## Registrations -/

namespace StrategyRegistry

/-- A name and the factory that it is registered with. -/
abbrev Registration := String × StrategyFactory

/-- The registry after registrations in order. -/
def ofHistory (history : List Registration) : StrategyRegistry :=
  history.foldl (fun registry entry => registry.register entry.1 entry.2) empty

theorem default_eq_ofHistory :
    default = ofHistory [("mod", moduloFactory), ("month", monthFactory), ("val", valueFactory)] :=
  rfl

/-- The factory is the last to be registered with the name, in whatever case. -/
def IsLatest (history : List Registration) (name : String) (factory : StrategyFactory) : Prop :=
  ∃ before known after, history = before ++ (known, factory) :: after ∧
    sameWord known name = true ∧ ∀ later ∈ after, sameWord later.1 name = false

/-- What a text makes of a registry: it is no call, or one with an empty argument, or one of a name
that nothing is registered with, or else the latest factory of the name takes its arguments. -/
inductive Builds (history : List Registration) (spec : String) :
    Except ShardError Strategy → Prop where
  | malformed (no_call : ∀ call, ¬ StrategyCall.Written spec.toList call) :
      Builds history spec (.error (.configuration (.malformedStrategy spec)))
  | emptyArgument {call : StrategyCall} (written : StrategyCall.Written spec.toList call)
      (empty : "" ∈ call.args) :
      Builds history spec (.error (.configuration (.emptyArgument spec)))
  | unknown {call : StrategyCall} (written : StrategyCall.Written spec.toList call)
      (full : "" ∉ call.args) (unknown : ∀ entry ∈ history, sameWord entry.1 call.name = false) :
      Builds history spec (.error (.configuration (.unknownStrategy call.name)))
  | made {call : StrategyCall} {factory : StrategyFactory}
      (written : StrategyCall.Written spec.toList call) (full : "" ∉ call.args)
      (latest : IsLatest history call.name factory) : Builds history spec (factory call.args)

section History

variable {history : List Registration} {name : String}

theorem factories_ofHistory (history : List Registration) :
    (ofHistory history).factories =
      (history.map fun entry => (lowerAscii entry.1, entry.2)).reverse := by
  unfold ofHistory
  induction history using List.reverseRecOn with
  | nil => rfl
  | append_singleton earlier entry ih =>
      rw [List.foldl_append, List.map_append, List.reverse_append, ← ih]
      rfl

theorem lowerAscii_beq (known name : String) :
    (lowerAscii known == lowerAscii name) = sameWord known name := by
  rw [Bool.eq_iff_iff, beq_iff_eq, lowerAscii, lowerAscii, String.ofList_inj, sameWord,
    sameChars_iff]

theorem find?_ofHistory (history : List Registration) (name : String) :
    (ofHistory history).find? name =
      (history.reverse.find? fun entry => sameWord entry.1 name).map (·.2) := by
  rw [find?, factories_ofHistory, ← List.map_reverse, List.find?_map, Option.map_map]
  simp only [Function.comp_def, lowerAscii_beq]

theorem find?_ofHistory_eq_some_iff {factory : StrategyFactory} :
    (ofHistory history).find? name = some factory ↔ IsLatest history name factory := by
  simp only [find?_ofHistory, Option.map_eq_some_iff, List.find?_eq_some_iff_append]
  constructor
  · rintro ⟨⟨known, _⟩, ⟨same, after, before, whole, others⟩, rfl⟩
    refine ⟨before.reverse, known, after.reverse, ?_, same, fun later member => ?_⟩
    · simpa using congrArg List.reverse whole
    · simpa using others later (List.mem_reverse.mp member)
  · rintro ⟨before, known, after, rfl, same, others⟩
    refine ⟨(known, factory), ⟨same, after.reverse, before.reverse, by simp, ?_⟩, rfl⟩
    intro later member
    simpa using others later (List.mem_reverse.mp member)

theorem find?_ofHistory_eq_none_iff :
    (ofHistory history).find? name = none ↔ ∀ entry ∈ history, sameWord entry.1 name = false := by
  simp [find?_ofHistory]

end History

variable {history : List Registration} {spec : String} {call : StrategyCall}

theorem build_of_malformed (no_call : ∀ call, ¬ StrategyCall.Written spec.toList call) :
    (ofHistory history).build spec = .error (.configuration (.malformedStrategy spec)) := by
  have unread : StrategyCall.read? spec = none := by
    rw [Option.eq_none_iff_forall_ne_some]
    exact fun call read => no_call call (StrategyCall.read?_eq_some_iff.mp read)
  rw [build, unread]

theorem build_of_written (written : StrategyCall.Written spec.toList call) :
    (ofHistory history).build spec =
      if "" ∈ call.args then .error (.configuration (.emptyArgument spec))
      else
        match (ofHistory history).find? call.name with
        | some factory => factory call.args
        | none => .error (.configuration (.unknownStrategy call.name)) := by
  have empty : call.args.any String.isEmpty = true ↔ "" ∈ call.args := by
    simp [List.any_eq_true, String.isEmpty_iff]
  rw [build, StrategyCall.read?_eq_some_iff.mpr written]
  dsimp only
  by_cases some_empty : "" ∈ call.args
  · rw [if_pos some_empty, if_pos (empty.mpr some_empty)]
  · rw [if_neg some_empty]
    exact if_neg fun all => some_empty (empty.mp all)

theorem build_of_builds {result : Except ShardError Strategy}
    (builds : Builds history spec result) : (ofHistory history).build spec = result := by
  cases builds with
  | malformed no_call => exact build_of_malformed no_call
  | emptyArgument written empty => rw [build_of_written written, if_pos empty]
  | unknown written full unknown =>
      rw [build_of_written written, if_neg full, find?_ofHistory_eq_none_iff.mpr unknown]
  | made written full latest =>
      rw [build_of_written written, if_neg full, find?_ofHistory_eq_some_iff.mpr latest]

theorem builds_build (history : List Registration) (spec : String) :
    Builds history spec ((ofHistory history).build spec) := by
  by_cases called : ∃ call, StrategyCall.Written spec.toList call
  · obtain ⟨call, written⟩ := called
    by_cases empty : "" ∈ call.args
    · rw [build_of_written written, if_pos empty]
      exact .emptyArgument written empty
    · rw [build_of_written written, if_neg empty]
      cases found : (ofHistory history).find? call.name with
      | some factory => exact .made written empty (find?_ofHistory_eq_some_iff.mp found)
      | none => exact .unknown written empty (find?_ofHistory_eq_none_iff.mp found)
  · rw [build_of_malformed (not_exists.mp called)]
    exact .malformed (not_exists.mp called)

/-- After any registrations, a registry makes of a text what they say, and nothing else. -/
theorem build_eq_iff_builds (history : List Registration) (spec : String)
    (result : Except ShardError Strategy) :
    (ofHistory history).build spec = result ↔ Builds history spec result := by
  constructor
  · rintro rfl
    exact builds_build history spec
  · exact build_of_builds

end StrategyRegistry

end ShardedSql
