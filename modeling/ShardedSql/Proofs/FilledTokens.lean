import ShardedSql.Proofs.Placeholders
import ShardedSql.Proofs.Respelling

/-!
Reading a text with numbers in the places of its question marks. Two streams hold the same tokens,
but where the first has a question mark that could be an operand, the second has a number in
parentheses. Main statements: each way to put readers together keeps up with such a change, and the
ordinals that are read are the numbers of the question marks that are passed, in their order.
-/

namespace ShardedSql.Sql.Filling

open Numeric Text ShardedSql.Sql.Parser

/-! ## Filled tokens -/

/-- The tokens of a number in parentheses. -/
def numberKinds (value : Int64) : List TokenKind :=
  if value < 0 then [.symbol .leftParen, .symbol .minus, .integer (-value), .symbol .rightParen]
  else [.symbol .leftParen, .integer value, .symbol .rightParen]

/-- The kinds of tokens with numbers in the places of question marks, as far as there are any. -/
def filledKinds : List Int64 → List TokenKind → List TokenKind
  | _, [] => []
  | values, kind :: rest =>
      if kind = .symbol .question then
        match values with
        | value :: values => numberKinds value ++ filledKinds values rest
        | [] => kind :: filledKinds [] rest
      else kind :: filledKinds values rest

def isName : TokenKind → Bool
  | .identifier _ => true
  | _ => false

/-- The same, but a question mark right behind a name stays: a parenthesis there would open the
arguments of a call. `free` says that no name stands before the first token. -/
def guardedKinds : Bool → List Int64 → List TokenKind → List TokenKind
  | _, _, [] => []
  | free, values, kind :: rest =>
      if kind = .symbol .question ∧ free = true then
        match values with
        | value :: values => numberKinds value ++ guardedKinds true values rest
        | [] => kind :: guardedKinds true [] rest
      else kind :: guardedKinds (!isName kind) values rest

/-- The number of question marks that do not stand behind a name. -/
def freeMarks : Bool → List TokenKind → Nat
  | _, [] => 0
  | free, kind :: rest =>
      (if kind = .symbol .question ∧ free = true then 1 else 0) + freeMarks (!isName kind) rest

/-- The number of question marks. -/
def allMarks (kinds : List TokenKind) : Nat :=
  kinds.count (.symbol .question)

section Kinds

variable {free : Bool} {kind : TokenKind} {values : List Int64} {rest kinds : List TokenKind}

theorem filledKinds_mark (value : Int64) :
    filledKinds (value :: values) (.symbol .question :: rest) =
      numberKinds value ++ filledKinds values rest := by
  simp [filledKinds]

theorem filledKinds_other (other : kind ≠ .symbol .question) :
    filledKinds values (kind :: rest) = kind :: filledKinds values rest := by
  cases values <;> simp [filledKinds, other]

theorem guardedKinds_mark (value : Int64) :
    guardedKinds true (value :: values) (.symbol .question :: rest) =
      numberKinds value ++ guardedKinds true values rest := by
  simp [guardedKinds]

theorem guardedKinds_other (other : ¬ (kind = .symbol .question ∧ free = true)) :
    guardedKinds free values (kind :: rest) =
      kind :: guardedKinds (!isName kind) values rest := by
  cases values <;> simp only [guardedKinds, if_neg other]

theorem freeMarks_mark : freeMarks true (.symbol .question :: rest) = freeMarks true rest + 1 := by
  simp [freeMarks, isName, Nat.add_comm]

theorem freeMarks_other (other : ¬ (kind = .symbol .question ∧ free = true)) :
    freeMarks free (kind :: rest) = freeMarks (!isName kind) rest := by
  rw [freeMarks, if_neg other, Nat.zero_add]

theorem allMarks_mark : allMarks (.symbol .question :: rest) = allMarks rest + 1 :=
  List.count_cons_self

theorem allMarks_other (other : kind ≠ .symbol .question) :
    allMarks (kind :: rest) = allMarks rest :=
  List.count_cons_of_ne other

theorem freeMarks_le (free : Bool) (kinds : List TokenKind) :
    freeMarks free kinds ≤ allMarks kinds := by
  induction kinds generalizing free with
  | nil => exact Nat.le_refl 0
  | cons kind rest ih =>
      by_cases mark : kind = .symbol .question
      · subst mark
        rw [allMarks_mark]
        cases free with
        | true =>
            rw [freeMarks_mark]
            exact Nat.succ_le_succ (ih true)
        | false =>
            rw [freeMarks_other (by simp)]
            exact Nat.le_succ_of_le (ih true)
      · rw [allMarks_other mark, freeMarks_other (by simp [mark])]
        exact ih (!isName kind)

/-- Where no question mark stands behind a name, none stays. -/
theorem guardedKinds_of_freeMarks (clean : freeMarks free kinds = allMarks kinds) :
    guardedKinds free values kinds = filledKinds values kinds := by
  induction kinds generalizing free values with
  | nil => rfl
  | cons kind rest ih =>
      by_cases mark : kind = .symbol .question
      · subst mark
        rw [allMarks_mark] at clean
        cases free with
        | true =>
            rw [freeMarks_mark] at clean
            have clean_rest := Nat.succ.inj clean
            cases values with
            | nil => simp [guardedKinds, filledKinds, ih clean_rest]
            | cons value values => rw [guardedKinds_mark, filledKinds_mark, ih clean_rest]
        | false =>
            have bound := freeMarks_le true rest
            rw [freeMarks_other (by simp)] at clean
            simp only [isName, Bool.not_false] at clean
            omega
      · rw [allMarks_other mark, freeMarks_other (by simp [mark])] at clean
        rw [guardedKinds_other (by simp [mark]), filledKinds_other mark, ih clean]

theorem length_numberKinds (value : Int64) : 3 ≤ (numberKinds value).length := by
  unfold numberKinds
  split <;> simp

/-- Each number makes room for two more tokens. -/
theorem length_guardedKinds (enough : freeMarks free kinds ≤ values.length) :
    kinds.length + 2 * freeMarks free kinds ≤ (guardedKinds free values kinds).length := by
  induction kinds generalizing free values with
  | nil => simp [freeMarks]
  | cons kind rest ih =>
      by_cases mark : kind = .symbol .question ∧ free = true
      · obtain ⟨rfl, rfl⟩ := mark
        rw [freeMarks_mark] at enough ⊢
        cases values with
        | nil => simp at enough
        | cons value values =>
            have number := length_numberKinds value
            have later := ih (Nat.le_of_succ_le_succ enough)
            rw [guardedKinds_mark, List.length_append, List.length_cons]
            omega
      · rw [freeMarks_other mark] at enough ⊢
        have later := ih enough
        rw [guardedKinds_other mark, List.length_cons, List.length_cons]
        omega

end Kinds

/-! ## Filled streams -/

def kindsOf (s : TokenStream) : List TokenKind :=
  s.ahead.map (·.kind)

theorem current_kind (s : TokenStream) : s.current.kind = (kindsOf s).headD s.finish.kind := by
  unfold TokenStream.current kindsOf
  cases s.ahead <;> rfl

theorem kindsOf_rest (s : TokenStream) : kindsOf s.rest = (kindsOf s).tail := by
  simp [kindsOf, TokenStream.rest, List.map_tail]

theorem length_kindsOf (s : TokenStream) : (kindsOf s).length = s.ahead.length :=
  List.length_map _

/-- The second stream holds the tokens of the first with the values that are left in the places of
question marks; `free` says that no name has just been passed. Neither stream has more tokens left
than its bound, and the counts of question marks fit the number of the next placeholder. -/
structure Filled (values : List Int64) (marks : Nat) (bounds : Nat × Nat) (free : Bool)
    (s s' : TokenStream) : Prop where
  kinds : kindsOf s' = guardedKinds free (values.drop s.ordinal) (kindsOf s)
  all : s.ordinal + allMarks (kindsOf s) = values.length
  free : s.ordinal + freeMarks free (kindsOf s) = marks
  clear : .eof ∉ kindsOf s
  short : (kindsOf s).length ≤ bounds.1
  short' : (kindsOf s').length ≤ bounds.2
  finish : s.finish.kind = .eof
  finish' : s'.finish.kind = .eof

/-- A token as the second stream begins with it. -/
def filledHead (free : Bool) (kind : TokenKind) : TokenKind :=
  if kind = .symbol .question ∧ free = true then .symbol .leftParen else kind

section Streams

variable {values : List Int64} {marks : Nat} {bounds : Nat × Nat} {free : Bool}
  {s s' : TokenStream}

/-- At a question mark that is filled there is a value left for it. -/
theorem Filled.value (filled : Filled values marks bounds true s s')
    (mark : s.current.kind = .symbol .question) :
    ∃ value rest, values[s.ordinal]? = some value ∧ kindsOf s = .symbol .question :: rest ∧
      kindsOf s' = numberKinds value ++ guardedKinds true (values.drop (s.ordinal + 1)) rest := by
  rw [current_kind] at mark
  cases ahead : kindsOf s with
  | nil =>
      rw [ahead, List.headD_nil, filled.finish] at mark
      cases mark
  | cons kind rest =>
      rw [ahead, List.headD_cons] at mark
      subst mark
      have all := filled.all
      rw [ahead, allMarks_mark] at all
      have within : s.ordinal < values.length := by omega
      have kinds := filled.kinds
      rw [ahead, List.drop_eq_getElem_cons within, guardedKinds_mark] at kinds
      exact ⟨values[s.ordinal], rest, List.getElem?_eq_getElem within, rfl, kinds⟩

/-- Since no token among those left ends the text, none is left where it has ended. -/
theorem Filled.kindsOf_eq_nil (filled : Filled values marks bounds free s s')
    (ended : s.current.kind = .eof) : kindsOf s = [] := by
  rw [current_kind] at ended
  cases left : kindsOf s with
  | nil => rfl
  | cons kind rest =>
      have clear := filled.clear
      rw [left, List.headD_cons] at ended
      rw [left, ended] at clear
      exact absurd (List.mem_cons_self ..) clear

theorem head_numberKinds (value : Int64) :
    ∃ tail, numberKinds value = .symbol .leftParen :: tail := by
  unfold numberKinds
  split <;> exact ⟨_, rfl⟩

theorem Filled.current (filled : Filled values marks bounds free s s') :
    s'.current.kind = filledHead free s.current.kind := by
  by_cases mark : s.current.kind = .symbol .question ∧ free = true
  · obtain ⟨mark, rfl⟩ := mark
    obtain ⟨value, _, _, _, kinds⟩ := filled.value mark
    obtain ⟨tail, number⟩ := head_numberKinds value
    rw [current_kind, kinds, number, mark]
    rfl
  · rw [filledHead, if_neg mark]
    rw [current_kind] at mark ⊢
    rw [current_kind, filled.kinds]
    cases ahead : kindsOf s with
    | nil => exact filled.finish'.trans filled.finish.symm
    | cons kind rest =>
        rw [ahead, List.headD_cons] at mark
        rw [guardedKinds_other mark]
        rfl

/-- Bounds that are lower by one token at most. -/
structure Near (low bounds : Nat × Nat) : Prop where
  le : low.1 ≤ bounds.1
  le' : low.2 ≤ bounds.2
  ge : bounds.1 ≤ low.1 + 1
  ge' : bounds.2 ≤ low.2 + 1

theorem Near.refl (bounds : Nat × Nat) : Near bounds bounds :=
  ⟨Nat.le_refl _, Nat.le_refl _, Nat.le_succ _, Nat.le_succ _⟩

theorem near_succ (n n' : Nat) : Near (n, n') (n + 1, n' + 1) :=
  ⟨Nat.le_succ _, Nat.le_succ _, Nat.le_refl _, Nat.le_refl _⟩

/-- A kind that is none of the kinds in question names nothing and ends nothing. -/
theorem unnamed_of_some {α : Type} {found? : TokenKind → Option α} {kind : TokenKind} {found : α}
    (at_eof : found? .eof = none) (at_name : ∀ name, found? (.identifier name) = none)
    (some_found : found? kind = some found) : kind ≠ .eof ∧ isName kind = false := by
  constructor
  · rintro rfl
    rw [at_eof] at some_found
    cases some_found
  · cases kind with
    | identifier name =>
        rw [at_name] at some_found
        cases some_found
    | _ => rfl

/-- Passing a token other than a question mark, the streams stay filled, and have one token less. -/
theorem Filled.rest {low : Nat × Nat} (filled : Filled values marks bounds free s s')
    (near : Near low bounds) (other : s.current.kind ≠ .symbol .question)
    (inside : s.current.kind ≠ .eof) :
    Filled values marks low (!isName s.current.kind) s.rest s'.rest := by
  obtain ⟨kinds, all, open_marks, clear, short, short', finish, finish'⟩ := filled
  obtain ⟨_, _, ge, ge'⟩ := near
  rw [current_kind] at other inside ⊢
  cases ahead : kindsOf s with
  | nil =>
      rw [ahead] at inside
      exact absurd finish inside
  | cons kind rest =>
      rw [ahead, List.headD_cons] at other
      rw [ahead] at all open_marks clear kinds short
      -- Neither count of question marks changes, since none is passed.
      have other' : ¬ (kind = .symbol .question ∧ free = true) := fun mark => other mark.1
      rw [guardedKinds_other other'] at kinds
      rw [allMarks_other other] at all
      rw [freeMarks_other other'] at open_marks
      have left : kindsOf s.rest = rest := by rw [kindsOf_rest, ahead, List.tail_cons]
      have left' : kindsOf s'.rest = guardedKinds (!isName kind) (values.drop s.ordinal) rest := by
        rw [kindsOf_rest, kinds, List.tail_cons]
      rw [List.length_cons] at short
      rw [kinds, List.length_cons] at short'
      constructor
      · rw [left, left']
        rfl
      · rw [left]
        exact all
      · rw [left]
        exact open_marks
      · rw [left]
        exact fun member => clear (List.mem_cons_of_mem kind member)
      · rw [left]
        omega
      · rw [left']
        omega
      · exact finish
      · exact finish'

theorem Filled.widen {low : Nat × Nat} (filled : Filled values marks low free s s')
    (first : low.1 ≤ bounds.1) (second : low.2 ≤ bounds.2) :
    Filled values marks bounds free s s' :=
  { filled with
    short := Nat.le_trans filled.short first
    short' := Nat.le_trans filled.short' second }

/-- Both bounds can be as low as the numbers of tokens that are left. -/
theorem Filled.tighten (filled : Filled values marks bounds free s s') {n n' : Nat}
    (short : (kindsOf s).length ≤ n) (short' : (kindsOf s').length ≤ n') :
    Filled values marks (n, n') free s s' :=
  { filled with
    short := short
    short' := short' }

end Streams

theorem current_eof {s : TokenStream} (finish : s.finish.kind = .eof)
    (short : (kindsOf s).length ≤ 0) : s.current.kind = .eof := by
  rw [current_kind, List.length_eq_zero_iff.mp (Nat.le_zero.mp short), List.headD_nil, finish]

theorem atIdentifier_eq (s : TokenStream) : atIdentifier s = .ok (isName s.current.kind) s := by
  rw [atIdentifier, currentKind_bind]
  cases s.current.kind <;> rfl

/-! ## Readers put together -/

/-- From filled streams, the second reader follows wherever the first succeeds, if the first stands
at a token of the given kinds. What they read is related, given the ordinals that the first one
takes. -/
def Follows (values : List Int64) (bounds : Nat × Nat) (free : Bool) (stands : TokenKind → Prop)
    {α β : Type} (p : Parser α) (q : Parser β) (same : List Nat → α → β → Prop) : Prop :=
  ∀ marks s s' a t, Filled values marks bounds free s s' → stands s.current.kind → p s = .ok a t →
    ∃ b t' free' count, q s' = .ok b t' ∧ same (List.range' s.ordinal count) a b ∧
      Filled values marks bounds free' t t' ∧ t.ordinal = s.ordinal + count

/-- The same where any token has just been passed. -/
abbrev Keeps (values : List Int64) (bounds : Nat × Nat) {α β : Type} (p : Parser α) (q : Parser β)
    (same : List Nat → α → β → Prop) : Prop :=
  ∀ free, Follows values bounds free (fun _ => True) p q same

/-- The same where no name has just been passed, so that an operand may stand. -/
abbrev Opens (values : List Int64) (bounds : Nat × Nat) {α β : Type} (p : Parser α) (q : Parser β)
    (same : List Nat → α → β → Prop) : Prop :=
  Follows values bounds true (fun _ => True) p q same

/-- Related without any ordinals. -/
def Plain {α β : Type} (same : α → β → Prop) : List Nat → α → β → Prop :=
  fun read a b => read = [] ∧ same a b

section Readers

variable {values : List Int64} {bounds : Nat × Nat} {free : Bool} {stands : TokenKind → Prop}
  {α β γ δ : Type} {same : List Nat → α → β → Prop}

theorem Follows.weaken {stands' : TokenKind → Prop} {p : Parser α} {q : Parser β}
    (follows : Follows values bounds free stands p q same) (weaker : ∀ k, stands' k → stands k) :
    Follows values bounds free stands' p q same :=
  fun marks s s' a t filled here read => follows marks s s' a t filled (weaker _ here) read

/-- Where anything may have been passed, the reader follows at the given kinds too. -/
theorem Follows.of_keeps {p : Parser α} {q : Parser β} (keeps : Keeps values bounds p q same) :
    Follows values bounds free stands p q same :=
  (keeps free).weaken fun _ _ => trivial

theorem Follows.of_opens {p : Parser α} {q : Parser β} (opens : Opens values bounds p q same) :
    Follows values bounds true stands p q same :=
  opens.weaken fun _ _ => trivial

theorem follows_pure {a : α} {b : β} (related : same [] a b) :
    Follows values bounds free stands (pure a : Parser α) (pure b : Parser β) same := by
  intro marks s s' a' t filled here read
  cases read
  exact ⟨b, s', free, 0, rfl, related, filled, rfl⟩

theorem Follows.bind {p : Parser α} {q : Parser β} {f : α → Parser γ} {g : β → Parser δ}
    {result : List Nat → γ → δ → Prop} (first : Follows values bounds free stands p q same)
    (second : ∀ ms a b, same ms a b →
      Keeps values bounds (f a) (g b) fun ns => result (ms ++ ns)) :
    Follows values bounds free stands (p >>= f) (q >>= g) result := by
  intro marks s s' c u filled here read
  obtain ⟨a, t, read_first, read_second⟩ := read_of_bind read
  obtain ⟨b, t', free', m, first', related, between, counted⟩ :=
    first marks s s' a t filled here read_first
  obtain ⟨d, u', free'', n, second', related', behind, counted'⟩ :=
    second _ a b related free' marks t t' c u between trivial read_second
  -- The ordinals of the second reader go on where those of the first end.
  refine ⟨d, u', free'', m + n, (bind_ok first').trans second', ?_, behind, by omega⟩
  rwa [counted, List.range'_append_1] at related'

theorem Follows.map {p : Parser α} {q : Parser β} {f : α → γ} {g : β → δ}
    {result : List Nat → γ → δ → Prop} (first : Follows values bounds free stands p q same)
    (second : ∀ ms a b, same ms a b → result ms (f a) (g b)) :
    Follows values bounds free stands (f <$> p) (g <$> q) result := by
  rw [← bind_pure_comp, ← bind_pure_comp]
  apply first.bind
  intro ms a b related free'
  apply follows_pure
  rw [List.append_nil]
  exact second ms a b related

/-- What is read can be related in a weaker way. -/
theorem Follows.imp {p : Parser α} {q : Parser β} {result : List Nat → α → β → Prop}
    (first : Follows values bounds free stands p q same)
    (second : ∀ ms a b, same ms a b → result ms a b) :
    Follows values bounds free stands p q result := by
  intro marks s s' a t filled here read
  obtain ⟨b, t', free', m, read', related, rest⟩ := first marks s s' a t filled here read
  exact ⟨b, t', free', m, read', second _ a b related, rest⟩

/-- A reader that never succeeds is followed by any other. -/
theorem follows_of_fails {p : Parser α} {q : Parser β}
    (fails : ∀ s a t, stands s.current.kind → p s ≠ .ok a t) :
    Follows values bounds free stands p q same :=
  fun _ s _ a t _ here read => absurd read (fails s a t here)

theorem follows_unexpected {expected : Expectation} {q : Parser β} :
    Follows values bounds free stands (unexpected expected : Parser α) q same :=
  follows_of_fails fun _ _ _ _ read => nomatch read

theorem follows_unexpected_bind {expected : Expectation} {f : γ → Parser α} {q : Parser β} :
    Follows values bounds free stands ((unexpected expected : Parser γ) >>= f) q same :=
  follows_of_fails fun _ _ _ _ => unexpected_bind_ne_ok

theorem follows_unsupported {kind : Unsupported} {q : Parser β} :
    Follows values bounds free stands (unsupported kind : Parser α) q same :=
  follows_of_fails fun _ _ _ _ read => nomatch read

theorem follows_if {c : Bool} {p p' : Parser α} {q q' : Parser β}
    (yes : c = true → Follows values bounds free stands p q same)
    (no : c = false → Follows values bounds free stands p' q' same) :
    Follows values bounds free stands (if c then p else p') (if c then q else q') same := by
  cases c with
  | false => exact no rfl
  | true => exact yes rfl

/-! ## Looking at tokens -/

theorem follows_current_bind {f : Token → Parser α} {g : Token → Parser β}
    (next : ∀ token token' : Token, token'.kind = filledHead free token.kind → stands token.kind →
      Follows values bounds free (· = token.kind) (f token) (g token') same) :
    Follows values bounds free stands (current >>= f) (current >>= g) same := by
  intro marks s s' a t filled here read
  exact next s.current s'.current filled.current here marks s s' a t filled rfl read

theorem filledHead_of_ne {k : TokenKind} (other : k ≠ .symbol .question) :
    filledHead free k = k :=
  if_neg fun mark => other mark.1

theorem filledHead_question (free : Bool) :
    filledHead free (.symbol .question) = .symbol .question ∨
      filledHead free (.symbol .question) = .symbol .leftParen := by
  cases free with
  | false => exact .inl rfl
  | true => exact .inr rfl

/-- Both streams show the same token, but for a question mark. -/
theorem follows_currentKind_bind {f : TokenKind → Parser α} {g : TokenKind → Parser β}
    (other : ∀ k, k ≠ .symbol .question → stands k →
      Follows values bounds free (· = k) (f k) (g k) same)
    (mark : ∀ k, k = .symbol .question ∨ k = .symbol .leftParen →
      Follows values bounds free (· = .symbol .question) (f (.symbol .question)) (g k) same) :
    Follows values bounds free stands (currentKind >>= f) (currentKind >>= g) same := by
  intro marks s s' a t filled here read
  change f s.current.kind s = .ok a t at read
  change ∃ b t' free' count, g s'.current.kind s' = .ok b t' ∧ _
  rw [filled.current]
  by_cases question : s.current.kind = .symbol .question
  · rw [question] at read ⊢
    exact mark _ (filledHead_question free) marks s s' a t filled question read
  · rw [filledHead_of_ne question]
    exact other _ question here marks s s' a t filled rfl read

/-- A loop may be bounded by the number of tokens that are left. -/
theorem follows_remaining_bind {f : Nat → Parser α} {g : Nat → Parser β}
    (next : ∀ n n', Follows values (n, n') free stands (f n) (g n') same) :
    Follows values bounds free stands (remaining >>= f) (remaining >>= g) same := by
  intro marks s s' a t filled here read
  have short := filled.short
  have short' := filled.short'
  rw [length_kindsOf] at short short'
  have tight := filled.tighten (Nat.le_of_eq (length_kindsOf s)) (Nat.le_of_eq (length_kindsOf s'))
  rw [remaining_bind] at read
  obtain ⟨b, t', free', count, read', related, behind, counted⟩ :=
    next _ _ marks s s' a t tight here read
  exact ⟨b, t', free', count, (remaining_bind g s').trans read', related,
    behind.widen short short', counted⟩

/-- A token that is passed is no question mark; behind a name no operand may stand. -/
theorem follows_advance_near {low : Nat × Nat} (near : Near low bounds) {k : TokenKind}
    (other : k ≠ .symbol .question) (inside : k ≠ .eof) {p : Parser α} {q : Parser β}
    (next : Follows values low (!isName k) (fun _ => True) p q same) :
    Follows values bounds free (· = k) (do advance; p) (do advance; q) same := by
  intro marks s s' a t filled here read
  obtain ⟨_, u, passed, read⟩ := read_of_bind read
  cases passed
  subst here
  obtain ⟨b, t', free', count, read', related, behind, counted⟩ :=
    next marks s.rest s'.rest a t (filled.rest near other inside) trivial read
  exact ⟨b, t', free', count, read', related, behind.widen near.le near.le', counted⟩

theorem follows_advance_bind {k : TokenKind} (other : k ≠ .symbol .question) (inside : k ≠ .eof)
    {p : Parser α} {q : Parser β}
    (next : Follows values bounds (!isName k) (fun _ => True) p q same) :
    Follows values bounds free (· = k) (do advance; p) (do advance; q) same :=
  follows_advance_near (.refl bounds) other inside next

/-- A reader that fails at a question mark. -/
def Blocked (p : Parser α) : Prop :=
  ∀ s a t, s.current.kind = .symbol .question → p s ≠ .ok a t

theorem Blocked.bind {p : Parser α} {f : α → Parser γ} (blocked : Blocked p) :
    Blocked (p >>= f) := by
  intro s c u mark read
  obtain ⟨a, t, read_first, _⟩ := read_of_bind read
  exact blocked s a t mark read_first

theorem blocked_identifier : Blocked identifier := by
  intro s a t mark read
  obtain ⟨k, u, looked, read⟩ := read_of_bind read
  cases looked
  rw [mark] at read
  cases read

/-- A token is of a kind in both streams or in neither; only an opening parenthesis can stand in the
place of something else, and only where an operand may stand. -/
theorem Filled.kind_iff {marks : Nat} {s s' : TokenStream} {kind : TokenKind}
    (filled : Filled values marks bounds free s s') (other : kind ≠ .symbol .question)
    (paren : kind = .symbol .leftParen → free = true → s.current.kind ≠ .symbol .question) :
    s'.current.kind = kind ↔ s.current.kind = kind := by
  rw [filled.current, filledHead]
  by_cases mark : s.current.kind = .symbol .question ∧ free = true
  · rw [if_pos mark, mark.1]
    constructor
    · rintro rfl
      exact absurd mark.1 (paren rfl mark.2)
    · exact fun same => absurd same.symm other
  · rw [if_neg mark]

/-- Looking for an opening parenthesis where an operand may stand, a reader has to fail if it finds
a question mark. -/
def Guarded (free : Bool) (kind : TokenKind) (p : Parser α) : Prop :=
  kind ≠ .symbol .question ∧ (kind = .symbol .leftParen → free = true → Blocked p)

theorem guarded_of_ne {kind : TokenKind} (p : Parser α) (mark : kind ≠ .symbol .question)
    (paren : kind ≠ .symbol .leftParen) : Guarded free kind p :=
  ⟨mark, fun same => absurd same paren⟩

theorem guarded_keyword (word : Keyword) (p : Parser α) : Guarded free (.keyword word) p :=
  guarded_of_ne p (by simp) (by simp)

theorem guarded_behind {kind : TokenKind} (p : Parser α) (mark : kind ≠ .symbol .question) :
    Guarded false kind p :=
  ⟨mark, fun _ behind => nomatch behind⟩

theorem guarded_of_blocked {kind : TokenKind} {p : Parser α} (mark : kind ≠ .symbol .question)
    (blocked : Blocked p) : Guarded free kind p :=
  ⟨mark, fun _ _ => blocked⟩

/-- Where a guarded reader succeeds on the first stream, both streams stand at the kind or neither
does. -/
theorem Filled.kind_iff_of_guarded {marks : Nat} {s s' : TokenStream} {kind : TokenKind}
    {p : Parser α} (filled : Filled values marks bounds free s s') (guarded : Guarded free kind p)
    (reads : s.current.kind ≠ kind → ∃ a t, p s = .ok a t) :
    s'.current.kind = kind ↔ s.current.kind = kind := by
  apply filled.kind_iff guarded.1
  intro paren operand mark
  obtain ⟨a, t, read⟩ := reads fun here => guarded.1 (here.symm.trans mark)
  exact guarded.2 paren operand s a t mark read

/-- Behind a token that is no question mark stands the same reserved word in both streams, or none
in either. -/
theorem follows_followingKind_bind {k : TokenKind} (other : k ≠ .symbol .question)
    (inside : k ≠ .eof) {f : TokenKind → Parser α} {g : TokenKind → Parser β}
    (next : ∀ k₁ k₂, (∀ word, k₂ = .keyword word ↔ k₁ = .keyword word) →
      Follows values bounds free (· = k) (f k₁) (g k₂) same) :
    Follows values bounds free (· = k) (followingKind >>= f) (followingKind >>= g) same := by
  intro marks s s' a t filled here read
  have rest := filled.rest (.refl bounds) (by rwa [here]) (by rwa [here])
  have words (word : Keyword) : s'.rest.current.kind = .keyword word ↔
      s.rest.current.kind = .keyword word :=
    rest.kind_iff (by simp) (by simp)
  exact next s.rest.current.kind s'.rest.current.kind words marks s s' a t filled here read

theorem follows_isAt_bind {kind : TokenKind} {f : Bool → Parser α} {g : Bool → Parser β}
    (guarded : Guarded free kind (f false))
    (yes : Follows values bounds free (fun k => stands k ∧ k = kind) (f true) (g true) same)
    (no : Follows values bounds free (fun k => stands k ∧ k ≠ kind) (f false) (g false) same) :
    Follows values bounds free stands (isAt kind >>= f) (isAt kind >>= g) same := by
  intro marks s s' a t filled here read
  rw [bind_ok (isAt_eq kind s)] at read
  by_cases found : s.current.kind = kind
  · rw [beq_iff_eq.mpr found] at read
    have found' := (filled.kind_iff_of_guarded guarded fun apart => absurd found apart).mpr found
    rw [bind_ok (isAt_eq kind s'), beq_iff_eq.mpr found']
    exact yes marks s s' a t filled ⟨here, found⟩ read
  · rw [beq_eq_false_iff_ne.mpr found] at read
    have apart := (filled.kind_iff_of_guarded guarded fun _ => ⟨a, t, read⟩).not.mpr found
    rw [bind_ok (isAt_eq kind s'), beq_eq_false_iff_ne.mpr apart]
    exact no marks s s' a t filled ⟨here, found⟩ read

theorem follows_isAt_if {kind : TokenKind} {p p' : Parser α} {q q' : Parser β}
    (guarded : Guarded free kind p')
    (yes : Follows values bounds free (fun k => stands k ∧ k = kind) p q same)
    (no : Follows values bounds free (fun k => stands k ∧ k ≠ kind) p' q' same) :
    Follows values bounds free stands (do if ← isAt kind then p else p')
      (do if ← isAt kind then q else q') same :=
  follows_isAt_bind guarded yes no

/-- Behind a token that is accepted an operand may stand, since the token is no name. -/
theorem follows_accept_near {low : Nat × Nat} (near : Near low bounds) {kind : TokenKind}
    {f : Bool → Parser α} {g : Bool → Parser β} (guarded : Guarded free kind (f false))
    (inside : kind ≠ .eof) (named : isName kind = false)
    (passed : Opens values low (f true) (g true) same)
    (other : Follows values bounds free stands (f false) (g false) same) :
    Follows values bounds free stands (accept kind >>= f) (accept kind >>= g) same := by
  rw [accept_bind kind f, accept_bind kind g]
  apply follows_isAt_if guarded
  · intro marks s s' a t filled here read
    refine follows_advance_near near guarded.1 inside ?_ marks s s' a t filled here.2 read
    rw [named]
    exact passed
  · exact other.weaken fun _ here => here.1

theorem follows_accept_bind {kind : TokenKind} {f : Bool → Parser α} {g : Bool → Parser β}
    (guarded : Guarded free kind (f false)) (inside : kind ≠ .eof) (named : isName kind = false)
    (passed : Opens values bounds (f true) (g true) same)
    (other : Follows values bounds free stands (f false) (g false) same) :
    Follows values bounds free stands (accept kind >>= f) (accept kind >>= g) same :=
  follows_accept_near (.refl bounds) guarded inside named passed other

theorem follows_acceptKeyword_bind {word : Keyword} {f : Bool → Parser α} {g : Bool → Parser β}
    (passed : Opens values bounds (f true) (g true) same)
    (other : Follows values bounds free stands (f false) (g false) same) :
    Follows values bounds free stands (acceptKeyword word >>= f) (acceptKeyword word >>= g) same :=
  follows_accept_bind (guarded_keyword word _) (by simp) rfl passed other

theorem follows_acceptKeyword_if {word : Keyword} {p p' : Parser α} {q q' : Parser β}
    (passed : Opens values bounds p q same)
    (other : Follows values bounds free stands p' q' same) :
    Follows values bounds free stands (do if ← acceptKeyword word then p else p')
      (do if ← acceptKeyword word then q else q') same :=
  follows_acceptKeyword_bind passed other

theorem follows_discardKeyword_bind {word : Keyword} {p : Parser α} {q : Parser β}
    (passed : Opens values bounds p q same)
    (other : Follows values bounds free stands p q same) :
    Follows values bounds free stands (do discard <| acceptKeyword word; p)
      (do discard <| acceptKeyword word; q) same := by
  rw [discard_bind, discard_bind]
  exact follows_acceptKeyword_bind passed other

theorem follows_acceptSymbol_if {mark : Symbol} {p p' : Parser α} {q q' : Parser β}
    (guarded : Guarded free (.symbol mark) p')
    (passed : Opens values bounds p q same)
    (other : Follows values bounds free stands p' q' same) :
    Follows values bounds free stands (do if ← acceptSymbol mark then p else p')
      (do if ← acceptSymbol mark then q else q') same :=
  follows_accept_bind guarded (by simp) rfl passed other

/-- A token that has to be accepted is there in both streams, an opening parenthesis too. -/
theorem follows_expect_bind {kind : TokenKind} {expected : Expectation} {f : Parser α}
    {g : Parser β} (mark : kind ≠ .symbol .question) (inside : kind ≠ .eof)
    (named : isName kind = false) (next : Opens values bounds f g same) :
    Follows values bounds free stands
      (do (do if !(← accept kind) then unexpected expected); f)
      (do (do if !(← accept kind) then unexpected expected); g) same := by
  have blocked (h : Unit → Parser α) : Blocked ((unexpected expected : Parser Unit) >>= h) :=
    fun _ _ _ _ => unexpected_bind_ne_ok
  simp only [bind_assoc]
  apply follows_accept_bind (guarded_of_blocked mark (blocked _)) inside named
  · simpa using next
  · exact follows_unexpected_bind

theorem follows_expectSymbol_bind {mark : Symbol} {f : Parser α} {g : Parser β}
    (other : mark ≠ .question) (next : Opens values bounds f g same) :
    Follows values bounds free stands (do expectSymbol mark; f) (do expectSymbol mark; g) same :=
  follows_expect_bind (by simpa using other) (by simp) rfl next

theorem follows_expectKeyword_bind {word : Keyword} {f : Parser α} {g : Parser β}
    (next : Opens values bounds f g same) :
    Follows values bounds free stands (do expectKeyword word; f) (do expectKeyword word; g) same :=
  follows_expect_bind (by simp) (by simp) rfl next

/-! ## Names and words -/

/-- Behind a name no operand may stand. -/
theorem follows_identifier_bind {f : String → Parser α} {g : String → Parser β}
    (next : ∀ name, Follows values bounds false (fun _ => True) (f name) (g name) same) :
    Follows values bounds free stands (identifier >>= f) (identifier >>= g) same := by
  simp only [identifier, bind_assoc]
  apply follows_currentKind_bind
  · intro k _ _
    cases k with
    | identifier name =>
        simp only [bind_assoc, pure_bind]
        exact follows_advance_bind (by simp) (by simp) (next name)
    | _ => exact follows_unexpected_bind
  · intro _ _
    exact follows_unexpected_bind

theorem keeps_identifier :
    Keeps values bounds identifier identifier (Plain (· = ·)) := by
  intro free
  rw [← bind_pure identifier]
  apply follows_identifier_bind
  intro name
  exact follows_pure ⟨rfl, rfl⟩

theorem follows_atIdentifier_if {p p' : Parser α} {q q' : Parser β}
    (yes : Follows values bounds free stands p q same)
    (no : Follows values bounds free stands p' q' same) :
    Follows values bounds free stands (do if ← atIdentifier then p else p')
      (do if ← atIdentifier then q else q') same := by
  intro marks s s' a t filled here read
  have named : isName s'.current.kind = isName s.current.kind := by
    rw [filled.current]
    by_cases mark : s.current.kind = .symbol .question
    · rw [mark]
      rcases filledHead_question free with head | head
      · rw [head]
      · rw [head]
        rfl
    · rw [filledHead_of_ne mark]
  rw [bind_ok (atIdentifier_eq s)] at read
  rw [bind_ok (atIdentifier_eq s'), named]
  cases found : isName s.current.kind with
  | true =>
      rw [found] at read
      exact yes marks s s' a t filled here read
  | false =>
      rw [found] at read
      exact no marks s s' a t filled here read

theorem keeps_acceptWord (word : String) :
    Keeps values bounds (acceptWord word) (acceptWord word) (Plain (· = ·)) := by
  intro free
  apply follows_currentKind_bind
  · intro k _ _
    cases k with
    | identifier name =>
        apply follows_if
        · intro _
          apply follows_advance_bind (by simp) (by simp)
          exact follows_pure ⟨rfl, rfl⟩
        · intro _
          exact follows_pure ⟨rfl, rfl⟩
    | _ => exact follows_pure ⟨rfl, rfl⟩
  · rintro _ (rfl | rfl)
    · exact follows_pure ⟨rfl, rfl⟩
    · exact follows_pure ⟨rfl, rfl⟩

theorem keeps_expectWord (word : String) :
    Keeps values bounds (expectWord word) (expectWord word) (Plain fun _ _ => True) := by
  intro free
  apply (keeps_acceptWord word free).bind
  rintro _ accepted _ ⟨rfl, rfl⟩ free'
  apply follows_if
  · intro _
    exact follows_unexpected
  · intro _
    exact follows_pure ⟨rfl, trivial⟩

/-! ## Repetition -/

/-- Reading goes on only while tokens are left, so that bounds on how often are never met. -/
theorem keeps_bounded {ι : Type} (p : ι → Nat → Parser α) (q : ι → Nat → Parser β)
    (same : ι → List Nat → α → β → Prop) {a : ι → α} {b : ι → β}
    (related : ∀ i, same i [] (a i) (b i))
    (stops : ∀ i n s, s.current.kind = .eof → p i n s = .ok (a i) s)
    (stops' : ∀ i n s, s.current.kind = .eof → q i n s = .ok (b i) s)
    (step : ∀ n n', (∀ i, Keeps values (n, n') (p i n) (q i n') (same i)) →
      ∀ i, Keeps values (n + 1, n' + 1) (p i (n + 1)) (q i (n' + 1)) (same i)) (n n' : Nat) :
    ∀ i, Keeps values (n, n') (p i n) (q i n') (same i) := by
  have at_end {i : ι} {free : Bool} {marks : Nat} {s s' : TokenStream} {x : α} {t : TokenStream}
      (n n' : Nat) (filled : Filled values marks (n, n') free s s') (ended : s.current.kind = .eof)
      (read : p i n s = .ok x t) :
      ∃ b t' free' count, q i n' s' = .ok b t' ∧ same i (List.range' s.ordinal count) x b ∧
        Filled values marks (n, n') free' t t' ∧ t.ordinal = s.ordinal + count := by
    have ended' : s'.current.kind = .eof := (filled.kind_iff (by simp) (by simp)).mpr ended
    rw [stops i n s ended] at read
    cases read
    exact ⟨b i, s', free, 0, stops' i n' s' ended', related i, filled, rfl⟩
  -- Where either bound is used up no token is left in its stream, and so none in the other.
  induction n generalizing n' with
  | zero =>
      intro i free marks s s' x t filled _ read
      exact at_end 0 n' filled (current_eof filled.finish filled.short) read
  | succ n ih =>
      cases n' with
      | zero =>
          intro i free marks s s' x t filled _ read
          have ended := current_eof filled.finish' filled.short'
          exact at_end (n + 1) 0 filled ((filled.kind_iff (by simp) (by simp)).mp ended) read
      | succ n' => exact step n n' (ih n')

/-- Lists that are related item by item, with the ordinals of all items. -/
inductive Each (same : List Nat → α → β → Prop) : List Nat → List α → List β → Prop where
  | nil : Each same [] [] []
  | cons {ms ns : List Nat} {a : α} {b : β} {as : List α} {bs : List β} (first : same ms a b)
      (others : Each same ns as bs) : Each same (ms ++ ns) (a :: as) (b :: bs)

inductive Optional (same : List Nat → α → β → Prop) :
    List Nat → Option α → Option β → Prop where
  | none : Optional same [] none none
  | some {ns : List Nat} {a : α} {b : β} (related : same ns a b) :
      Optional same ns (some a) (some b)

theorem keeps_commaRest {item : Parser α} {item' : Parser β}
    (opens : ∀ bounds, Opens values bounds item item' same) (n n' : Nat) :
    Keeps values (n, n') (commaRest item n) (commaRest item' n') (Each same) := by
  refine keeps_bounded (fun _ : Unit => commaRest item) (fun _ => commaRest item')
    (fun _ => Each same) (fun _ => .nil) (fun _ n _ ended => commaRest_at_end ended item n)
    (fun _ n _ ended => commaRest_at_end ended item' n) ?_ n n' ()
  intro n n' ih i free
  refine follows_accept_near (near_succ n n') (guarded_of_ne _ (by simp) (by simp)) (by simp) rfl
    ?_ (follows_pure .nil)
  apply (opens (n, n')).bind
  intro ms first first' firsts free'
  apply (ih () free').bind
  intro ns others others' related free''
  apply follows_pure
  rw [List.append_nil]
  exact .cons firsts related

theorem opens_commaList {item : Parser α} {item' : Parser β}
    (opens : ∀ bounds, Opens values bounds item item' same) :
    Opens values bounds (commaList item) (commaList item') (Each same) := by
  apply (opens bounds).bind
  intro ms first first' firsts free
  apply follows_remaining_bind
  intro n n'
  apply (keeps_commaRest opens n n' free).bind
  intro ns others others' related free'
  apply follows_pure
  rw [List.append_nil]
  exact .cons firsts related

theorem keeps_afterKeyword {word : Keyword} {item : Parser α} {item' : Parser β}
    (opens : Opens values bounds item item' same) :
    Keeps values bounds (afterKeyword word item) (afterKeyword word item') (Optional same) := by
  intro free
  apply follows_acceptKeyword_if
  · apply opens.bind
    intro ms a b related free'
    apply follows_pure
    rw [List.append_nil]
    exact .some related
  · exact follows_pure .none

theorem keeps_parenthesized {item : Parser α} {item' : Parser β}
    (opens : Opens values bounds item item' same) :
    Keeps values bounds (parenthesized item) (parenthesized item') same := by
  intro free
  apply follows_expectSymbol_bind (by simp)
  apply opens.bind
  intro ms a b related free'
  apply follows_expectSymbol_bind (by simp)
  apply follows_pure
  rwa [List.append_nil]

theorem keeps_skipAll {mark : Symbol} (other : mark ≠ .question) (paren : mark ≠ .leftParen)
    (n n' : Nat) :
    Keeps values (n, n') (skipAll mark n) (skipAll mark n') (Plain fun _ _ => True) := by
  refine keeps_bounded (fun _ : Unit => skipAll mark) (fun _ => skipAll mark)
    (fun _ => Plain fun _ _ => True) (fun _ => ⟨rfl, trivial⟩)
    (fun _ n _ ended => skipAll_at_end ended mark n)
    (fun _ n _ ended => skipAll_at_end ended mark n) ?_ n n' ()
  intro n n' ih i free
  refine follows_accept_near (near_succ n n')
    (guarded_of_ne _ (by simpa using other) (by simpa using paren)) (by simp) rfl ?_
    (follows_pure ⟨rfl, trivial⟩)
  exact ih () true

end Readers

end ShardedSql.Sql.Filling
