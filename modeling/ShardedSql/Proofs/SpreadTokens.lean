import ShardedSql.Proofs.FilledTokens
import ShardedSql.Proofs.Places

/-!
Reading a text with places for the elements of lists. Two streams hold the same tokens, but where a
question mark of the first is bound to a list, the second has one for each element, with commas
between. Main statement: each way to put readers together keeps up with such a change, as long as
what the first reader answers has no list where a single value is due.
-/

namespace ShardedSql.Sql.Spreading

open Text ShardedSql.Sql.Parser
open Filling (kindsOf current_kind kindsOf_rest length_kindsOf allMarks allMarks_mark allMarks_other
  Near near_succ atIdentifier_eq current_eof)

/-! ## Streams -/

/-- So many places more, each behind a comma. -/
def furtherKinds : Nat → List TokenKind
  | 0 => []
  | n + 1 => .symbol .comma :: .symbol .question :: furtherKinds n

/-- The kinds of tokens with all places of each placeholder, the next of which has the given
ordinal. -/
def spreadKinds (further : Nat → Nat) : Nat → List TokenKind → List TokenKind
  | _, [] => []
  | k, kind :: rest =>
      if kind = .symbol .question then
        .symbol .question :: (furtherKinds (further k) ++ spreadKinds further (k + 1) rest)
      else kind :: spreadKinds further k rest

/-- The second stream holds the tokens of the first with all places, behind the places of the last
placeholder that are still to be passed. Neither stream has more tokens left than its bound. -/
structure Spread (layout : Layout) (bounds : Nat × Nat) (pending : Nat) (s s' : TokenStream) :
    Prop where
  kinds : kindsOf s' = furtherKinds pending ++ spreadKinds layout.further s.ordinal (kindsOf s)
  place : s'.ordinal + pending = place layout.further s.ordinal
  all : s.ordinal + allMarks (kindsOf s) = layout.marks
  short : (kindsOf s).length ≤ bounds.1
  short' : (kindsOf s').length ≤ bounds.2
  finish : s.finish.kind = .eof
  finish' : s'.finish.kind = .eof

/-- The stream behind a question mark, whose ordinal has been taken. -/
def passed (s : TokenStream) : TokenStream :=
  { s.rest with ordinal := s.ordinal + 1 }

section Streams

variable {layout : Layout} {bounds low : Nat × Nat} {pending : Nat} {s s' : TokenStream}

theorem exists_ahead {kind : TokenKind} (inside : kind ≠ .eof) (finish : s.finish.kind = .eof)
    (here : s.current.kind = kind) : ∃ rest, kindsOf s = kind :: rest := by
  rw [current_kind] at here
  cases ahead : kindsOf s with
  | nil =>
      rw [ahead, List.headD_nil, finish] at here
      exact absurd here.symm inside
  | cons first rest =>
      rw [ahead, List.headD_cons] at here
      exact ⟨rest, by rw [here]⟩

theorem Spread.current (spread : Spread layout bounds 0 s s') :
    s'.current.kind = s.current.kind := by
  rw [current_kind, current_kind, spread.kinds]
  cases kindsOf s with
  | nil => exact spread.finish'.trans spread.finish.symm
  | cons kind rest =>
      rw [spreadKinds]
      split
      · next mark => exact mark.symm
      · rfl

theorem Spread.widen (spread : Spread layout low pending s s') (first : low.1 ≤ bounds.1)
    (second : low.2 ≤ bounds.2) : Spread layout bounds pending s s' :=
  { spread with
    short := Nat.le_trans spread.short first
    short' := Nat.le_trans spread.short' second }

/-- Both bounds can be as low as the numbers of tokens that are left. -/
theorem Spread.tighten (spread : Spread layout bounds pending s s') {n n' : Nat}
    (short : (kindsOf s).length ≤ n) (short' : (kindsOf s').length ≤ n') :
    Spread layout (n, n') pending s s' :=
  { spread with
    short := short
    short' := short' }

/-- Passing a token other than a question mark, the streams stay spread, and have one token less. -/
theorem Spread.rest (spread : Spread layout bounds 0 s s') (near : Near low bounds)
    (other : s.current.kind ≠ .symbol .question) : Spread layout low 0 s.rest s'.rest := by
  obtain ⟨kinds, place, all, short, short', finish, finish'⟩ := spread
  obtain ⟨_, _, ge, ge'⟩ := near
  rw [current_kind] at other
  -- At the end of the text passing a token leaves both streams as they are.
  cases ahead : kindsOf s with
  | nil =>
      rw [ahead] at kinds all
      change kindsOf s' = [] at kinds
      have left : kindsOf s.rest = [] := by rw [kindsOf_rest, ahead, List.tail_nil]
      have left' : kindsOf s'.rest = [] := by rw [kindsOf_rest, kinds, List.tail_nil]
      constructor
      · rw [left, left']
        rfl
      · exact place
      · rw [left]
        exact all
      · rw [left]
        exact Nat.zero_le _
      · rw [left']
        exact Nat.zero_le _
      · exact finish
      · exact finish'
  | cons kind rest =>
      rw [ahead, List.headD_cons] at other
      rw [ahead] at all kinds short
      rw [spreadKinds, if_neg other] at kinds
      change kindsOf s' = _ at kinds
      rw [allMarks_other other] at all
      have left : kindsOf s.rest = rest := by rw [kindsOf_rest, ahead, List.tail_cons]
      have left' : kindsOf s'.rest = spreadKinds layout.further s.ordinal rest := by
        rw [kindsOf_rest, kinds]
        rfl
      rw [List.length_cons] at short
      constructor
      · rw [left, left']
        rfl
      · exact place
      · rw [left]
        exact all
      · rw [left]
        omega
      · have length' := congrArg List.length kinds
        change _ = (kind :: spreadKinds layout.further s.ordinal rest).length at length'
        rw [List.length_cons] at length'
        rw [left']
        omega
      · exact finish
      · exact finish'

/-- Passing a question mark, the second stream stands before the further places. -/
theorem Spread.mark (spread : Spread layout bounds 0 s s')
    (mark : s.current.kind = .symbol .question) :
    s.ordinal < layout.marks ∧ s'.ordinal = Sql.place layout.further s.ordinal ∧
      Spread layout bounds (layout.further s.ordinal) (passed s) (passed s') := by
  obtain ⟨kinds, place, all, short, short', finish, finish'⟩ := spread
  obtain ⟨rest, ahead⟩ := exists_ahead (by simp) finish mark
  rw [ahead] at kinds all short
  rw [spreadKinds, if_pos rfl] at kinds
  rw [allMarks_mark] at all
  have left : kindsOf (passed s) = rest :=
    (kindsOf_rest s).trans (by rw [ahead, List.tail_cons])
  have left' : kindsOf (passed s') = furtherKinds (layout.further s.ordinal) ++
      spreadKinds layout.further (s.ordinal + 1) rest :=
    (kindsOf_rest s').trans (by rw [kinds]; rfl)
  rw [List.length_cons] at short
  refine ⟨by omega, place, ?_⟩
  constructor
  · rw [left, left']
    rfl
  · change s'.ordinal + 1 + _ = Sql.place layout.further s.ordinal + _ + 1
    omega
  · change s.ordinal + 1 + allMarks (kindsOf (passed s)) = _
    rw [left]
    omega
  · rw [left]
    omega
  · have length' := congrArg List.length kinds
    rw [furtherKinds, List.nil_append, List.length_cons] at length'
    rw [left']
    omega
  · exact finish
  · exact finish'

/-- A further place stands behind a comma. -/
theorem Spread.further (spread : Spread layout bounds (pending + 1) s s') :
    s'.current.kind = .symbol .comma ∧ s'.rest.current.kind = .symbol .question ∧
      Spread layout bounds pending s (passed s'.rest) := by
  obtain ⟨kinds, place, all, short, short', finish, finish'⟩ := spread
  rw [furtherKinds, List.cons_append, List.cons_append] at kinds
  have left : kindsOf s'.rest = .symbol .question ::
      (furtherKinds pending ++ spreadKinds layout.further s.ordinal (kindsOf s)) := by
    rw [kindsOf_rest, kinds, List.tail_cons]
  have left' : kindsOf (passed s'.rest) =
      furtherKinds pending ++ spreadKinds layout.further s.ordinal (kindsOf s) :=
    (kindsOf_rest s'.rest).trans (by rw [left, List.tail_cons])
  refine ⟨by rw [current_kind, kinds, List.headD_cons], by rw [current_kind, left, List.headD_cons],
    left', ?_, all, short, ?_, finish, finish'⟩
  · change s'.ordinal + 1 + pending = _
    omega
  · have length' := congrArg List.length kinds
    rw [List.length_cons, List.length_cons] at length'
    rw [left']
    omega

end Streams

/-! ## Readers put together -/

/-- Wherever the first reader succeeds with a good answer, standing at a token of the given kinds,
the second follows on the spread stream, and what they read is related. -/
def Follows (layout : Layout) (bounds : Nat × Nat) (stands : TokenKind → Prop) {α β : Type}
    (p : Parser α) (q : Parser β) (good : α → Prop) (same : α → β → Prop) : Prop :=
  ∀ s s' a t, Spread layout bounds 0 s s' → stands s.current.kind → p s = .ok a t → good a →
    ∃ b t', q s' = .ok b t' ∧ same a b ∧ Spread layout bounds 0 t t'

/-- The same at any token. -/
abbrev Keeps (layout : Layout) (bounds : Nat × Nat) {α β : Type} (p : Parser α) (q : Parser β)
    (good : α → Prop) (same : α → β → Prop) : Prop :=
  Follows layout bounds (fun _ => True) p q good same

/-- A reader that reads the same from both streams. -/
abbrev Copies (layout : Layout) (bounds : Nat × Nat) {α : Type} (p : Parser α) : Prop :=
  Keeps layout bounds p p (fun _ => True) (· = ·)

/-- Where the answer of a reader is good, something holds: of a part that it was given. -/
def Gives {α : Type} (p : Parser α) (good : α → Prop) (part : Prop) : Prop :=
  ∀ s a t, p s = .ok a t → good a → part

section Readers

variable {layout : Layout} {bounds : Nat × Nat} {stands : TokenKind → Prop} {α β γ δ : Type}
  {good : α → Prop} {same : α → β → Prop} {part : Prop}

theorem gives_pure {a : α} (parts : good a → part) : Gives (pure a) good part := by
  intro s a' t read fine
  cases read
  exact parts fine

theorem gives_bind {p : Parser γ} {f : γ → Parser α} (next : ∀ c, Gives (f c) good part) :
    Gives (p >>= f) good part := by
  intro s a t read fine
  obtain ⟨c, u, _, read⟩ := read_of_bind read
  exact next c u a t read fine

theorem gives_if {c : Prop} [Decidable c] {p q : Parser α} (yes : Gives p good part)
    (no : Gives q good part) : Gives (if c then p else q) good part := by
  by_cases h : c
  · rwa [if_pos h]
  · rwa [if_neg h]

theorem gives_unexpected {expected : Expectation} :
    Gives (unexpected expected : Parser α) good part :=
  fun _ _ _ read => nomatch read

theorem Follows.weaken {stands' : TokenKind → Prop} {p : Parser α} {q : Parser β}
    (follows : Follows layout bounds stands p q good same) (weaker : ∀ k, stands' k → stands k) :
    Follows layout bounds stands' p q good same :=
  fun s s' a t spread here read fine => follows s s' a t spread (weaker _ here) read fine

theorem Follows.of_keeps {p : Parser α} {q : Parser β} (keeps : Keeps layout bounds p q good same) :
    Follows layout bounds stands p q good same :=
  keeps.weaken fun _ _ => trivial

/-- What is read can be related in a weaker way, where less is good. -/
theorem Follows.imp {p : Parser α} {q : Parser β} {better : α → Prop} {result : α → β → Prop}
    (follows : Follows layout bounds stands p q good same) (fine : ∀ a, better a → good a)
    (weaker : ∀ a b, same a b → result a b) :
    Follows layout bounds stands p q better result := by
  intro s s' a t spread here read best
  obtain ⟨b, t', read', related, behind⟩ := follows s s' a t spread here read (fine a best)
  exact ⟨b, t', read', weaker a b related, behind⟩

theorem follows_pure {a : α} {b : β} (related : good a → same a b) :
    Follows layout bounds stands (pure a : Parser α) (pure b : Parser β) good same := by
  intro s s' a' t spread _ read fine
  cases read
  exact ⟨b, s', rfl, related fine, spread⟩

theorem Follows.bind {p : Parser α} {q : Parser β} {f : α → Parser γ} {g : β → Parser δ}
    {well : γ → Prop} {result : γ → δ → Prop} (first : Follows layout bounds stands p q good same)
    (parts : ∀ a, Gives (f a) well (good a))
    (second : ∀ a b, same a b → Keeps layout bounds (f a) (g b) well result) :
    Follows layout bounds stands (p >>= f) (q >>= g) well result := by
  intro s s' c u spread here read fine
  obtain ⟨a, t, read_first, read_second⟩ := read_of_bind read
  obtain ⟨b, t', first', related, between⟩ :=
    first s s' a t spread here read_first (parts a t c u read_second fine)
  obtain ⟨d, u', second', related', behind⟩ :=
    second a b related t t' c u between trivial read_second fine
  exact ⟨d, u', (bind_ok first').trans second', related', behind⟩

/-- What both read from the same tokens may be used. -/
theorem Copies.bind {p : Parser α} {f : α → Parser γ} {g : α → Parser δ} {well : γ → Prop}
    {result : γ → δ → Prop} (first : Copies layout bounds p)
    (second : ∀ a, Keeps layout bounds (f a) (g a) well result) :
    Follows layout bounds stands (p >>= f) (p >>= g) well result :=
  (Follows.of_keeps first).bind (fun _ _ _ _ _ _ => trivial) fun a _ same => same ▸ second a

theorem Follows.map {p : Parser α} {q : Parser β} {f : α → γ} {g : β → δ} {well : γ → Prop}
    {result : γ → δ → Prop} (first : Follows layout bounds stands p q good same)
    (parts : ∀ a, well (f a) → good a) (second : ∀ a b, same a b → result (f a) (g b)) :
    Follows layout bounds stands (f <$> p) (g <$> q) well result := by
  rw [← bind_pure_comp, ← bind_pure_comp]
  exact first.bind (fun a => gives_pure (parts a)) fun a b related =>
    follows_pure fun _ => second a b related

/-- A reader that never succeeds is followed by any other. -/
theorem follows_of_fails {p : Parser α} {q : Parser β}
    (fails : ∀ s a t, stands s.current.kind → p s ≠ .ok a t) :
    Follows layout bounds stands p q good same :=
  fun s _ a t _ here read => absurd read (fails s a t here)

theorem follows_unexpected {expected : Expectation} {q : Parser β} :
    Follows layout bounds stands (unexpected expected : Parser α) q good same :=
  follows_of_fails fun _ _ _ _ read => nomatch read

theorem follows_unsupported {kind : Unsupported} {q : Parser β} :
    Follows layout bounds stands (unsupported kind : Parser α) q good same :=
  follows_of_fails fun _ _ _ _ read => nomatch read

theorem follows_if {c : Bool} {p p' : Parser α} {q q' : Parser β}
    (yes : c = true → Follows layout bounds stands p q good same)
    (no : c = false → Follows layout bounds stands p' q' good same) :
    Follows layout bounds stands (if c then p else p') (if c then q else q') good same := by
  cases c with
  | false => exact no rfl
  | true => exact yes rfl

/-! ## Looking at tokens -/

theorem follows_current_bind {f : Token → Parser α} {g : Token → Parser β}
    (next : ∀ token token' : Token, token'.kind = token.kind → stands token.kind →
      Follows layout bounds (· = token.kind) (f token) (g token') good same) :
    Follows layout bounds stands (current >>= f) (current >>= g) good same := by
  intro s s' a t spread here read
  exact next s.current s'.current spread.current here s s' a t spread rfl read

theorem follows_currentKind_bind {f : TokenKind → Parser α} {g : TokenKind → Parser β}
    (next : ∀ k, stands k → Follows layout bounds (· = k) (f k) (g k) good same) :
    Follows layout bounds stands (currentKind >>= f) (currentKind >>= g) good same := by
  intro s s' a t spread here read
  change f s.current.kind s = .ok a t at read
  change good a → ∃ b t', g s'.current.kind s' = .ok b t' ∧ _
  rw [spread.current]
  exact next s.current.kind here s s' a t spread rfl read

/-- A loop may be bounded by the number of tokens that are left. -/
theorem follows_remaining_bind {f : Nat → Parser α} {g : Nat → Parser β}
    (next : ∀ n n', Follows layout (n, n') stands (f n) (g n') good same) :
    Follows layout bounds stands (remaining >>= f) (remaining >>= g) good same := by
  intro s s' a t spread here read fine
  have short := spread.short
  have short' := spread.short'
  rw [length_kindsOf] at short short'
  have tight := spread.tighten (Nat.le_of_eq (length_kindsOf s)) (Nat.le_of_eq (length_kindsOf s'))
  rw [remaining_bind] at read
  obtain ⟨b, t', read', related, behind⟩ := next _ _ s s' a t tight here read fine
  exact ⟨b, t', (remaining_bind g s').trans read', related, behind.widen short short'⟩

theorem follows_advance_near {low : Nat × Nat} (near : Near low bounds) {k : TokenKind}
    (other : k ≠ .symbol .question) {p : Parser α} {q : Parser β}
    (next : Keeps layout low p q good same) :
    Follows layout bounds (· = k) (do advance; p) (do advance; q) good same := by
  intro s s' a t spread here read fine
  obtain ⟨_, u, pass, read⟩ := read_of_bind read
  cases pass
  subst here
  obtain ⟨b, t', read', related, behind⟩ :=
    next s.rest s'.rest a t (spread.rest near other) trivial read fine
  exact ⟨b, t', read', related, behind.widen near.le near.le'⟩

theorem follows_advance_bind {k : TokenKind} (other : k ≠ .symbol .question) {p : Parser α}
    {q : Parser β} (next : Keeps layout bounds p q good same) :
    Follows layout bounds (· = k) (do advance; p) (do advance; q) good same :=
  follows_advance_near (.refl bounds) other next

/-- Behind a token other than a question mark, both streams show the same token. -/
theorem follows_followingKind_bind {k : TokenKind} (other : k ≠ .symbol .question)
    {f : TokenKind → Parser α} {g : TokenKind → Parser β}
    (next : ∀ k', Follows layout bounds (· = k) (f k') (g k') good same) :
    Follows layout bounds (· = k) (followingKind >>= f) (followingKind >>= g) good same := by
  intro s s' a t spread here read
  have behind := (spread.rest (.refl bounds) (by rwa [here])).current
  change f s.rest.current.kind s = .ok a t at read
  change good a → ∃ b t', g s'.rest.current.kind s' = .ok b t' ∧ _
  rw [behind]
  exact next _ s s' a t spread here read

theorem follows_isAt_bind {kind : TokenKind} {f : Bool → Parser α} {g : Bool → Parser β}
    (yes : Follows layout bounds (fun k => stands k ∧ k = kind) (f true) (g true) good same)
    (no : Follows layout bounds (fun k => stands k ∧ k ≠ kind) (f false) (g false) good same) :
    Follows layout bounds stands (isAt kind >>= f) (isAt kind >>= g) good same := by
  intro s s' a t spread here read
  rw [bind_ok (isAt_eq kind s)] at read
  rw [bind_ok (isAt_eq kind s'), spread.current]
  by_cases found : s.current.kind = kind
  · rw [beq_iff_eq.mpr found] at read ⊢
    exact yes s s' a t spread ⟨here, found⟩ read
  · rw [beq_eq_false_iff_ne.mpr found] at read ⊢
    exact no s s' a t spread ⟨here, found⟩ read

theorem follows_isAt_if {kind : TokenKind} {p p' : Parser α} {q q' : Parser β}
    (yes : Follows layout bounds (fun k => stands k ∧ k = kind) p q good same)
    (no : Follows layout bounds (fun k => stands k ∧ k ≠ kind) p' q' good same) :
    Follows layout bounds stands (do if ← isAt kind then p else p')
      (do if ← isAt kind then q else q') good same :=
  follows_isAt_bind yes no

theorem follows_accept_near {low : Nat × Nat} (near : Near low bounds) {kind : TokenKind}
    (mark : kind ≠ .symbol .question) {f : Bool → Parser α} {g : Bool → Parser β}
    (yes : Keeps layout low (f true) (g true) good same)
    (no : Follows layout bounds stands (f false) (g false) good same) :
    Follows layout bounds stands (accept kind >>= f) (accept kind >>= g) good same := by
  rw [accept_bind kind f, accept_bind kind g]
  apply follows_isAt_if
  · exact (follows_advance_near near mark yes).weaken fun _ here => here.2
  · exact no.weaken fun _ here => here.1

theorem follows_acceptKeyword_bind {word : Keyword} {f : Bool → Parser α} {g : Bool → Parser β}
    (yes : Keeps layout bounds (f true) (g true) good same)
    (no : Follows layout bounds stands (f false) (g false) good same) :
    Follows layout bounds stands (acceptKeyword word >>= f) (acceptKeyword word >>= g) good same :=
  follows_accept_near (.refl bounds) (by simp) yes no

theorem follows_acceptKeyword_if {word : Keyword} {p p' : Parser α} {q q' : Parser β}
    (yes : Keeps layout bounds p q good same)
    (no : Follows layout bounds stands p' q' good same) :
    Follows layout bounds stands (do if ← acceptKeyword word then p else p')
      (do if ← acceptKeyword word then q else q') good same :=
  follows_acceptKeyword_bind yes no

theorem follows_acceptSymbol_bind {mark : Symbol} (other : mark ≠ .question)
    {f : Bool → Parser α} {g : Bool → Parser β}
    (yes : Keeps layout bounds (f true) (g true) good same)
    (no : Follows layout bounds stands (f false) (g false) good same) :
    Follows layout bounds stands (acceptSymbol mark >>= f) (acceptSymbol mark >>= g) good same :=
  follows_accept_near (.refl bounds) (by simpa using other) yes no

theorem follows_acceptSymbol_if {mark : Symbol} (other : mark ≠ .question) {p p' : Parser α}
    {q q' : Parser β} (yes : Keeps layout bounds p q good same)
    (no : Follows layout bounds stands p' q' good same) :
    Follows layout bounds stands (do if ← acceptSymbol mark then p else p')
      (do if ← acceptSymbol mark then q else q') good same :=
  follows_acceptSymbol_bind other yes no

theorem follows_discardKeyword_bind {word : Keyword} {p : Parser α} {q : Parser β}
    (next : Keeps layout bounds p q good same) :
    Follows layout bounds stands (do discard <| acceptKeyword word; p)
      (do discard <| acceptKeyword word; q) good same := by
  rw [discard_bind, discard_bind]
  exact follows_acceptKeyword_bind next (.of_keeps next)

theorem follows_expect_bind {kind : TokenKind} {expected : Expectation} {f : Parser α}
    {g : Parser β} (mark : kind ≠ .symbol .question) (next : Keeps layout bounds f g good same) :
    Follows layout bounds stands
      (do (do if !(← accept kind) then unexpected expected); f)
      (do (do if !(← accept kind) then unexpected expected); g) good same := by
  simp only [bind_assoc]
  apply follows_accept_near (.refl bounds) mark
  · simpa using next
  · exact follows_of_fails fun _ _ _ _ => unexpected_bind_ne_ok

theorem follows_expectSymbol_bind {mark : Symbol} {f : Parser α} {g : Parser β}
    (other : mark ≠ .question) (next : Keeps layout bounds f g good same) :
    Follows layout bounds stands (do expectSymbol mark; f) (do expectSymbol mark; g) good same :=
  follows_expect_bind (by simpa using other) next

theorem follows_expectKeyword_bind {word : Keyword} {f : Parser α} {g : Parser β}
    (next : Keeps layout bounds f g good same) :
    Follows layout bounds stands (do expectKeyword word; f) (do expectKeyword word; g) good same :=
  follows_expect_bind (by simp) next

/-! ## Names and words -/

theorem copies_identifier : Copies layout bounds identifier := by
  apply follows_currentKind_bind
  intro k _
  cases k with
  | identifier name =>
      apply follows_advance_bind (by simp)
      exact follows_pure fun _ => rfl
  | _ => exact follows_unexpected

theorem follows_atIdentifier_if {p p' : Parser α} {q q' : Parser β}
    (yes : Follows layout bounds stands p q good same)
    (no : Follows layout bounds stands p' q' good same) :
    Follows layout bounds stands (do if ← atIdentifier then p else p')
      (do if ← atIdentifier then q else q') good same := by
  intro s s' a t spread here read
  rw [bind_ok (atIdentifier_eq s)] at read
  rw [bind_ok (atIdentifier_eq s'), spread.current]
  cases found : Filling.isName s.current.kind with
  | true =>
      rw [found] at read
      exact yes s s' a t spread here read
  | false =>
      rw [found] at read
      exact no s s' a t spread here read

theorem copies_acceptWord (word : String) : Copies layout bounds (acceptWord word) := by
  apply follows_currentKind_bind
  intro k _
  cases k with
  | identifier name =>
      apply follows_if
      · intro _
        apply follows_advance_bind (by simp)
        exact follows_pure fun _ => rfl
      · intro _
        exact follows_pure fun _ => rfl
  | _ => exact follows_pure fun _ => rfl

theorem copies_expectWord (word : String) : Copies layout bounds (expectWord word) := by
  apply (copies_acceptWord word).bind
  intro accepted
  apply follows_if
  · intro _
    exact follows_unexpected
  · intro _
    exact follows_pure fun _ => rfl

/-! ## Repetition -/

/-- Reading goes on only while tokens are left, so that bounds on how often are never met. -/
theorem keeps_bounded {ι : Type} (p : ι → Nat → Parser α) (q : ι → Nat → Parser β)
    (good : α → Prop) (same : ι → α → β → Prop) {a : ι → α} {b : ι → β}
    (related : ∀ i, good (a i) → same i (a i) (b i))
    (stops : ∀ i n s, s.current.kind = .eof → p i n s = .ok (a i) s)
    (stops' : ∀ i n s, s.current.kind = .eof → q i n s = .ok (b i) s)
    (step : ∀ n n', (∀ n' i, Keeps layout (n, n') (p i n) (q i n') good (same i)) →
      ∀ i, Keeps layout (n + 1, n' + 1) (p i (n + 1)) (q i (n' + 1)) good (same i)) (n n' : Nat) :
    ∀ i, Keeps layout (n, n') (p i n) (q i n') good (same i) := by
  have at_end {i : ι} {s s' : TokenStream} {x : α} {t : TokenStream} (n n' : Nat)
      (spread : Spread layout (n, n') 0 s s') (ended : s.current.kind = .eof)
      (read : p i n s = .ok x t) (fine : good x) :
      ∃ b t', q i n' s' = .ok b t' ∧ same i x b ∧ Spread layout (n, n') 0 t t' := by
    rw [stops i n s ended] at read
    cases read
    exact ⟨b i, s', stops' i n' s' (spread.current.trans ended), related i fine, spread⟩
  -- Where either bound is used up no token is left in its stream, and so none in the other.
  induction n generalizing n' with
  | zero =>
      intro i s s' x t spread _
      exact at_end 0 n' spread (current_eof spread.finish spread.short)
  | succ n ih =>
      cases n' with
      | zero =>
          intro i s s' x t spread _
          have ended := current_eof spread.finish' spread.short'
          exact at_end (n + 1) 0 spread (spread.current.symm.trans ended)
      | succ n' => exact step n n' ih

theorem keeps_commaRest {item : Parser α} {item' : Parser β}
    (items : ∀ bounds, Keeps layout bounds item item' good same) (n n' : Nat) :
    Keeps layout (n, n') (commaRest item n) (commaRest item' n') (∀ a ∈ ·, good a)
      (List.Forall₂ same) := by
  refine keeps_bounded (fun _ : Unit => commaRest item) (fun _ => commaRest item')
    (∀ a ∈ ·, good a) (fun _ => List.Forall₂ same) (fun _ _ => .nil)
    (fun _ n _ ended => commaRest_at_end ended item n)
    (fun _ n _ ended => commaRest_at_end ended item' n) ?_ n n' ()
  intro n n' ih i
  refine follows_accept_near (near_succ n n') (by simp) ?_ (follows_pure fun _ => .nil)
  refine (items (n, n')).bind (fun a => gives_bind fun others => gives_pure fun fine => ?_) ?_
  · exact fine a (List.mem_cons_self ..)
  intro first first' firsts
  refine (ih n' ()).bind (fun others => gives_pure fun fine => ?_) ?_
  · exact fun a member => fine a (List.mem_cons_of_mem _ member)
  intro others others' related
  exact follows_pure fun _ => .cons firsts related

theorem keeps_commaList {item : Parser α} {item' : Parser β}
    (items : ∀ bounds, Keeps layout bounds item item' good same) :
    Keeps layout bounds (commaList item) (commaList item') (∀ a ∈ ·, good a)
      (List.Forall₂ same) := by
  refine (items bounds).bind (fun a => ?_) ?_
  · refine gives_bind fun n => gives_bind fun others => gives_pure fun fine => ?_
    exact fine a (List.mem_cons_self ..)
  intro first first' firsts
  apply follows_remaining_bind
  intro n n'
  refine (keeps_commaRest items n n').bind (fun others => gives_pure fun fine => ?_) ?_
  · exact fun a member => fine a (List.mem_cons_of_mem _ member)
  intro others others' related
  exact follows_pure fun _ => .cons firsts related

theorem copies_commaList {item : Parser α} (items : ∀ bounds, Copies layout bounds item) :
    Copies layout bounds (commaList item) :=
  (keeps_commaList items).imp (fun _ _ _ _ => trivial) fun _ _ each => List.forall₂_eq_eq_eq ▸ each

theorem keeps_afterKeyword {word : Keyword} {item : Parser α} {item' : Parser β}
    (items : Keeps layout bounds item item' good same) :
    Keeps layout bounds (afterKeyword word item) (afterKeyword word item') (∀ a ∈ ·, good a)
      (Option.Rel same) := by
  apply follows_acceptKeyword_if
  · refine items.bind (fun a => gives_pure fun fine => fine a rfl) fun a b related => ?_
    exact follows_pure fun _ => .some related
  · exact follows_pure fun _ => .none

theorem keeps_parenthesized {item : Parser α} {item' : Parser β}
    (items : Keeps layout bounds item item' good same) :
    Keeps layout bounds (parenthesized item) (parenthesized item') good same := by
  apply follows_expectSymbol_bind (by simp)
  refine items.bind (fun a => gives_bind fun _ => gives_pure id) fun a b related => ?_
  apply follows_expectSymbol_bind (by simp)
  exact follows_pure fun _ => related

theorem copies_skipAll {mark : Symbol} (other : mark ≠ .question) (n n' : Nat) :
    Keeps layout (n, n') (skipAll mark n) (skipAll mark n') (fun _ => True) (· = ·) := by
  refine keeps_bounded (fun _ : Unit => skipAll mark) (fun _ => skipAll mark) (fun _ => True)
    (fun _ => (· = ·)) (fun _ _ => rfl) (fun _ n _ ended => skipAll_at_end ended mark n)
    (fun _ n _ ended => skipAll_at_end ended mark n) ?_ n n' ()
  intro n n' ih i
  exact follows_accept_near (near_succ n n') (by simpa using other) (ih n' ())
    (follows_pure fun _ => rfl)

end Readers

end ShardedSql.Sql.Spreading
