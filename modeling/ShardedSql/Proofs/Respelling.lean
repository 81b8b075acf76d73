import Mathlib.Data.List.Forall2
import ShardedSql.Proofs.NameRoles
import ShardedSql.Proofs.Readers

/-!
Reading a text whose names are spelled differently. Two streams hold the same tokens but for names;
a name that does not stand behind a point may be spelled in another way. Main statements: each way
to put readers together keeps up with such a change, and what is read is passed without errors. The
parts in which the forms of a rule meet are defined first: proofs about readers go by them.
-/

namespace ShardedSql.Sql

open Numeric Text ShardedSql.Sql.Parser

/-! ## Where the forms of a rule meet -/

namespace Grammar

variable (nested : Nested)

/-- A call from its arguments on. -/
def argumentsOf (function : String) (distinct : Bool) : Parser Expr := do
  let args ←
    if ← atSymbol .rightParen then pure []
    else if ← acceptSymbol .star then pure [Expr.wildcard none]
    else expressionList nested
  expectSymbol .rightParen
  return .call function args distinct

/-- A choice by `CASE` from its branches on. -/
def choiceOf (subject : Option Expr) : Parser Expr := do
  let whens ← branches nested (← remaining)
  if whens.isEmpty then
    unexpected (.keyword .WHEN)
  else
    let otherwise ← afterKeyword .ELSE (anyExpression nested)
    expectKeyword .END
    return .choice subject whens otherwise

def namedTable : Parser TableRef := do
  let (schema, name) ← qualifiedName
  return .table schema name (← tableLabel)

/-- A query from behind its items on. -/
def afterItems (distinct : Bool) (items : List SelectItem) : Parser Select := do
  let source ← afterKeyword .FROM (tables nested)
  let condition ← whereClause nested
  let groups ← listBy .GROUP (anyExpression nested)
  let having ← afterKeyword .HAVING (anyExpression nested)
  let order ← listBy .ORDER (orderItem nested)
  let pages ← window nested
  return ⟨distinct, items, source, condition, groups, having, order, pages.1, pages.2⟩

/-- A query behind `DISTINCT` or `ALL`. -/
def selectBody (distinct : Bool) : Parser Select := do
  let items ← commaList (selectItem nested)
  let source ← afterKeyword .FROM (tables nested)
  let condition ← whereClause nested
  let groups ← listBy .GROUP (anyExpression nested)
  let having ← afterKeyword .HAVING (anyExpression nested)
  let order ← listBy .ORDER (orderItem nested)
  let pages ← window nested
  return ⟨distinct, items, source, condition, groups, having, order, pages.1, pages.2⟩

/-- An insert from the name of its table on. -/
def insertBody : Parser Insert := do
  let (schema, table) ← qualifiedName
  let columns ← columnList
  let source ← insertSource nested
  return { schema, table, columns, source, onDuplicate := ← onDuplicate nested }

end Grammar

/-! ## Other spellings -/

/-- The words of a type with its sizes, as a cast holds it. -/
def typeText (words : List String) (sizes : Option (List Int)) : String :=
  let name := joined " " words
  match sizes with
  | some ns => name ++ "(" ++ joined "," (ns.map intText) ++ ")"
  | none => name

/-- Another spelling of names, with what it makes of the types that names are words of. The words
that the grammar looks for among names stay what they are. -/
structure Respelling where
  name : String → String
  type : String → String
  reserved : ∀ word : Keyword, name word.spelling = word.spelling
  contextual : ∀ word ∈ ["IGNORE", "DUPLICATE", "KEY"], ∀ n,
    sameWord (name n) word = sameWord n word
  types : ∀ (words : List String) (sizes : Option (List Int)),
    type (typeText (words.map upperAscii) sizes) =
      typeText (words.map fun n => upperAscii (name n)) sizes

namespace Respelling

variable (r : Respelling)

/-- What becomes of the names of a statement; a name behind a point stays. -/
def names : NameMap
  | .schemaTable, name => name
  | .qualifiedColumn, name => name
  | .type, name => r.type name
  | .table, name => r.name name
  | .schema, name => r.name name
  | .qualifier, name => r.name name
  | .other, name => r.name name

def kind (behind : Bool) : TokenKind → TokenKind
  | .identifier name => .identifier (if behind then name else r.name name)
  | k => k

/-- The kinds of the tokens; `behind` says that a point stands before them. -/
def kinds (behind : Bool) : List TokenKind → List TokenKind
  | [] => []
  | k :: rest => r.kind behind k :: kinds (k = .symbol .dot) rest

end Respelling

/-- The string behind an `AS`. -/
def labelBehind : TokenKind → List TokenKind → Option String
  | .keyword .AS, .string label :: _ => some label
  | _, _ => none

/-- Whether no string that labels an item is a name that is spelled differently. -/
def KeepsLabels (name : String → String) : List TokenKind → Prop
  | [] => True
  | k :: rest => (∀ label ∈ labelBehind k rest, name label = label) ∧ KeepsLabels name rest

instance decidableKeepsLabels (name : String → String) :
    (kinds : List TokenKind) → Decidable (KeepsLabels name kinds)
  | [] => .isTrue trivial
  | _ :: rest =>
      have := decidableKeepsLabels name rest
      inferInstanceAs (Decidable (_ ∧ _))

/-- The second stream holds the tokens of the first with names spelled differently. -/
structure Respelled (r : Respelling) (behind : Bool) (s s' : TokenStream) : Prop where
  ahead : s'.ahead.map (·.kind) = r.kinds behind (s.ahead.map (·.kind))
  labels : KeepsLabels r.name (s.ahead.map (·.kind))
  ordinal : s'.ordinal = s.ordinal
  finish : s.finish.kind = .eof
  finish' : s'.finish.kind = .eof

/-- Reading from one stream to the other passes tokens, and no errors. -/
structure Passes (s t : TokenStream) : Prop where
  ahead : ∃ passed, s.ahead = passed ++ t.ahead ∧
    ∀ token ∈ passed, ∀ reason, token.kind ≠ .error reason
  finish : t.finish = s.finish

theorem Passes.refl (s : TokenStream) : Passes s s :=
  ⟨⟨[], by simp⟩, rfl⟩

theorem Passes.trans {s t u : TokenStream} (first : Passes s t) (second : Passes t u) :
    Passes s u := by
  obtain ⟨⟨a, a_eq, a_clear⟩, a_finish⟩ := first
  obtain ⟨⟨b, b_eq, b_clear⟩, b_finish⟩ := second
  refine ⟨⟨a ++ b, by rw [a_eq, b_eq, List.append_assoc], ?_⟩, b_finish.trans a_finish⟩
  intro token member
  rcases List.mem_append.mp member with inside | inside
  · exact a_clear token inside
  · exact b_clear token inside

/-- From respelled streams, the second reader follows wherever the first succeeds, if the first
stands at a token of the given kinds. -/
def Follows (r : Respelling) (behind : Bool) (stands : TokenKind → Prop) {α β : Type}
    (p : Parser α) (q : Parser β) (same : α → β → Prop) : Prop :=
  ∀ s s' a t, Respelled r behind s s' → stands s.current.kind → p s = .ok a t →
    ∃ b t', q s' = .ok b t' ∧ same a b ∧ Respelled r false t t' ∧ Passes s t

/-- The same anywhere but behind a point. -/
abbrev Keeps (r : Respelling) {α β : Type} (p : Parser α) (q : Parser β)
    (same : α → β → Prop) : Prop :=
  Follows r false (fun _ => True) p q same

section Streams

variable {r : Respelling} {behind : Bool} {s s' : TokenStream}

theorem Respelled.current_kind (same : Respelled r behind s s') :
    s'.current.kind = r.kind behind s.current.kind := by
  have ahead := same.ahead
  unfold TokenStream.current
  cases here : s.ahead with
  | nil =>
      have there : s'.ahead = [] := by simpa [here, Respelling.kinds] using ahead
      simp [there, same.finish, same.finish', Respelling.kind]
  | cons token rest =>
      cases there : s'.ahead with
      | nil => simp [here, there, Respelling.kinds] at ahead
      | cons token' rest' =>
          simp only [here, there, List.map_cons, Respelling.kinds, List.cons.injEq] at ahead
          exact ahead.1

theorem Respelled.length_eq (same : Respelled r behind s s') :
    s'.ahead.length = s.ahead.length := by
  have lengths (b : Bool) (ks : List TokenKind) : (r.kinds b ks).length = ks.length := by
    induction ks generalizing b with
    | nil => rfl
    | cons k rest ih => simp [Respelling.kinds, ih]
  have ahead := congrArg List.length same.ahead
  simpa [lengths] using ahead

/-- Passing a token, the streams stay respelled; behind a point, that is remembered. -/
theorem Respelled.rest (same : Respelled r behind s s') :
    Respelled r (s.current.kind = .symbol .dot) s.rest s'.rest := by
  have ahead := same.ahead
  have labels := same.labels
  refine ⟨?_, ?_, same.ordinal, same.finish, same.finish'⟩
  · cases here : s.ahead with
    | nil =>
        have there : s'.ahead = [] := by simpa [here, Respelling.kinds] using ahead
        simp [TokenStream.rest, here, there, Respelling.kinds]
    | cons token rest =>
        cases there : s'.ahead with
        | nil => simp [here, there, Respelling.kinds] at ahead
        | cons token' rest' =>
            simp only [here, there, List.map_cons, Respelling.kinds, List.cons.injEq] at ahead
            simpa [TokenStream.rest, TokenStream.current, here, there] using ahead.2
  · cases here : s.ahead with
    | nil => simp [TokenStream.rest, here, KeepsLabels]
    | cons token rest =>
        simp only [here, List.map_cons, KeepsLabels] at labels
        simpa [TokenStream.rest, here] using labels.2

/-- A string right behind `AS` is a name that stays. -/
theorem Respelled.label_kept (same : Respelled r behind s s')
    (here : s.current.kind = .keyword .AS) {label : String}
    (next : s.rest.current.kind = .string label) : r.name label = label := by
  have labels := same.labels
  have finish := same.finish
  obtain ⟨ahead, last, _⟩ := s
  change last.kind = .eof at finish
  match ahead with
  | [] => simp [TokenStream.current, finish] at here
  | [_] => simp [TokenStream.rest, TokenStream.current, finish] at next
  | first :: second :: rest =>
      change first.kind = .keyword .AS at here
      change second.kind = .string label at next
      simp only [List.map_cons, KeepsLabels] at labels
      exact labels.1 label (by rw [here, next]; rfl)

theorem passes_rest (clear : ∀ reason, s.current.kind ≠ .error reason) : Passes s s.rest := by
  refine ⟨?_, rfl⟩
  cases here : s.ahead with
  | nil => exact ⟨[], by simp [TokenStream.rest, here]⟩
  | cons token rest =>
      refine ⟨[token], by simp [TokenStream.rest, here], ?_⟩
      simpa [TokenStream.current, here] using clear

end Streams

/-! ## Readers put together -/

section Readers

variable {r : Respelling} {behind : Bool} {stands : TokenKind → Prop} {α β γ δ : Type}
  {same : α → β → Prop}

theorem follows_of_keeps {p : Parser α} {q : Parser β} (keeps : Keeps r p q same) :
    Follows r false stands p q same :=
  fun s s' a t respelled _ read => keeps s s' a t respelled trivial read

theorem follows_pure {a : α} {b : β} (related : same a b) :
    Follows r false stands (pure a : Parser α) (pure b : Parser β) same := by
  intro s s' a' t respelled _ read
  cases read
  exact ⟨b, s', rfl, related, respelled, Passes.refl s⟩

theorem Follows.bind {p : Parser α} {q : Parser β} {f : α → Parser γ} {g : β → Parser δ}
    {result : γ → δ → Prop} (first : Follows r behind stands p q same)
    (second : ∀ a b, same a b → Keeps r (f a) (g b) result) :
    Follows r behind stands (p >>= f) (q >>= g) result := by
  intro s s' c u respelled here read
  obtain ⟨a, t, read_first, read_second⟩ := read_of_bind read
  obtain ⟨b, t', first', related, between, passes⟩ := first s s' a t respelled here read_first
  obtain ⟨d, u', second', related', behind', passes'⟩ :=
    second a b related t t' c u between trivial read_second
  exact ⟨d, u', (bind_ok first').trans second', related', behind', passes.trans passes'⟩

/-- What is read may be related in a weaker way. -/
theorem Follows.imp {p : Parser α} {q : Parser β} {result : α → β → Prop}
    (follows : Follows r behind stands p q same) (weaker : ∀ a b, same a b → result a b) :
    Follows r behind stands p q result := by
  intro s s' a t respelled here read
  obtain ⟨b, t', read', related, behind', passes⟩ := follows s s' a t respelled here read
  exact ⟨b, t', read', weaker a b related, behind', passes⟩

theorem Follows.map {p : Parser α} {q : Parser β} {f : α → γ} {g : β → δ}
    {result : γ → δ → Prop} (first : Follows r behind stands p q same)
    (second : ∀ a b, same a b → result (f a) (g b)) :
    Follows r behind stands (f <$> p) (g <$> q) result := by
  rw [← bind_pure_comp, ← bind_pure_comp]
  exact first.bind fun a b related => follows_pure (second a b related)

theorem keeps_discard {p : Parser α} {q : Parser β} (keeps : Keeps r p q same) :
    Keeps r (discard p) (discard q) fun _ _ => True :=
  Follows.map keeps fun _ _ _ => trivial

/-- A reader that never succeeds is followed by any other. -/
theorem follows_of_fails {p : Parser α} {q : Parser β}
    (fails : ∀ s a t, p s ≠ .ok a t) : Follows r behind stands p q same :=
  fun s _ a t _ _ read => absurd read (fails s a t)

theorem follows_unexpected {expected : Expectation} {q : Parser β} :
    Follows r behind stands (unexpected expected : Parser α) q same :=
  follows_of_fails fun _ _ _ read => nomatch read

theorem follows_unsupported {kind : Unsupported} {q : Parser β} :
    Follows r behind stands (unsupported kind : Parser α) q same :=
  follows_of_fails fun _ _ _ read => nomatch read

theorem follows_if {c c' : Bool} {p p' : Parser α} {q q' : Parser β} (agree : c' = c)
    (yes : c = true → Follows r behind stands p q same)
    (no : c = false → Follows r behind stands p' q' same) :
    Follows r behind stands (if c then p else p') (if c' then q else q') same := by
  subst agree
  cases c'
  · exact no rfl
  · exact yes rfl

/-! ## Looking at tokens -/

theorem follows_current_bind {f : Token → Parser α} {g : Token → Parser β}
    (next : ∀ token token' : Token, token'.kind = r.kind behind token.kind → stands token.kind →
      Follows r behind (· = token.kind) (f token) (g token') same) :
    Follows r behind stands (current >>= f) (current >>= g) same := by
  intro s s' a t respelled here read
  exact next s.current s'.current respelled.current_kind here s s' a t respelled rfl read

theorem follows_currentKind_bind {f : TokenKind → Parser α} {g : TokenKind → Parser β}
    (next : ∀ k, stands k → Follows r behind (· = k) (f k) (g (r.kind behind k)) same) :
    Follows r behind stands (currentKind >>= f) (currentKind >>= g) same := by
  intro s s' a t respelled here read
  have follows := next s.current.kind here s s' a t respelled rfl read
  rw [← respelled.current_kind] at follows
  exact follows

theorem keeps_remaining : Keeps r remaining remaining (· = ·) := by
  intro s s' n t respelled _ read
  cases read
  exact ⟨_, s', rfl, respelled.length_eq.symm, respelled, Passes.refl s⟩

/-- The token after the current one is the same reserved word in both streams, if it is one. -/
theorem keeps_followingKind :
    Keeps r followingKind followingKind fun k k' =>
      ∀ word, k' = .keyword word ↔ k = .keyword word := by
  intro s s' k t respelled _ read
  cases read
  refine ⟨_, s', rfl, fun word => ?_, respelled, Passes.refl s⟩
  have kind := respelled.rest.current_kind
  change s'.rest.current.kind = .keyword word ↔ s.rest.current.kind = .keyword word
  rw [kind]
  cases s.rest.current.kind <;> simp [Respelling.kind]

/-- A token other than a point is passed. -/
theorem follows_advance (clear : ∀ k, stands k → k ≠ .symbol .dot ∧ ∀ reason, k ≠ .error reason) :
    Follows r behind stands advance advance fun _ _ => True := by
  intro s s' a t respelled here read
  cases read
  obtain ⟨no_dot, no_error⟩ := clear _ here
  have rest := respelled.rest
  rw [decide_eq_false no_dot] at rest
  exact ⟨(), s'.rest, rfl, trivial, rest, passes_rest no_error⟩

theorem kind_eq_iff {k kind : TokenKind} (named : ∀ name, kind ≠ .identifier name) :
    r.kind behind k = kind ↔ k = kind := by
  cases k with
  | identifier name =>
      exact ⟨fun same => absurd same.symm (named _), fun same => absurd same.symm (named _)⟩
  | _ => rfl

theorem keeps_isAt {kind : TokenKind} (named : ∀ name, kind ≠ .identifier name) :
    Keeps r (isAt kind) (isAt kind) (· = ·) := by
  intro s s' b t respelled _ read
  cases read
  refine ⟨_, s', rfl, ?_, respelled, Passes.refl s⟩
  change (s.current.kind == kind) = (s'.current.kind == kind)
  rw [respelled.current_kind, Bool.eq_iff_iff, beq_iff_eq, beq_iff_eq, kind_eq_iff named]

theorem follows_accept_bind {kind : TokenKind} (named : ∀ name, kind ≠ .identifier name)
    (no_dot : kind ≠ .symbol .dot) (no_error : ∀ reason, kind ≠ .error reason)
    {f : Bool → Parser α} {g : Bool → Parser β} (passed : Keeps r (f true) (g true) same)
    (other : Follows r behind stands (f false) (g false) same) :
    Follows r behind stands (accept kind >>= f) (accept kind >>= g) same := by
  intro s s' a u respelled stand read
  obtain ⟨b, t, accepted, read⟩ := read_of_bind read
  have kinds : s'.current.kind = kind ↔ s.current.kind = kind := by
    rw [respelled.current_kind, kind_eq_iff named]
  rw [accept_eq] at accepted
  -- A passed token is no point, so that no name stands behind one.
  by_cases here : s.current.kind = kind
  · rw [if_pos here] at accepted
    cases accepted
    have rest := respelled.rest
    rw [decide_eq_false (by rwa [here])] at rest
    obtain ⟨b, u', read', related, after, passes⟩ := passed _ _ a u rest trivial read
    have accepted' : accept kind s' = .ok true s'.rest := accept_of_eq (kinds.mpr here)
    exact ⟨b, u', (bind_ok accepted').trans read', related, after,
      (passes_rest (by rwa [here])).trans passes⟩
  · rw [if_neg here] at accepted
    cases accepted
    obtain ⟨b, u', read', related, after, passes⟩ := other _ _ a u respelled stand read
    have accepted' : accept kind s' = .ok false s' := accept_of_ne (mt kinds.mp here)
    exact ⟨b, u', (bind_ok accepted').trans read', related, after, passes⟩

theorem keeps_accept {kind : TokenKind} (named : ∀ name, kind ≠ .identifier name)
    (no_dot : kind ≠ .symbol .dot) (no_error : ∀ reason, kind ≠ .error reason) :
    Keeps r (accept kind) (accept kind) (· = ·) := by
  rw [← bind_pure (accept kind)]
  exact follows_accept_bind named no_dot no_error (follows_pure rfl) (follows_pure rfl)

theorem keeps_acceptKeyword (word : Keyword) :
    Keeps r (acceptKeyword word) (acceptKeyword word) (· = ·) :=
  keeps_accept (by simp) (by simp) (by simp)

theorem keeps_acceptSymbol {mark : Symbol} (no_dot : mark ≠ .dot) :
    Keeps r (acceptSymbol mark) (acceptSymbol mark) (· = ·) :=
  keeps_accept (by simp) (by simpa using no_dot) (by simp)

theorem keeps_atKeyword (word : Keyword) :
    Keeps r (atKeyword word) (atKeyword word) (· = ·) :=
  keeps_isAt (by simp)

theorem keeps_atSymbol (mark : Symbol) :
    Keeps r (atSymbol mark) (atSymbol mark) (· = ·) :=
  keeps_isAt (by simp)

/-- Behind an accepted point, names stay what they are. -/
theorem keeps_acceptDot_bind {f : Bool → Parser α} {g : Bool → Parser β}
    (point : Follows r true (fun _ => True) (f true) (g true) same)
    (other : Keeps r (f false) (g false) same) :
    Keeps r (acceptSymbol .dot >>= f) (acceptSymbol .dot >>= g) same := by
  intro s s' a u respelled _ read
  obtain ⟨b, t, accepted, read⟩ := read_of_bind read
  have kinds : s'.current.kind = .symbol .dot ↔ s.current.kind = .symbol .dot := by
    rw [respelled.current_kind, kind_eq_iff (by simp)]
  rw [acceptSymbol, accept_eq] at accepted
  by_cases here : s.current.kind = .symbol .dot
  · rw [if_pos here] at accepted
    cases accepted
    have rest := respelled.rest
    rw [decide_eq_true here] at rest
    obtain ⟨b, u', read', related, after, passes⟩ := point _ _ a u rest trivial read
    have accepted' : acceptSymbol .dot s' = .ok true s'.rest := accept_of_eq (kinds.mpr here)
    exact ⟨b, u', (bind_ok accepted').trans read', related, after,
      (passes_rest (by simp [here])).trans passes⟩
  · rw [if_neg here] at accepted
    cases accepted
    obtain ⟨b, u', read', related, after, passes⟩ := other _ _ a u respelled trivial read
    have accepted' : acceptSymbol .dot s' = .ok false s' := accept_of_ne (mt kinds.mp here)
    exact ⟨b, u', (bind_ok accepted').trans read', related, after, passes⟩

/-- Behind an accepted `AS`, a string that is the next token is a name that stays. -/
theorem keeps_acceptAs_bind {f : Bool → Parser α} {g : Bool → Parser β}
    (label : Follows r false (fun k => ∀ label, k = .string label → r.name label = label)
      (f true) (g true) same)
    (other : Keeps r (f false) (g false) same) :
    Keeps r (acceptKeyword .AS >>= f) (acceptKeyword .AS >>= g) same := by
  intro s s' a u respelled _ read
  obtain ⟨b, t, accepted, read⟩ := read_of_bind read
  obtain ⟨_, t', accepted', rfl, between, passes⟩ :=
    keeps_acceptKeyword .AS s s' b t respelled trivial accepted
  rw [bind_ok accepted']
  rw [acceptKeyword, accept_eq] at accepted
  by_cases here : s.current.kind = .keyword .AS
  · rw [if_pos here] at accepted
    cases accepted
    obtain ⟨b, u', read', related, after, passes'⟩ :=
      label _ _ a u between (fun _ => respelled.label_kept here) read
    exact ⟨b, u', read', related, after, passes.trans passes'⟩
  · rw [if_neg here] at accepted
    cases accepted
    obtain ⟨b, u', read', related, after, passes'⟩ := other _ _ a u between trivial read
    exact ⟨b, u', read', related, after, passes.trans passes'⟩

theorem keeps_expect {accepting : Parser Bool} {expected : Expectation}
    (accepts : Keeps r accepting accepting (· = ·)) :
    Keeps r (do if !(← accepting) then unexpected expected)
      (do if !(← accepting) then unexpected expected) fun _ _ => True := by
  refine accepts.bind ?_
  rintro accepted _ rfl
  exact follows_if rfl (fun _ => follows_unexpected) fun _ => follows_pure trivial

theorem keeps_expectKeyword (word : Keyword) :
    Keeps r (expectKeyword word) (expectKeyword word) fun _ _ => True :=
  keeps_expect (keeps_acceptKeyword word)

theorem keeps_expectSymbol {mark : Symbol} (no_dot : mark ≠ .dot) :
    Keeps r (expectSymbol mark) (expectSymbol mark) fun _ _ => True :=
  keeps_expect (keeps_acceptSymbol no_dot)

/-! ## Names -/

theorem follows_identifier :
    Follows r behind stands identifier identifier fun name name' =>
      name' = if behind then name else r.name name := by
  refine follows_currentKind_bind fun k _ => ?_
  cases k with
  | identifier name =>
      refine (follows_advance ?_).bind fun _ _ _ => follows_pure rfl
      rintro _ rfl
      simp
  | _ => exact follows_unexpected

theorem keeps_identifier :
    Keeps r identifier identifier fun name name' => name' = r.name name :=
  follows_identifier

theorem keeps_atIdentifier : Keeps r atIdentifier atIdentifier (· = ·) := by
  refine follows_currentKind_bind fun k _ => ?_
  cases k <;> exact follows_pure rfl

theorem keeps_acceptWord {word : String} (contextual : word ∈ ["IGNORE", "DUPLICATE", "KEY"]) :
    Keeps r (acceptWord word) (acceptWord word) (· = ·) := by
  refine follows_currentKind_bind fun k _ => ?_
  cases k with
  | identifier name =>
      refine follows_if (r.contextual word contextual name) (fun _ => ?_) fun _ => follows_pure rfl
      refine (follows_advance ?_).bind fun _ _ _ => follows_pure rfl
      rintro _ rfl
      simp
  | _ => exact follows_pure rfl

theorem keeps_expectWord {word : String} (contextual : word ∈ ["IGNORE", "DUPLICATE", "KEY"]) :
    Keeps r (expectWord word) (expectWord word) fun _ _ => True :=
  keeps_expect (keeps_acceptWord contextual)

/-! ## Repetition -/

theorem keeps_commaRest {item : Parser α} {item' : Parser β} (keeps : Keeps r item item' same)
    (bound : Nat) :
    Keeps r (commaRest item bound) (commaRest item' bound) (List.Forall₂ same) := by
  induction bound with
  | zero => exact follows_pure .nil
  | succ bound ih =>
      refine (keeps_acceptSymbol (by decide)).bind ?_
      rintro comma _ rfl
      refine follows_if rfl (fun _ => ?_) fun _ => follows_pure .nil
      exact keeps.bind fun _ _ first => ih.bind fun _ _ others => follows_pure (.cons first others)

theorem keeps_commaList {item : Parser α} {item' : Parser β} (keeps : Keeps r item item' same) :
    Keeps r (commaList item) (commaList item') (List.Forall₂ same) := by
  refine keeps.bind fun _ _ first => keeps_remaining.bind ?_
  rintro bound _ rfl
  exact (keeps_commaRest keeps bound).bind fun _ _ others => follows_pure (.cons first others)

theorem keeps_afterKeyword {word : Keyword} {item : Parser α} {item' : Parser β}
    (keeps : Keeps r item item' same) :
    Keeps r (afterKeyword word item) (afterKeyword word item') (Option.Rel same) := by
  refine (keeps_acceptKeyword word).bind ?_
  rintro accepted _ rfl
  refine follows_if rfl (fun _ => ?_) fun _ => follows_pure .none
  exact keeps.bind fun _ _ related => follows_pure (.some related)

theorem keeps_parenthesized {item : Parser α} {item' : Parser β}
    (keeps : Keeps r item item' same) :
    Keeps r (parenthesized item) (parenthesized item') same := by
  refine (keeps_expectSymbol (by decide)).bind fun _ _ _ => keeps.bind fun _ _ related => ?_
  exact (keeps_expectSymbol (by decide)).bind fun _ _ _ => follows_pure related

theorem keeps_skipAll {mark : Symbol} (no_dot : mark ≠ .dot) (bound : Nat) :
    Keeps r (skipAll mark bound) (skipAll mark bound) fun _ _ => True := by
  induction bound with
  | zero => exact follows_pure trivial
  | succ bound ih =>
      refine (keeps_acceptSymbol no_dot).bind ?_
      rintro accepted _ rfl
      exact follows_if rfl (fun _ => ih) fun _ => follows_pure trivial

end Readers

end ShardedSql.Sql
