import ShardedSql.Sql.Grammar

/-!
What single readers do with a stream: one equation or equivalence for each, by which proofs about
readers go, so that no reader is opened twice. Main statements: the parts of a rule are read one
behind the other, and a rule that repeats stops where nothing continues it, so that it stops at the
end of a text.
-/

namespace ShardedSql.Sql

open ShardedSql.Sql.Parser Grammar

variable {α γ : Type} {nested : Nested} {s : TokenStream}

/-! ## One reader behind the other -/

theorem read_of_bind {p : Parser α} {f : α → Parser γ} {s u : TokenStream} {c : γ}
    (read : (p >>= f) s = .ok c u) : ∃ a t, p s = .ok a t ∧ f a t = .ok c u := by
  cases first : p s with
  | ok a t =>
      refine ⟨a, t, rfl, ?_⟩
      simpa only [bind, EStateM.bind, first] using read
  | error cause t =>
      simp only [bind, EStateM.bind, first] at read
      cases read

theorem bind_ok {p : Parser α} {f : α → Parser γ} {s t : TokenStream} {a : α}
    (first : p s = .ok a t) : (p >>= f) s = f a t := by
  simp only [bind, EStateM.bind, first]

theorem bind_error {p : Parser α} {f : α → Parser γ} {s t : TokenStream} {e : ParseError}
    (first : p s = .error e t) : (p >>= f) s = .error e t := by
  simp only [bind, EStateM.bind, first]

theorem unexpected_bind_ne_ok {expected : Expectation} {f : γ → Parser α} {a : α}
    {t : TokenStream} : ((unexpected expected : Parser γ) >>= f) s ≠ .ok a t :=
  nofun

theorem discard_bind (p : Parser γ) (next : Parser α) :
    (do discard p; next) = p >>= fun _ => next := by
  simp only [Functor.discard, LawfulFunctor.map_const, Function.comp_apply, map_eq_pure_bind,
    bind_assoc, pure_bind]

/-! ## The current token -/

theorem current_bind (f : Token → Parser α) (s : TokenStream) :
    (current >>= f) s = f s.current s :=
  rfl

theorem currentKind_bind (f : TokenKind → Parser α) (s : TokenStream) :
    (currentKind >>= f) s = f s.current.kind s :=
  rfl

theorem remaining_bind (f : Nat → Parser α) (s : TokenStream) :
    (remaining >>= f) s = f s.ahead.length s :=
  rfl

theorem advance_bind (f : Unit → Parser α) (s : TokenStream) : (advance >>= f) s = f () s.rest :=
  rfl

theorem isAt_eq (kind : TokenKind) (s : TokenStream) :
    isAt kind s = .ok (s.current.kind == kind) s :=
  rfl

theorem accept_eq (kind : TokenKind) (s : TokenStream) :
    accept kind s = if s.current.kind = kind then .ok true s.rest else .ok false s := by
  rw [accept, bind_ok (isAt_eq kind s)]
  by_cases here : s.current.kind = kind
  · rw [if_pos here, here, beq_self_eq_true]
    rfl
  · rw [if_neg here, beq_eq_false_iff_ne.mpr here]
    rfl

theorem accept_of_eq {kind : TokenKind} (here : s.current.kind = kind) :
    accept kind s = .ok true s.rest :=
  (accept_eq kind s).trans (if_pos here)

theorem accept_of_ne {kind : TokenKind} (other : s.current.kind ≠ kind) :
    accept kind s = .ok false s :=
  (accept_eq kind s).trans (if_neg other)

/-- To accept a token is to look whether it is there, and then to pass it. -/
theorem accept_bind (kind : TokenKind) (next : Bool → Parser α) :
    (accept kind >>= next) =
      isAt kind >>= fun found => if found then (do advance; next true) else next false := by
  simp only [accept, bind_assoc]
  congr 1
  funext found
  cases found <;> simp

theorem identifier_eq_ok {name : String} {t : TokenStream} :
    identifier s = .ok name t ↔ s.current.kind = .identifier name ∧ t = s.rest := by
  rw [identifier, currentKind_bind]
  cases here : s.current.kind with
  | identifier other =>
      constructor
      · intro read
        cases read
        exact ⟨rfl, rfl⟩
      · rintro ⟨same, rfl⟩
        cases same
        rfl
  | _ => exact ⟨nofun, nofun⟩

theorem expectSymbol_eq_ok {mark : Symbol} {a : Unit} {t : TokenStream} :
    expectSymbol mark s = .ok a t ↔ s.current.kind = .symbol mark ∧ t = s.rest := by
  unfold expectSymbol
  by_cases here : s.current.kind = .symbol mark
  · rw [bind_ok (p := acceptSymbol mark) (accept_of_eq here)]
    exact ⟨fun read => by cases read; exact ⟨here, rfl⟩, fun ⟨_, same⟩ => same ▸ rfl⟩
  · rw [bind_ok (p := acceptSymbol mark) (accept_of_ne here)]
    exact ⟨nofun, fun ⟨there, _⟩ => absurd there here⟩

/-! ## Operands -/

theorem primary_paren (here : s.current.kind = .symbol .leftParen) :
    primary nested s = afterParen nested s.rest := by
  rw [primary, current_bind, here]
  rfl

/-- In parentheses that hold no query stands an expression. -/
theorem afterParen_eq_ok {e : Expr} {t : TokenStream}
    (no_query : s.current.kind ≠ .keyword .SELECT) :
    afterParen nested s = .ok e t ↔
      ∃ inner u, anyExpression nested s = .ok inner u ∧ u.current.kind = .symbol .rightParen ∧
        e = .paren inner ∧ t = u.rest := by
  unfold afterParen
  rw [bind_ok (p := atKeyword .SELECT) (isAt_eq _ s), beq_eq_false_iff_ne.mpr no_query,
    if_neg (by simp), ← bind_pure_comp]
  constructor
  · intro read
    obtain ⟨wrapped, u, read_inner, read⟩ := read_of_bind read
    obtain ⟨inner, v, read_inner, same⟩ := read_of_bind read_inner
    obtain ⟨_, w, closed, read⟩ := read_of_bind read
    obtain ⟨here, rfl⟩ := expectSymbol_eq_ok.mp closed
    cases same
    cases read
    exact ⟨inner, _, read_inner, here, rfl, rfl⟩
  · rintro ⟨inner, u, read, here, rfl, rfl⟩
    have wrapped : (do return .paren (← anyExpression nested) : Parser Expr) s =
        .ok (.paren inner) u := bind_ok read
    have closed : expectSymbol .rightParen u = .ok () u.rest :=
      expectSymbol_eq_ok.mpr ⟨here, rfl⟩
    exact (bind_ok wrapped).trans (bind_ok closed)

theorem signed_eq_primary (unsigned : sign? s.current.kind = none) :
    signed nested s = primary nested s := by
  rw [signed, currentKind_bind, unsigned]

theorem signed_of_sign {level : Nat} {sign : Sign} {e : Expr} {t : TokenStream}
    (signs : sign? s.current.kind = some (level, sign))
    (read : nested.expression level s.rest = .ok e t) :
    signed nested s = .ok (sign.apply e) t := by
  rw [signed, currentKind_bind, signs]
  simp only
  rw [advance_bind, bind_ok read]
  rfl

theorem expression_of_signed {least : Nat} {e : Expr} {t : TokenStream}
    (read : signed nested s = .ok e t) :
    expression nested least s = continued nested least t.ahead.length e t := by
  rw [expression, bind_ok read, remaining_bind]

/-- Nothing goes on behind an operand where the operator that stands there binds too loosely. -/
theorem continued_stops {least n : Nat} {operand : Expr}
    (stops : ∀ next, continuation? s.current.kind = some next → next.1 < least) :
    continued nested least n operand s = .ok operand s := by
  cases n with
  | zero => rfl
  | succ n =>
      rw [continued, currentKind_bind]
      cases found : continuation? s.current.kind with
      | none => rfl
      | some next =>
          simp only [if_pos (stops next found)]
          rfl

/-! ## Words of a join -/

/-- Behind the first word stands the table, or there are more words up to `JOIN`. -/
theorem joinWords_bind (next : Option JoinKind → Parser α) :
    (joinWords >>= next) =
      (do
        let kind ← currentKind
        match joinKind? kind with
        | none => next none
        | some join =>
            advance
            if kind == .keyword .JOIN then
              next (some join)
            else if join == .left || join == .right || join == .full then
              discard <| acceptKeyword .OUTER
              expectKeyword .JOIN
              next (some join)
            else
              expectKeyword .JOIN
              next (some join)) := by
  simp only [joinWords, bind_assoc]
  congr 1
  funext kind
  cases joinKind? kind with
  | none => rfl
  | some join =>
      simp only [bind_assoc]
      congr 1
      funext _
      by_cases plain : kind = .keyword .JOIN
      · simp [plain]
      · cases join <;> simp [plain]

/-! ## At the end of a text -/

section Ends

variable (ended : s.current.kind = .eof)
include ended

theorem accept_at_end {kind : TokenKind} (inside : kind ≠ .eof) : accept kind s = .ok false s :=
  accept_of_ne fun same => inside (same.symm.trans ended)

theorem commaRest_at_end (item : Parser α) (n : Nat) : commaRest item n s = .ok [] s := by
  cases n with
  | zero => rfl
  | succ n =>
      have no_comma : acceptSymbol .comma s = .ok false s := accept_at_end ended (by simp)
      rw [commaRest, bind_ok no_comma]
      rfl

theorem skipAll_at_end (mark : Symbol) (n : Nat) : skipAll mark n s = .ok () s := by
  cases n with
  | zero => rfl
  | succ n =>
      have no_mark : acceptSymbol mark s = .ok false s := accept_at_end ended (by simp)
      rw [skipAll, bind_ok no_mark]
      rfl

theorem typeWords_at_end (n : Nat) : typeWords n s = .ok [] s := by
  cases n with
  | zero => rfl
  | succ n =>
      rw [typeWords, currentKind_bind, ended]
      rfl

theorem branches_at_end (nested : Nested) (n : Nat) : branches nested n s = .ok [] s := by
  cases n with
  | zero => rfl
  | succ n =>
      have no_word : acceptKeyword .WHEN s = .ok false s := accept_at_end ended (by simp)
      rw [branches, bind_ok no_word]
      rfl

theorem continued_at_end (nested : Nested) (least n : Nat) (operand : Expr) :
    continued nested least n operand s = .ok operand s := by
  apply continued_stops
  rw [ended]
  exact nofun

theorem joins_at_end (nested : Nested) (n : Nat) (left : TableRef) :
    joins nested n left s = .ok left s := by
  cases n with
  | zero => rfl
  | succ n =>
      have no_join : joinWords s = .ok none s := by
        rw [joinWords, currentKind_bind, ended]
        rfl
      rw [joins, bind_ok no_join]
      rfl

end Ends

end ShardedSql.Sql
