import ShardedSql.Proofs.AlikeRouting
import ShardedSql.Proofs.SpreadTokens

/-!
Lists of items with places for the elements of lists. A placeholder that is read as an item is read
off a question mark of its own, so that what the item is bound to may be read as several items. Main
statement: if the rules that nest keep up with such a change, then so do their lists of items.
-/

namespace ShardedSql.Sql.Spreading

open Text ShardedSql.Sql.Parser Grammar
open Filling (kindsOf length_kindsOf Near near_succ)

/-- The placeholder with an ordinal. -/
abbrev placeholderAt (k : Nat) : Expr :=
  .placeholder (.positional k)

section Placeholders

variable {nested : Nested} {s t : TokenStream} {k : Nat}

/-! ## Where a placeholder is read -/

theorem gives_callOf (function : String) :
    Gives (callOf nested function) (· = placeholderAt k) False := by
  refine gives_bind fun _ => gives_bind fun distinct => gives_bind fun _ => gives_bind fun _ => ?_
  have closing (p : Parser (List Expr)) :
      Gives (do let args ← p; expectSymbol .rightParen; return .call function args distinct)
        (· = placeholderAt k) False :=
    gives_bind fun _ => gives_bind fun _ => gives_pure nofun
  exact gives_if (closing _) (gives_if (closing _) (closing _))

theorem gives_castBody : Gives (castBody nested) (· = placeholderAt k) False :=
  gives_bind fun _ => gives_bind fun _ => gives_bind fun _ => gives_bind fun _ =>
    gives_bind fun _ => gives_pure nofun

theorem gives_choiceOf (subject : Option Expr) :
    Gives (choiceOf nested subject) (· = placeholderAt k) False := by
  refine gives_bind fun _ => gives_bind fun whens => ?_
  refine gives_if gives_unexpected ?_
  exact gives_bind fun _ => gives_bind fun _ => gives_pure nofun

theorem gives_caseBody : Gives (caseBody nested) (· = placeholderAt k) False :=
  gives_bind fun _ => gives_if (gives_bind gives_choiceOf) (gives_bind gives_choiceOf)

theorem gives_afterName (name : String) (span : Span) :
    Gives (afterName nested name span) (· = placeholderAt k) False := by
  refine gives_bind fun _ => gives_if (gives_callOf name) ?_
  refine gives_bind fun _ => gives_if (gives_bind fun _ => ?_) (gives_pure nofun)
  exact gives_if (gives_pure nofun) (gives_bind fun _ => gives_bind fun _ => gives_pure nofun)

theorem gives_callOfKeyword (word : Keyword) (span : Span) :
    Gives (callOfKeyword nested word span) (· = placeholderAt k) False :=
  gives_bind fun _ => gives_if (gives_callOf word.spelling) fun _ _ _ read => nomatch read

theorem gives_afterParen : Gives (afterParen nested) (· = placeholderAt k) False := by
  have closing {α : Type} (f : α → Expr) (other : ∀ a, f a ≠ placeholderAt k) (p : Parser α) :
      Gives (do let inner ← f <$> p; expectSymbol .rightParen; return inner)
        (· = placeholderAt k) False := by
    simp only [map_eq_pure_bind, bind_assoc, pure_bind]
    exact gives_bind fun a => gives_bind fun _ => gives_pure (other a)
  exact gives_bind fun _ => gives_if (closing Expr.subquery nofun _) (closing Expr.paren nofun _)

theorem gives_extend (operand : Expr) (level : Nat) (form : Continuation) :
    Gives (extend nested operand level form) (· = placeholderAt k) False := by
  have members (negated : Bool) :
      Gives (membership nested operand negated) (· = placeholderAt k) False := by
    refine gives_bind fun _ => gives_bind fun _ => ?_
    exact gives_if (gives_bind fun _ => gives_bind fun _ => gives_pure nofun)
      (gives_bind fun _ => gives_bind fun _ => gives_pure nofun)
  have ranges (negated : Bool) :
      Gives (range nested operand negated level) (· = placeholderAt k) False :=
    gives_bind fun _ => gives_bind fun _ => gives_bind fun _ => gives_pure nofun
  cases form with
  | nullTest => exact gives_bind fun _ => gives_bind fun _ => gives_pure nofun
  | negation =>
      refine gives_bind fun kind => ?_
      cases kind with
      | keyword word =>
          cases word with
          | IN => exact gives_bind fun _ => members true
          | BETWEEN => exact gives_bind fun _ => ranges true
          | LIKE => exact gives_bind fun _ => gives_bind fun _ => gives_pure nofun
          | _ => exact gives_unexpected
      | _ => exact gives_unexpected
  | membership => exact members false
  | range => exact ranges false
  | operator op => exact gives_bind fun _ => gives_pure nofun

/-- A placeholder is read off a question mark. -/
theorem primary_placeholder (read : primary nested s = .ok (placeholderAt k) t) :
    s.current.kind = .symbol .question ∧ k = s.ordinal ∧ t = passed s := by
  have apart (p : Parser Expr) (found : p s = .ok (placeholderAt k) t)
      (fails : Gives p (· = placeholderAt k) False) :
      s.current.kind = .symbol .question ∧ k = s.ordinal ∧ t = passed s :=
    (fails s _ t found rfl).elim
  have literal (value : Literal) (found : literalOf value s = .ok (placeholderAt k) t) :=
    apart _ found (gives_bind fun _ => gives_pure nofun)
  obtain ⟨token, u, looked, read⟩ := read_of_bind read
  cases looked
  -- Only a question mark takes an ordinal; what begins with any other token is of another form.
  cases here : s.current.kind with
  | symbol mark =>
      rw [here] at read apart
      cases mark with
      | question =>
          cases read
          exact ⟨rfl, rfl, rfl⟩
      | colon => exact apart _ read (gives_bind fun _ => gives_bind fun _ => gives_pure nofun)
      | star => exact apart _ read (gives_bind fun _ => gives_pure nofun)
      | leftParen => exact apart _ read (gives_bind fun _ => gives_afterParen)
      | _ => cases read
  | keyword word =>
      rw [here] at read apart literal
      cases word with
      | TRUE => exact literal _ read
      | FALSE => exact literal _ read
      | NULL => exact literal _ read
      | CASE => exact apart _ read (gives_bind fun _ => gives_caseBody)
      | CAST => exact apart _ read (gives_bind fun _ => gives_castBody)
      | EXISTS => exact apart _ read (gives_bind fun _ => gives_bind fun _ => gives_pure nofun)
      | LEFT => exact apart _ read (gives_bind fun _ => gives_callOfKeyword _ _)
      | RIGHT => exact apart _ read (gives_bind fun _ => gives_callOfKeyword _ _)
      | _ => cases read
  | identifier name =>
      rw [here] at read apart
      exact apart _ read (gives_bind fun _ => gives_afterName _ _)
  | integer n =>
      rw [here] at read literal
      exact literal _ read
  | float x =>
      rw [here] at read literal
      exact literal _ read
  | string text =>
      rw [here] at read literal
      exact literal _ read
  | blob bytes =>
      rw [here] at read literal
      exact literal _ read
  | eof =>
      rw [here] at read
      cases read
  | error reason =>
      rw [here] at read
      cases read

/-- A plus sign changes nothing, so that a placeholder may stand behind it. -/
theorem signed_placeholder (read : signed nested s = .ok (placeholderAt k) t) :
    sign? s.current.kind = none ∧ primary nested s = .ok (placeholderAt k) t ∨
      ∃ level, sign? s.current.kind = some (level, .none) ∧
        nested.expression level s.rest = .ok (placeholderAt k) t := by
  obtain ⟨kind, u, looked, read⟩ := read_of_bind read
  cases looked
  cases signs : sign? s.current.kind with
  | none =>
      rw [signs] at read
      exact .inl ⟨rfl, read⟩
  | some found =>
      obtain ⟨level, sign⟩ := found
      rw [signs] at read
      obtain ⟨_, u, pass, read⟩ := read_of_bind read
      cases pass
      obtain ⟨operand, u, read_operand, ending⟩ := read_of_bind read
      cases sign with
      | none =>
          cases ending
          exact .inr ⟨level, rfl, read_operand⟩
      | op op =>
          exfalso
          have applied := (EStateM.Result.ok.inj ending).1
          cases op <;> cases operand <;> try cases applied
          case neg.literal value => cases value <;> cases applied

/-- What goes on behind an operand is no placeholder; so where one is read nothing goes on. -/
theorem continued_placeholder {least n : Nat} {operand : Expr}
    (read : continued nested least n operand s = .ok (placeholderAt k) t) :
    operand = placeholderAt k ∧ t = s ∧
      (n = 0 ∨ ∀ next, continuation? s.current.kind = some next → next.1 < least) := by
  induction n generalizing operand s with
  | zero =>
      cases read
      exact ⟨rfl, rfl, .inl rfl⟩
  | succ n ih =>
      obtain ⟨kind, u, looked, read⟩ := read_of_bind read
      cases looked
      cases found : continuation? s.current.kind with
      | none =>
          rw [found] at read
          cases read
          exact ⟨rfl, rfl, .inr nofun⟩
      | some next =>
          rw [found] at read
          by_cases loose : next.1 < least
          · simp only [if_pos loose] at read
            cases read
            refine ⟨rfl, rfl, .inr fun next' same => ?_⟩
            cases same
            exact loose
          -- An operand with something behind it is no placeholder any more, however much is read.
          · simp only [if_neg loose] at read
            obtain ⟨_, u, _, read⟩ := read_of_bind read
            obtain ⟨extended, v, extends_operand, read⟩ := read_of_bind read
            obtain ⟨same, _, _⟩ := ih read
            exact (gives_extend operand _ _ _ _ _ extends_operand same).elim

end Placeholders

/-! ## Rules that nest -/

section Rules

variable {r : Runs} {bounds : Nat × Nat} {stands : TokenKind → Prop}

/-- The nested rules keep up. What they read as the placeholder of a list is read as its first
place, and where they read anything, a question mark before what ends an item is a place. -/
structure NestedKeeps (r : Runs) (nested nested' : Nested) : Prop where
  expression : ∀ bounds level, Keeps r.toLayout bounds (nested.expression level)
    (nested'.expression level) (·.fits r.further = true) r.SameExpr
  item : ∀ bounds level s s' k t, Spread r.toLayout bounds 0 s s' →
    nested.expression level s = .ok (placeholderAt k) t →
      k < r.marks ∧ (∀ next, continuation? t.current.kind = some next → next.1 < level) ∧
        ∃ t', nested'.expression level s' = .ok (placeholderAt (place r.further k)) t' ∧
          t'.ordinal = place r.further k + 1 ∧ Spread r.toLayout bounds (r.further k) t t'
  further : ∀ level s, (∃ s₀ a t, nested.expression level s₀ = .ok a t) →
    s.current.kind = .symbol .question → continuation? s.rest.current.kind = none →
      nested'.expression level s = .ok (placeholderAt s.ordinal) (passed s)
  select : ∀ bounds, Keeps r.toLayout bounds nested.select nested'.select
    (·.fits r.further = true) r.SameSelect
  tables : ∀ bounds, Keeps r.toLayout bounds nested.tables nested'.tables
    (·.fits r.further = true) Runs.SameTables

/-! ## Lists of items -/

section Items

variable {nested nested' : Nested} {α β : Type} {label : Parser β} {mk : Expr → β → α}
  {exprOf : α → Expr} {plain : β}

/-- An item is an expression with a label behind it. -/
def labelled (nested : Nested) (label : Parser β) (mk : Expr → β → α) : Parser α := do
  let e ← anyExpression nested
  return mk e (← label)

/-- Labels that read the same from both streams, with a plain one before a comma. -/
structure Labels (r : Runs) {α β : Type} (label : Parser β) (mk : Expr → β → α) (exprOf : α → Expr)
    (plain : β) : Prop where
  exprOf_mk : ∀ e l, exprOf (mk e l) = e
  copies : ∀ bounds, Copies r.toLayout bounds label
  at_comma : ∀ s, s.current.kind = .symbol .comma → label s = .ok plain s

theorem labelled_ok {s t u : TokenStream} {e : Expr} {l : β}
    (read : nested.expression 0 s = .ok e t) (behind : label t = .ok l u) :
    labelled nested label mk s = .ok (mk e l) u := by
  rw [labelled, anyExpression, bind_ok read, bind_ok behind]
  rfl

theorem commaRest_ok {item : Parser α} {n : Nat} {s t u : TokenStream} {a : α} {as : List α}
    (here : s.current.kind = .symbol .comma) (read : item s.rest = .ok a t)
    (others : commaRest item n t = .ok as u) : commaRest item (n + 1) s = .ok (a :: as) u := by
  have comma : acceptSymbol .comma s = .ok true s.rest := accept_of_eq here
  rw [commaRest, bind_ok comma]
  simp only [↓reduceIte]
  rw [bind_ok read, bind_ok others]
  rfl

/-- Behind the expression of an item the second stream may stand before further places. The label of
the item is read behind the last of these, which are items of their own. -/
theorem further_items (keeps : NestedKeeps r nested nested')
    (labels : Labels r label mk exprOf plain) {pending : Nat} {u u' t : TokenStream} {l : β}
    (labelled_at : label u = .ok l t) (reads : ∃ s a v, nested.expression 0 s = .ok a v)
    (stops : continuation? u.current.kind = none) {n m : Nat}
    (spread : Spread r.toLayout (n, m) pending u u') :
    ∃ l₀ v', label u' = .ok l₀ v' ∧ (kindsOf v').length ≤ m ∧
      ∀ n', (kindsOf v').length ≤ n' → ∃ bs t' n'', n'' ≤ n' ∧
        bs.map exprOf = (List.range' u'.ordinal pending).map placeholderAt ∧
        Spread r.toLayout (n, n'') 0 t t' ∧
        ∀ cs t'', commaRest (labelled nested' label mk) n'' t' = .ok cs t'' →
          commaRest (labelled nested' label mk) n' v' = .ok (bs ++ cs) t'' := by
  -- By induction on the places that are still to be passed, each of them an item of its own.
  induction pending generalizing u' m with
  | zero =>
      obtain ⟨_, v', label', rfl, behind⟩ :=
        labels.copies _ _ _ _ _ spread trivial labelled_at trivial
      refine ⟨l, v', label', behind.short', fun n' short => ?_⟩
      exact ⟨[], v', n', Nat.le_refl _, rfl, behind.tighten behind.short short, fun _ _ => id⟩
  | succ pending ih =>
      obtain ⟨comma, question, later⟩ := spread.further
      refine ⟨plain, u', labels.at_comma u' comma, spread.short', fun n' short => ?_⟩
      have two_more : (kindsOf u').length = (kindsOf (passed u'.rest)).length + 2 := by
        rw [spread.kinds, later.kinds]
        simp [furtherKinds]
      obtain ⟨n', rfl⟩ : ∃ n₀, n' = n₀ + 1 := Nat.exists_eq_succ_of_ne_zero (by omega)
      have stops' : continuation? (passed u'.rest).current.kind = none := by
        cases pending with
        | zero =>
            rw [later.current]
            exact stops
        | succ pending =>
            rw [later.further.1]
            rfl
      have place := keeps.further 0 u'.rest reads question stops'
      obtain ⟨l₁, v', label', short', behind⟩ :=
        ih (later.tighten later.short (Nat.le_refl _))
      obtain ⟨bs, t', n'', fewer, ordinals, spread', rest⟩ := behind n' (by omega)
      refine ⟨mk (placeholderAt u'.ordinal) l₁ :: bs, t', n'', by omega, ?_, spread', ?_⟩
      · rw [List.map_cons, labels.exprOf_mk, ordinals, List.range'_succ, List.map_cons]
        rfl
      · intro cs t'' read
        exact commaRest_ok comma (labelled_ok place label') (rest cs t'' read)

/-- An item is followed by as many items as it has places. -/
theorem labelled_follows (keeps : NestedKeeps r nested nested')
    (labels : Labels r label mk exprOf plain) {s s' t : TokenStream} {a : α} {n m : Nat}
    (spread : Spread r.toLayout (n, m) 0 s s') (read : labelled nested label mk s = .ok a t)
    (fits : (exprOf a).isPlaceholder = true ∨ (exprOf a).fits r.further = true) :
    ∃ b v', labelled nested' label mk s' = .ok b v' ∧ (kindsOf v').length ≤ m ∧
      ∀ n', (kindsOf v').length ≤ n' → ∃ bs t' n'', n'' ≤ n' ∧
        (∀ es es', r.SameItems es es' →
          r.SameItems (exprOf a :: es) ((b :: bs).map exprOf ++ es')) ∧
        Spread r.toLayout (n, n'') 0 t t' ∧
        ∀ cs t'', commaRest (labelled nested' label mk) n'' t' = .ok cs t'' →
          commaRest (labelled nested' label mk) n' v' = .ok (bs ++ cs) t'' := by
  obtain ⟨e, u, read_expr, read_label⟩ := read_of_bind read
  obtain ⟨l, v, label_at, ending⟩ := read_of_bind read_label
  cases ending
  rw [labels.exprOf_mk] at fits ⊢
  by_cases single : e.fits r.further = true
  · obtain ⟨e', u', read', same, between⟩ :=
      keeps.expression (n, m) 0 s s' e u spread trivial read_expr single
    obtain ⟨_, v', label', rfl, behind⟩ := labels.copies _ _ _ _ _ between trivial label_at trivial
    refine ⟨mk e' l, v', labelled_ok read' label', behind.short', fun n' short => ?_⟩
    refine ⟨[], v', n', Nat.le_refl _, ?_, behind.tighten behind.short short, fun _ _ rest => rest⟩
    intro es es' others
    rw [List.map_singleton, labels.exprOf_mk]
    exact .cons same others
  -- What does not fit is the placeholder of a list: its first place is the item, the others follow.
  · obtain ⟨k, rfl⟩ : ∃ k, e = placeholderAt k := by
      have placeholder := fits.resolve_right single
      cases e with
      | placeholder place =>
          cases place with
          | positional k => exact ⟨k, rfl⟩
          | named name => exact absurd rfl single
      | _ => cases placeholder
    obtain ⟨within, stops, u', read', ordinal, between⟩ :=
      keeps.item (n, m) 0 s s' k u spread read_expr
    -- At the lowest level, nothing that goes on behind an operand binds too loosely.
    have ends : continuation? u.current.kind = none := by
      cases found : continuation? u.current.kind with
      | none => rfl
      | some next => exact absurd (stops next found) (Nat.not_lt_zero _)
    obtain ⟨l₀, v', label', short', behind⟩ :=
      further_items keeps labels label_at ⟨s, _, u, read_expr⟩ ends between
    refine ⟨mk (placeholderAt (place r.further k)) l₀, v', labelled_ok read' label', short', ?_⟩
    intro n' short
    obtain ⟨bs, t', n'', fewer, ordinals, spread', rest⟩ := behind n' short
    refine ⟨bs, t', n'', fewer, ?_, spread', rest⟩
    intro es es' others
    rw [List.map_cons, labels.exprOf_mk, ordinals, ordinal, ← places_eq_cons]
    exact .spread within others

/-- What is good of a list of items, and how two lists of items are related. -/
abbrev KeepsItems (r : Runs) (bounds : Nat × Nat) {α : Type} (exprOf : α → Expr)
    (p q : Parser (List α)) : Prop :=
  Keeps r.toLayout bounds p q (fun as => itemsFit r.further (as.map exprOf) = true)
    fun as bs => r.SameItems (as.map exprOf) (bs.map exprOf)

theorem keeps_itemRest (keeps : NestedKeeps r nested nested')
    (labels : Labels r label mk exprOf plain) (n n' : Nat) :
    KeepsItems r (n, n') exprOf (commaRest (labelled nested label mk) n)
      (commaRest (labelled nested' label mk) n') := by
  refine keeps_bounded (fun _ : Unit => commaRest (labelled nested label mk))
    (fun _ => commaRest (labelled nested' label mk))
    (fun as => itemsFit r.further (as.map exprOf) = true)
    (fun _ as bs => r.SameItems (as.map exprOf) (bs.map exprOf)) (fun _ _ => .nil)
    (fun _ n _ ended => commaRest_at_end ended _ n) (fun _ n _ ended => commaRest_at_end ended _ n)
    ?_ n n' ()
  intro n n' ih i
  refine follows_accept_near (near_succ n n') (by simp) ?_ (follows_pure fun _ => .nil)
  intro s s' as t spread _ read fits
  obtain ⟨a, u, read_item, read⟩ := read_of_bind read
  obtain ⟨others, v, read_others, ending⟩ := read_of_bind read
  cases ending
  rw [List.map_cons, itemsFit_iff, List.forall_mem_cons] at fits
  obtain ⟨b, v', item', short, behind⟩ := labelled_follows keeps labels spread read_item fits.1
  obtain ⟨bs, t', n'', fewer, same, between, rest⟩ := behind n' short
  obtain ⟨cs, t'', read', related, last⟩ :=
    -- The second stream has passed more places than the first, so that it goes on with fewer
    -- tokens.
    ih n'' () u t' others t between trivial read_others (itemsFit_iff.mpr fits.2)
  refine ⟨b :: (bs ++ cs), t'', ?_, ?_, last.widen (Nat.le_refl _) fewer⟩
  · simp only [↓reduceIte]
    rw [bind_ok item', bind_ok (rest cs t'' read')]
    rfl
  · change r.SameItems (exprOf a :: others.map exprOf) ((b :: bs ++ cs).map exprOf)
    rw [List.map_append]
    exact same _ _ related

theorem keeps_itemList (keeps : NestedKeeps r nested nested')
    (labels : Labels r label mk exprOf plain) :
    KeepsItems r bounds exprOf (commaList (labelled nested label mk))
      (commaList (labelled nested' label mk)) := by
  intro s s' as t spread _ read fits
  obtain ⟨a, u, read_item, read⟩ := read_of_bind read
  obtain ⟨n, _, left, read⟩ := read_of_bind read
  cases left
  obtain ⟨others, v, read_others, ending⟩ := read_of_bind read
  cases ending
  rw [List.map_cons, itemsFit_iff, List.forall_mem_cons] at fits
  obtain ⟨b, v', item', short, behind⟩ := labelled_follows keeps labels spread read_item fits.1
  obtain ⟨bs, t', n', fewer, same, between, rest⟩ :=
    behind v'.ahead.length (Nat.le_of_eq (length_kindsOf v'))
  have tight := between.tighten (Nat.le_of_eq (length_kindsOf u)) between.short'
  obtain ⟨cs, t'', read', related, last⟩ := keeps_itemRest keeps labels _ n' u t' others t tight
    trivial read_others (itemsFit_iff.mpr fits.2)
  have narrow := between.short
  rw [length_kindsOf] at short narrow
  refine ⟨b :: (bs ++ cs), t'', ?_, ?_, last.widen narrow (Nat.le_trans fewer short)⟩
  · rw [commaList, bind_ok item', remaining_bind, bind_ok (rest cs t'' read')]
    rfl
  · change r.SameItems (exprOf a :: others.map exprOf) ((b :: bs ++ cs).map exprOf)
    rw [List.map_append]
    exact same _ _ related

end Items

end Rules

end ShardedSql.Sql.Spreading
