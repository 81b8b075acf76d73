import ShardedSql.Proofs.ReportedTokens

/-!
The integers and columns of a statement, and the tokens they are written in. A reader *gathers* them
if what it answers has the leaves it was given and those of the tokens it passes, in whatever order
the answer holds them. It is stated for two readers at once, which do the same wherever the tokens
are such as the lexer makes. Main statement: readers that gather may be put together.
-/

namespace ShardedSql.Sql

open Numeric Text ShardedSql.Sql.Parser Grammar

/-! ## The leaves of a statement -/

/-- A column of a statement, and its place in the text. -/
structure Column where
  table : Option String
  name : String
  span : Span
deriving DecidableEq

inductive Leaf where
  | integer (n : Int64)
  | column (column : Column)
deriving DecidableEq

namespace Leaf

def integer? : Leaf → Option Int64
  | .integer n => some n
  | .column _ => none

def column? : Leaf → Option Column
  | .integer _ => none
  | .column c => some c

theorem integer_mem_iff {leaves : List Leaf} {n : Int64} :
    n ∈ leaves.filterMap integer? ↔ .integer n ∈ leaves := by
  constructor
  · intro member
    obtain ⟨leaf, inside, same⟩ := List.mem_filterMap.mp member
    cases leaf <;> cases same
    exact inside
  · exact fun inside => List.mem_filterMap.mpr ⟨_, inside, rfl⟩

theorem column_mem_iff {leaves : List Leaf} {c : Column} :
    c ∈ leaves.filterMap column? ↔ .column c ∈ leaves := by
  constructor
  · intro member
    obtain ⟨leaf, inside, same⟩ := List.mem_filterMap.mp member
    cases leaf <;> cases same
    exact inside
  · exact fun inside => List.mem_filterMap.mpr ⟨_, inside, rfl⟩

end Leaf

def Literal.leaves : Literal → List Leaf
  | .integer n => [.integer n]
  | _ => []

mutual

/-- The integers and columns in an expression, queries in it included. -/
def Expr.leaves : Expr → List Leaf
  | .literal value => value.leaves
  | .column table name span => [.column ⟨table, name, span⟩]
  | .binary left _ right => left.leaves ++ right.leaves
  | .unary _ operand => operand.leaves
  | .call _ args _ => listLeaves args
  | .subquery query => query.leaves
  | .existence query _ => query.leaves
  | .isNull operand _ => operand.leaves
  | .inList operand items _ => operand.leaves ++ listLeaves items
  | .between operand low high _ => operand.leaves ++ (low.leaves ++ high.leaves)
  | .choice subject branches otherwise =>
      optionLeaves subject ++ (branchLeaves branches ++ optionLeaves otherwise)
  | .cast operand _ => operand.leaves
  | .paren inner => inner.leaves
  | .placeholder _ => []
  | .wildcard _ => []

def listLeaves : List Expr → List Leaf
  | [] => []
  | e :: rest => e.leaves ++ listLeaves rest

def optionLeaves : Option Expr → List Leaf
  | none => []
  | some e => e.leaves

def branchLeaves : List Branch → List Leaf
  | [] => []
  | ⟨condition, result⟩ :: rest => condition.leaves ++ (result.leaves ++ branchLeaves rest)

def itemLeaves : List SelectItem → List Leaf
  | [] => []
  | ⟨e, _⟩ :: rest => e.leaves ++ itemLeaves rest

def orderLeaves : List OrderItem → List Leaf
  | [] => []
  | ⟨e, _⟩ :: rest => e.leaves ++ orderLeaves rest

def TableRef.leaves : TableRef → List Leaf
  | .table _ _ _ => []
  | .derived query _ => query.leaves
  | .join left _ right condition _ => left.leaves ++ (right.leaves ++ optionLeaves condition)

def sourceLeaves : Option TableRef → List Leaf
  | none => []
  | some t => t.leaves

def Select.leaves : Select → List Leaf
  | ⟨_, items, source, condition, groups, having, order, limit, offset⟩ =>
      itemLeaves items ++ (sourceLeaves source ++ (optionLeaves condition ++
        (listLeaves groups ++ (optionLeaves having ++ (orderLeaves order ++
          (optionLeaves limit ++ optionLeaves offset))))))

end

def assignmentLeaves (assignments : List Assignment) : List Leaf :=
  assignments.flatMap (·.value.leaves)

def InsertSource.leaves : InsertSource → List Leaf
  | .values rows => rows.flatMap listLeaves
  | .query q => q.leaves
  | .defaults => []

def Insert.leaves (s : Insert) : List Leaf :=
  s.source.leaves ++ assignmentLeaves s.onDuplicate

def Update.leaves (s : Update) : List Leaf :=
  assignmentLeaves s.assignments ++ optionLeaves s.condition

def Statement.leaves : Statement → List Leaf
  | .select query => query.leaves
  | .insert s => s.leaves
  | .update s => s.leaves
  | .delete s => optionLeaves s.condition

/-- The integer literals of a statement, at any depth. -/
def Statement.integers (statement : Statement) : List Int64 :=
  statement.leaves.filterMap Leaf.integer?

/-- The columns of a statement, at any depth. -/
def Statement.columns (statement : Statement) : List Column :=
  statement.leaves.filterMap Leaf.column?

theorem listLeaves_eq_flatMap (es : List Expr) : listLeaves es = es.flatMap Expr.leaves := by
  induction es with
  | nil => rfl
  | cons e rest ih => rw [listLeaves, ih, List.flatMap_cons]

theorem itemLeaves_eq_flatMap (items : List SelectItem) :
    itemLeaves items = items.flatMap (·.expr.leaves) := by
  induction items with
  | nil => rfl
  | cons item rest ih =>
      obtain ⟨e, label⟩ := item
      rw [itemLeaves, ih, List.flatMap_cons]

theorem orderLeaves_eq_flatMap (items : List OrderItem) :
    orderLeaves items = items.flatMap (·.expr.leaves) := by
  induction items with
  | nil => rfl
  | cons item rest ih =>
      obtain ⟨e, direction⟩ := item
      rw [orderLeaves, ih, List.flatMap_cons]

/-! ## Leaves in tokens -/

/-- The tokens of a column, with what lies between its qualifier and itself. -/
inductive Spells : List Token → Column → Prop where
  | name {name : String} {span : Span} :
      Spells [⟨.identifier name, span⟩] ⟨none, name, span⟩
  | qualified {table name : String} {first point last : Span} :
      Spells [⟨.identifier table, first⟩, ⟨.symbol .dot, point⟩, ⟨.identifier name, last⟩]
        ⟨some table, name, first.merge last⟩

/-- The leaves are written in the tokens in this order, each one behind those before it. A sign may
have turned an integer around. -/
inductive Written : List Token → List Leaf → Prop where
  | nil : Written [] []
  | skip {token : Token} {tokens : List Token} {leaves : List Leaf}
      (later : Written tokens leaves) : Written (token :: tokens) leaves
  | integer {n m : Int64} {span : Span} {tokens : List Token} {leaves : List Leaf}
      (value : m = n ∨ m = -n) (later : Written tokens leaves) :
      Written (⟨.integer n, span⟩ :: tokens) (.integer m :: leaves)
  | column {run tokens : List Token} {column : Column} {leaves : List Leaf}
      (spells : Spells run column) (later : Written tokens leaves) :
      Written (run ++ tokens) (.column column :: leaves)

section Tokens

variable {tokens others : List Token} {leaves more : List Leaf}

theorem written_nil (tokens : List Token) : Written tokens [] := by
  induction tokens with
  | nil => exact .nil
  | cons token rest ih => exact .skip ih

theorem Written.append (first : Written tokens leaves) (second : Written others more) :
    Written (tokens ++ others) (leaves ++ more) := by
  induction first with
  | nil => exact second
  | skip _ ih => exact .skip ih
  | integer value _ ih => exact .integer value ih
  | column spells _ ih =>
      rw [List.append_assoc]
      exact .column spells ih

theorem Written.exists_integer (written : Written tokens leaves) {m : Int64}
    (member : .integer m ∈ leaves) :
    ∃ token ∈ tokens, ∃ n, token.kind = .integer n ∧ (m = n ∨ m = -n) := by
  induction written with
  | nil => cases member
  | skip _ ih =>
      obtain ⟨token, inside, found⟩ := ih member
      exact ⟨token, List.mem_cons_of_mem _ inside, found⟩
  | @integer n _ span _ _ value _ ih =>
      rcases List.mem_cons.mp member with here | later
      · cases here
        exact ⟨⟨.integer n, span⟩, List.mem_cons_self, n, rfl, value⟩
      · obtain ⟨token, inside, found⟩ := ih later
        exact ⟨token, List.mem_cons_of_mem _ inside, found⟩
  | column _ _ ih =>
      rcases List.mem_cons.mp member with here | later
      · cases here
      · obtain ⟨token, inside, found⟩ := ih later
        exact ⟨token, List.mem_append_right _ inside, found⟩

theorem Written.exists_run (written : Written tokens leaves) {column : Column}
    (member : .column column ∈ leaves) :
    ∃ before run after, tokens = before ++ run ++ after ∧ Spells run column := by
  induction written with
  | nil => cases member
  | @skip token _ _ _ ih =>
      obtain ⟨before, run, after, rfl, spells⟩ := ih member
      exact ⟨token :: before, run, after, rfl, spells⟩
  | @integer n _ span _ _ _ _ ih =>
      rcases List.mem_cons.mp member with here | later
      · cases here
      · obtain ⟨before, run, after, rfl, spells⟩ := ih later
        exact ⟨⟨.integer n, span⟩ :: before, run, after, rfl, spells⟩
  | @column first tokens _ _ spells _ ih =>
      rcases List.mem_cons.mp member with here | later
      · cases here
        exact ⟨[], first, tokens, rfl, spells⟩
      · obtain ⟨before, run, after, rfl, spells⟩ := ih later
        exact ⟨first ++ before, run, after, by simp, spells⟩

/-- The integer that tokens are read as, turned around by a sign. -/
theorem Written.negated {n : Int64} (written : Written tokens [.integer n]) :
    Written tokens [.integer (-n)] := by
  generalize whole : [Leaf.integer n] = leaves at written
  induction written with
  | nil => cases whole
  | skip _ ih => exact .skip (ih whole)
  | integer value later =>
      cases whole
      refine .integer ?_ later
      rcases value with same | turned
      · exact .inr (congrArg _ same)
      · exact .inl (by rw [turned, Int64.neg_neg])
  | column => cases whole

end Tokens

/-- The tokens to come are such as the lexer makes: their integers have no signs, and the end is no
token of the text. -/
structure TokenStream.Unsigned (s : TokenStream) : Prop where
  integers : ∀ token ∈ s.ahead, ∀ n, token.kind = .integer n → 0 ≤ n.toInt
  finish : s.finish.kind = .eof

/-- Reading from one stream to the other passes tokens that hold these leaves. -/
structure Takes (s t : TokenStream) (leaves : List Leaf) : Prop where
  ahead : ∃ passed, s.ahead = passed ++ t.ahead ∧ Written passed leaves
  finish : t.finish = s.finish

section Streams

variable {s t u : TokenStream} {leaves more : List Leaf}

theorem Takes.refl (s : TokenStream) : Takes s s [] :=
  ⟨⟨[], rfl, .nil⟩, rfl⟩

theorem Takes.trans (first : Takes s t leaves) (second : Takes t u more) :
    Takes s u (leaves ++ more) := by
  obtain ⟨⟨passed, ahead, written⟩, finish⟩ := first
  obtain ⟨⟨passed', ahead', written'⟩, finish'⟩ := second
  refine ⟨⟨passed ++ passed', ?_, written.append written'⟩, finish'.trans finish⟩
  rw [ahead, ahead', List.append_assoc]

theorem Passes.takes (passes : Passes s t) : Takes s t [] := by
  obtain ⟨⟨passed, ahead, _⟩, finish⟩ := passes
  exact ⟨⟨passed, ahead, written_nil passed⟩, finish⟩

theorem takes_rest (s : TokenStream) : Takes s s.rest [] := by
  refine ⟨⟨s.ahead.take 1, ?_, written_nil _⟩, rfl⟩
  cases ahead : s.ahead <;> simp [TokenStream.rest, ahead]

theorem TokenStream.Unsigned.after (unsigned : s.Unsigned) (takes : Takes s t leaves) :
    t.Unsigned := by
  obtain ⟨⟨passed, ahead, _⟩, finish⟩ := takes
  refine ⟨fun token member => unsigned.integers token ?_, finish ▸ unsigned.finish⟩
  rw [ahead]
  exact List.mem_append_right passed member

/-- A current token that is not the end is the first of those to come. -/
theorem TokenStream.Unsigned.ahead_eq (unsigned : s.Unsigned) (inside : s.current.kind ≠ .eof) :
    s.ahead = s.current :: s.rest.ahead := by
  unfold TokenStream.current TokenStream.rest at *
  cases ahead : s.ahead with
  | nil =>
      rw [ahead] at inside
      exact absurd unsigned.finish inside
  | cons token rest => rfl

/-- A number that is not the smallest is turned around exactly. -/
theorem toInt_neg_of_le {n : Int64} (low : -maxInt64 ≤ n.toInt) : (-n).toInt = -n.toInt := by
  have high := Int64.toInt_lt n
  unfold maxInt64 at low
  rw [Int64.toInt_neg, Int.bmod_eq_of_le] <;> omega

/-- The integers that are read have room on both sides of zero. -/
theorem Takes.integer_bounds (takes : Takes s t leaves) (unsigned : s.Unsigned) {n : Int64}
    (member : .integer n ∈ leaves) : -maxInt64 ≤ n.toInt ∧ n.toInt ≤ maxInt64 := by
  obtain ⟨⟨passed, ahead, written⟩, _⟩ := takes
  obtain ⟨token, inside, m, kind, value⟩ := written.exists_integer member
  have bare : 0 ≤ m.toInt :=
    unsigned.integers token (ahead ▸ List.mem_append_left _ inside) m kind
  have high := Int64.toInt_lt m
  have turned : (-m).toInt = -m.toInt := toInt_neg_of_le (by unfold maxInt64; omega)
  unfold maxInt64
  rcases value with rfl | rfl <;> omega

end Streams

/-! ## Integers from the lexer -/

/-- A token that has no sign of its own. -/
def TokenKind.IsUnsigned (kind : TokenKind) : Prop :=
  ∀ n, kind = .integer n → 0 ≤ n.toInt

theorem isUnsigned_of_cutNumber {c : Char} {rest : List Char} {kind : TokenKind} {extra : Nat}
    (cut : cutNumber c rest = .token kind extra) : kind.IsUnsigned := by
  have lexeme := congrArg Cut.lexeme cut
  simp only [cutNumber, apply_ite Cut.lexeme, Cut.token, Cut.failure, ← apply_ite Lexeme.token,
    Lexeme.token.injEq] at lexeme
  rw [← lexeme]
  refine iteInduction (motive := TokenKind.IsUnsigned) (fun _ => ?_) fun _ => ?_
  · intro n float
    cases float
  refine iteInduction (motive := TokenKind.IsUnsigned) (fun fits => ?_) fun _ => ?_
  · intro n same
    cases same
    unfold maxInt64 at fits
    rw [Int64.toInt_ofNat_of_lt (by omega)]
    exact Int.natCast_nonneg _
  · intro n error
    cases error

theorem isUnsigned_of_lexed {kind : TokenKind} {covered tail : List Char}
    (lexed : Lexed (.token kind) covered tail) : kind.IsUnsigned := by
  rintro n rfl
  generalize same : Lexeme.token (.integer n) = lexeme at lexed
  cases lexed with
  | number digit shape number =>
      cases same
      exact isUnsigned_of_cutNumber number n rfl
  | word =>
      unfold wordKind at same
      split at same <;> cases same
  | _ => cases same

theorem isUnsigned_of_mem_kindsIn {kind : TokenKind} {chars : List Char}
    (member : kind ∈ kindsIn chars) : kind.IsUnsigned := by
  rw [kindsIn] at member
  induction chars using lexed_induction with
  | nil => cases member
  | cons lexeme c w tail lexed ih =>
      simp only [List.mem_filterMap, List.mem_cons] at member ih
      obtain ⟨piece, rfl | later, found⟩ := member
      · cases lexeme with
        | token =>
            cases found
            exact isUnsigned_of_lexed lexed
        | _ => cases found
      · exact ih ⟨piece, later, found⟩

theorem unsigned_ofText (text : String) : (TokenStream.ofText text).Unsigned := by
  refine ⟨fun token member n kind => ?_, rfl⟩
  have inside : token.kind ∈ kindsIn text.toList := by
    rw [← tokenKinds_eq]
    exact List.mem_map_of_mem member
  exact isUnsigned_of_mem_kindsIn inside n kind

/-! ## Readers that gather -/

/-- From wherever such a token is the current one, both readers do the same, and the leaves of an
answer are the given ones and those of the tokens passed. -/
def GathersAt (stands : Token → Prop) (given : List Leaf) {α : Type} (p q : Parser α)
    (leaves : α → List Leaf) : Prop :=
  ∀ s : TokenStream, s.Unsigned → stands s.current → q s = p s ∧
    ∀ a t, p s = .ok a t → ∃ found, Takes s t found ∧ (given ++ found).Perm (leaves a)

/-- The same from anywhere. -/
abbrev Gathers (given : List Leaf) {α : Type} (p q : Parser α) (leaves : α → List Leaf) : Prop :=
  GathersAt (fun _ => True) given p q leaves

/-- Whatever is given, the leaves of an answer are added to it. -/
def Collects {α : Type} (p q : Parser α) (leaves : α → List Leaf) : Prop :=
  ∀ given, Gathers given p q fun a => given ++ leaves a

section Readers

variable {α β : Type} {stands : Token → Prop} {given : List Leaf} {p q : Parser α}
  {f g : α → Parser β} {leaves : α → List Leaf} {more : β → List Leaf}

theorem GathersAt.imp {weaker : Token → Prop} (gathers : GathersAt weaker given p q leaves)
    (imp : ∀ token, stands token → weaker token) : GathersAt stands given p q leaves :=
  fun s unsigned here => gathers s unsigned (imp s.current here)

theorem Gathers.at (gathers : Gathers given p q leaves) : GathersAt stands given p q leaves :=
  GathersAt.imp gathers fun _ _ => trivial

theorem gathers_pure {a : α} (same : given.Perm (leaves a)) :
    GathersAt stands given (pure a) (pure a) leaves := by
  intro s _ _
  refine ⟨rfl, fun b t read => ?_⟩
  cases read
  exact ⟨[], .refl s, by rwa [List.append_nil]⟩

/-- Readers that do the same here do the same with readers behind them that do so too. -/
theorem bind_eq_of_same {s : TokenStream} (same : q s = p s)
    (next : ∀ a t, p s = .ok a t → g a t = f a t) : (q >>= g) s = (p >>= f) s := by
  cases read : p s with
  | ok a t => rw [bind_ok (same.trans read), bind_ok read, next a t read]
  | error e t => rw [bind_error (same.trans read), bind_error read]

theorem GathersAt.bind (first : GathersAt stands given p q leaves)
    (second : ∀ a, Gathers (leaves a) (f a) (g a) more) :
    GathersAt stands given (p >>= f) (q >>= g) more := by
  intro s unsigned here
  obtain ⟨same, takes⟩ := first s unsigned here
  constructor
  · refine bind_eq_of_same same fun a t read => ?_
    obtain ⟨found, passes, _⟩ := takes a t read
    exact (second a t (unsigned.after passes) trivial).1
  · intro b u read
    obtain ⟨a, t, read, read'⟩ := read_of_bind read
    obtain ⟨found, passes, perm⟩ := takes a t read
    obtain ⟨found', passes', perm'⟩ := (second a t (unsigned.after passes) trivial).2 b u read'
    refine ⟨found ++ found', passes.trans passes', ?_⟩
    rw [← List.append_assoc]
    exact (perm.append_right found').trans perm'

theorem Collects.map (collects : Collects p q leaves) {h : α → β}
    (same : ∀ a, leaves a = more (h a)) : Collects (h <$> p) (h <$> q) more := by
  intro given
  rw [← bind_pure_comp, ← bind_pure_comp]
  exact (collects given).bind fun a => gathers_pure (by rw [same])

theorem gathers_if {c : Bool} {p' q' : Parser α} (yes : GathersAt stands given p q leaves)
    (no : GathersAt stands given p' q' leaves) :
    GathersAt stands given (if c then p else p') (if c then q else q') leaves := by
  cases c
  · exact no
  · exact yes

theorem gathers_of_fails (fails : ∀ s a t, p s ≠ .ok a t) :
    GathersAt stands given p p leaves :=
  fun s _ _ => ⟨rfl, fun a t read => absurd read (fails s a t)⟩

theorem gathers_unexpected {expected : Expectation} :
    GathersAt stands given (unexpected expected) (unexpected expected) leaves :=
  gathers_of_fails fun _ _ _ read => nomatch read

theorem gathers_unsupported {kind : Unsupported} :
    GathersAt stands given (unsupported kind) (unsupported kind) leaves :=
  gathers_of_fails fun _ _ _ read => nomatch read

/-! ## Passing tokens -/

/-- A reader that passes tokens, and answers nothing that has leaves. -/
theorem Reports.gathers (reports : Reports p) : GathersAt stands given p p fun _ => given := by
  intro s _ _
  refine ⟨rfl, fun a t read => ?_⟩
  have passes := reports s trivial
  rw [read] at passes
  exact ⟨[], Passes.takes passes, by rw [List.append_nil]⟩

theorem gathers_advance : GathersAt stands given advance advance fun _ => given := by
  intro s _ _
  refine ⟨rfl, fun a t read => ?_⟩
  cases read
  exact ⟨[], takes_rest s, by rw [List.append_nil]⟩

theorem gathers_currentKind_bind {f g : TokenKind → Parser β}
    (next : ∀ kind, Gathers given (f kind) (g kind) more) :
    GathersAt stands given (currentKind >>= f) (currentKind >>= g) more :=
  fun s unsigned _ => next s.current.kind s unsigned trivial

theorem gathers_current_bind {f g : Token → Parser β}
    (next : ∀ token, GathersAt (· = token) given (f token) (g token) more) :
    GathersAt stands given (current >>= f) (current >>= g) more :=
  fun s unsigned _ => next s.current s unsigned rfl

theorem gathers_advance_bind {p q : Parser β} (gathers : Gathers given p q more) :
    GathersAt stands given (do advance; p) (do advance; q) more :=
  gathers_advance.bind fun _ => gathers

/-- What stands before a closing parenthesis. -/
theorem gathers_closing {a : α} (same : given.Perm (leaves a)) :
    GathersAt stands given (do expectSymbol .rightParen; return a)
      (do expectSymbol .rightParen; return a) leaves :=
  (reports_expectSymbol _).gathers.bind fun _ => gathers_pure same

/-! ## Repetition -/

theorem collects_commaRest (collects : Collects p q leaves) (bound : Nat) :
    Collects (commaRest p bound) (commaRest q bound) (·.flatMap leaves) := by
  induction bound with
  | zero => exact fun given => gathers_pure (by simp)
  | succ bound ih =>
      refine fun given => (reports_acceptSymbol _).gathers.bind fun _ => gathers_if ?_ ?_
      · refine (collects _).bind fun next => (ih _).bind fun others => gathers_pure ?_
        simp
      · exact gathers_pure (by simp)

theorem collects_commaList (collects : Collects p q leaves) :
    Collects (commaList p) (commaList q) (·.flatMap leaves) := by
  refine fun given => (collects _).bind fun first => reports_remaining.gathers.bind fun bound => ?_
  refine (collects_commaRest collects bound _).bind fun others => gathers_pure ?_
  simp

theorem collects_afterKeyword (word : Keyword) (collects : Collects p q leaves) :
    Collects (afterKeyword word p) (afterKeyword word q) (·.toList.flatMap leaves) := by
  refine fun given => (reports_acceptKeyword _).gathers.bind fun _ => gathers_if ?_ ?_
  · exact (collects _).bind fun found => gathers_pure (by simp)
  · exact gathers_pure (by simp)

theorem collects_parenthesized (collects : Collects p q leaves) :
    Collects (parenthesized p) (parenthesized q) leaves :=
  fun _ => (reports_expectSymbol _).gathers.bind fun _ => (collects _).bind fun _ =>
    gathers_closing (.refl _)

end Readers

end ShardedSql.Sql
