import ShardedSql.Sql.Precedence

/-!
The positional placeholders of a statement, and the statement with values in their places. A value
is written as a number in parentheses; what is left of a statement forgets where its columns stand,
so that without values it is the statement itself but for those places.
-/

namespace ShardedSql.Sql

/-! ## The numbers of placeholders -/

def Placeholder.ordinals : Placeholder → List Nat
  | .positional ordinal => [ordinal]
  | .named _ => []

mutual

/-- The numbers of the positional placeholders in an expression, queries in it included. -/
def Expr.ordinals : Expr → List Nat
  | .literal _ => []
  | .column _ _ _ => []
  | .binary left _ right => left.ordinals ++ right.ordinals
  | .unary _ operand => operand.ordinals
  | .call _ args _ => listOrdinals args
  | .subquery query => query.ordinals
  | .existence query _ => query.ordinals
  | .isNull operand _ => operand.ordinals
  | .inList operand items _ => operand.ordinals ++ listOrdinals items
  | .between operand low high _ => operand.ordinals ++ (low.ordinals ++ high.ordinals)
  | .choice subject branches otherwise =>
      optionOrdinals subject ++ (branchOrdinals branches ++ optionOrdinals otherwise)
  | .cast operand _ => operand.ordinals
  | .paren inner => inner.ordinals
  | .placeholder place => place.ordinals
  | .wildcard _ => []

def listOrdinals : List Expr → List Nat
  | [] => []
  | e :: rest => e.ordinals ++ listOrdinals rest

def optionOrdinals : Option Expr → List Nat
  | none => []
  | some e => e.ordinals

def branchOrdinals : List Branch → List Nat
  | [] => []
  | ⟨condition, result⟩ :: rest =>
      condition.ordinals ++ (result.ordinals ++ branchOrdinals rest)

def itemOrdinals : List SelectItem → List Nat
  | [] => []
  | ⟨e, _⟩ :: rest => e.ordinals ++ itemOrdinals rest

def orderOrdinals : List OrderItem → List Nat
  | [] => []
  | ⟨e, _⟩ :: rest => e.ordinals ++ orderOrdinals rest

def TableRef.ordinals : TableRef → List Nat
  | .table _ _ _ => []
  | .derived query _ => query.ordinals
  | .join left _ right condition _ =>
      left.ordinals ++ (right.ordinals ++ optionOrdinals condition)

def sourceOrdinals : Option TableRef → List Nat
  | none => []
  | some t => t.ordinals

def Select.ordinals : Select → List Nat
  | ⟨_, items, source, condition, groups, having, order, limit, offset⟩ =>
      itemOrdinals items ++ (sourceOrdinals source ++ (optionOrdinals condition ++
        (listOrdinals groups ++ (optionOrdinals having ++ (orderOrdinals order ++
          (optionOrdinals limit ++ optionOrdinals offset))))))

end

def InsertSource.ordinals : InsertSource → List Nat
  | .values rows => rows.flatMap listOrdinals
  | .query q => q.ordinals
  | .defaults => []

def assignmentOrdinals (assignments : List Assignment) : List Nat :=
  assignments.flatMap (·.value.ordinals)

def Statement.ordinals : Statement → List Nat
  | .select query => query.ordinals
  | .insert s => s.source.ordinals ++ assignmentOrdinals s.onDuplicate
  | .update s => assignmentOrdinals s.assignments ++ optionOrdinals s.condition
  | .delete s => optionOrdinals s.condition

/-! ## Values in the places of placeholders -/

section Filling

variable (values : List Int64)

/-- The value of a placeholder as it is written in its place; a placeholder without one stays. -/
def Placeholder.filled : Placeholder → Expr
  | .positional ordinal =>
      match values[ordinal]? with
      | some value => .paren (.literal (.integer value))
      | none => .placeholder (.positional ordinal)
  | .named name => .placeholder (.named name)

mutual

/-- The expression with values in the places of its placeholders; where its columns stand is
forgotten. -/
def Expr.filled : Expr → Expr
  | .literal value => .literal value
  | .column table name _ => .column table name (.point 0)
  | .binary left op right => .binary left.filled op right.filled
  | .unary op operand => .unary op operand.filled
  | .call function args distinct => .call function (filledList args) distinct
  | .subquery query => .subquery query.filled
  | .existence query negated => .existence query.filled negated
  | .isNull operand negated => .isNull operand.filled negated
  | .inList operand items negated => .inList operand.filled (filledList items) negated
  | .between operand low high negated =>
      .between operand.filled low.filled high.filled negated
  | .choice subject branches otherwise =>
      .choice (filledOption subject) (filledBranches branches) (filledOption otherwise)
  | .cast operand typeName => .cast operand.filled typeName
  | .paren inner => .paren inner.filled
  | .placeholder place => place.filled values
  | .wildcard table => .wildcard table

def filledList : List Expr → List Expr
  | [] => []
  | e :: rest => e.filled :: filledList rest

def filledOption : Option Expr → Option Expr
  | none => none
  | some e => some e.filled

def filledBranches : List Branch → List Branch
  | [] => []
  | ⟨condition, result⟩ :: rest => ⟨condition.filled, result.filled⟩ :: filledBranches rest

def filledItems : List SelectItem → List SelectItem
  | [] => []
  | ⟨e, label⟩ :: rest => ⟨e.filled, label⟩ :: filledItems rest

def filledOrder : List OrderItem → List OrderItem
  | [] => []
  | ⟨e, direction⟩ :: rest => ⟨e.filled, direction⟩ :: filledOrder rest

def TableRef.filled : TableRef → TableRef
  | .table schema name label => .table schema name label
  | .derived query label => .derived query.filled label
  | .join left kind right condition shared =>
      .join left.filled kind right.filled (filledOption condition) shared

def filledSource : Option TableRef → Option TableRef
  | none => none
  | some t => some t.filled

def Select.filled : Select → Select
  | ⟨distinct, items, source, condition, groups, having, order, limit, offset⟩ =>
      { distinct
        items := filledItems items
        source := filledSource source
        condition := filledOption condition
        groups := filledList groups
        having := filledOption having
        order := filledOrder order
        limit := filledOption limit
        offset := filledOption offset }

end

def Assignment.filled (assignment : Assignment) : Assignment :=
  { assignment with value := assignment.value.filled values }

def InsertSource.filled : InsertSource → InsertSource
  | .values rows => .values (rows.map (filledList values))
  | .query q => .query (q.filled values)
  | .defaults => .defaults

def Insert.filled (s : Insert) : Insert :=
  { s with
    source := s.source.filled values
    onDuplicate := s.onDuplicate.map (Assignment.filled values) }

def Statement.filled : Statement → Statement
  | .select query => .select (query.filled values)
  | .insert s => .insert (s.filled values)
  | .update s =>
      .update
        { s with
          assignments := s.assignments.map (Assignment.filled values)
          condition := filledOption values s.condition }
  | .delete s => .delete { s with condition := filledOption values s.condition }

end Filling

def SelectItem.filled (values : List Int64) (item : SelectItem) : SelectItem :=
  ⟨item.expr.filled values, item.label⟩

def OrderItem.filled (values : List Int64) (item : OrderItem) : OrderItem :=
  ⟨item.expr.filled values, item.direction⟩

/-! ## Lists and signs -/

theorem listOrdinals_eq_flatMap (es : List Expr) : listOrdinals es = es.flatMap (·.ordinals) := by
  induction es with
  | nil => rfl
  | cons e rest ih => rw [listOrdinals, ih, List.flatMap_cons]

theorem filledList_eq_map (values : List Int64) (es : List Expr) :
    filledList values es = es.map (·.filled values) := by
  induction es with
  | nil => rfl
  | cons e rest ih => rw [filledList, ih, List.map_cons]

theorem isEmpty_filledBranches (values : List Int64) (branches : List Branch) :
    (filledBranches values branches).isEmpty = branches.isEmpty := by
  cases branches with
  | nil => rfl
  | cons branch rest =>
      obtain ⟨condition, result⟩ := branch
      rw [filledBranches]
      rfl

theorem itemOrdinals_eq_flatMap (items : List SelectItem) :
    itemOrdinals items = items.flatMap (·.expr.ordinals) := by
  induction items with
  | nil => rfl
  | cons item rest ih =>
      obtain ⟨e, label⟩ := item
      rw [itemOrdinals, ih, List.flatMap_cons]

theorem filledItems_eq_map (values : List Int64) (items : List SelectItem) :
    filledItems values items = items.map (·.filled values) := by
  induction items with
  | nil => rfl
  | cons item rest ih =>
      obtain ⟨e, label⟩ := item
      rw [filledItems, ih, List.map_cons, SelectItem.filled]

theorem orderOrdinals_eq_flatMap (order : List OrderItem) :
    orderOrdinals order = order.flatMap (·.expr.ordinals) := by
  induction order with
  | nil => rfl
  | cons item rest ih =>
      obtain ⟨e, direction⟩ := item
      rw [orderOrdinals, ih, List.flatMap_cons]

theorem filledOrder_eq_map (values : List Int64) (order : List OrderItem) :
    filledOrder values order = order.map (·.filled values) := by
  induction order with
  | nil => rfl
  | cons item rest ih =>
      obtain ⟨e, direction⟩ := item
      rw [filledOrder, ih, List.map_cons, OrderItem.filled]

/-- A sign adds no placeholder and takes none away. -/
theorem ordinals_apply (sign : Sign) (e : Expr) : (sign.apply e).ordinals = e.ordinals := by
  cases sign with
  | none => rfl
  | op op =>
      cases op <;> cases e <;> try rfl
      case neg.literal value => cases value <;> rfl

/-- A placeholder stays, or a number in parentheses takes its place. -/
theorem Placeholder.filled_cases (values : List Int64) (place : Placeholder) :
    place.filled values = .placeholder place ∨
      ∃ value, place.filled values = .paren (.literal (.integer value)) := by
  cases place with
  | named name => exact .inl rfl
  | positional ordinal =>
      cases found : values[ordinal]? with
      | none => exact .inl (by simp [Placeholder.filled, found])
      | some value => exact .inr ⟨value, by simp [Placeholder.filled, found]⟩

/-- A sign before a placeholder is one before its value: a number in parentheses takes none in. -/
theorem filled_apply (values : List Int64) (sign : Sign) (e : Expr) :
    (sign.apply e).filled values = sign.apply (e.filled values) := by
  cases sign with
  | none => rfl
  | op op =>
      cases e with
      | placeholder place =>
          have stays : Sign.apply (.op op) (.placeholder place) =
              .unary op (.placeholder place) := by
            cases op <;> rfl
          rw [stays, Expr.filled, Expr.filled]
          rcases place.filled_cases values with same | ⟨value, same⟩ <;>
            · rw [same]
              cases op <;> rfl
      | literal value => cases op <;> cases value <;> rfl
      | _ => cases op <;> rfl

end ShardedSql.Sql
