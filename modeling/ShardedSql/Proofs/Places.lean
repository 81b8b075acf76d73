import ShardedSql.Expansion
import ShardedSql.Sql.Precedence

/-!
The places of lists. A list bound to a placeholder stands in as many places as it has elements, so
that every later placeholder is numbered anew; it may do so where the placeholder is an item of its
own among others. Main statement: a query fits if its clauses do, list by list and expression by
expression.
-/

namespace ShardedSql

namespace Sql

/-- So many placeholders, each with so many places beyond one. -/
structure Layout where
  marks : Nat
  further : Nat → Nat

variable (further : Nat → Nat)

/-! ## Ordinals -/

/-- The first place of a placeholder, where each one before it takes `further` places beyond one. -/
def place : Nat → Nat
  | 0 => 0
  | k + 1 => place k + further k + 1

/-- All places of a placeholder. -/
def places (k : Nat) : List Expr :=
  (List.range' (place further k) (further k + 1)).map fun ordinal =>
    .placeholder (.positional ordinal)

theorem places_eq_cons (k : Nat) :
    places further k = .placeholder (.positional (place further k)) ::
      (List.range' (place further k + 1) (further k)).map fun ordinal =>
        .placeholder (.positional ordinal) := by
  rw [places, List.range'_succ, List.map_cons]

theorem places_of_single {further : Nat → Nat} {k : Nat} (single : further k = 0) :
    places further k = [.placeholder (.positional (place further k))] := by
  rw [places_eq_cons, single]
  rfl

/-! ## Items of their own -/

def Placeholder.isSingle : Placeholder → Bool
  | .positional ordinal => further ordinal == 0
  | .named _ => true

/-- Not a placeholder with more than one place. -/
def Expr.isSingle : Expr → Bool
  | .placeholder place => place.isSingle further
  | _ => true

def Expr.isPlaceholder : Expr → Bool
  | .placeholder _ => true
  | _ => false

mutual

/-- Whether every placeholder with more than one place is an item of a list: of the arguments of a
call, of `IN`, or of a clause of a query. -/
def Expr.fits : Expr → Bool
  | .literal _ => true
  | .column _ _ _ => true
  | .binary left _ right => left.fits && right.fits
  | .unary _ operand => operand.fits
  | .call _ args _ => itemsFit args
  | .subquery query => query.fits
  | .existence query _ => query.fits
  | .isNull operand _ => operand.fits
  | .inList operand items _ => operand.fits && itemsFit items
  | .between operand low high _ => operand.fits && (low.fits && high.fits)
  | .choice subject branches otherwise =>
      optionFits subject && (branchesFit branches && optionFits otherwise)
  | .cast operand _ => operand.fits
  | .paren inner => inner.fits
  | .placeholder place => place.isSingle further
  | .wildcard _ => true

def itemsFit : List Expr → Bool
  | [] => true
  | e :: rest => (e.isPlaceholder || e.fits) && itemsFit rest

def optionFits : Option Expr → Bool
  | none => true
  | some e => e.fits

def branchesFit : List Branch → Bool
  | [] => true
  | ⟨condition, result⟩ :: rest => condition.fits && (result.fits && branchesFit rest)

def selectedFit : List SelectItem → Bool
  | [] => true
  | ⟨e, _⟩ :: rest => (e.isPlaceholder || e.fits) && selectedFit rest

def orderedFit : List OrderItem → Bool
  | [] => true
  | ⟨e, _⟩ :: rest => (e.isPlaceholder || e.fits) && orderedFit rest

def TableRef.fits : TableRef → Bool
  | .table _ _ _ => true
  | .derived query _ => query.fits
  | .join left _ right condition _ => left.fits && (right.fits && optionFits condition)

def sourceFits : Option TableRef → Bool
  | none => true
  | some t => t.fits

def Select.fits : Select → Bool
  | ⟨_, items, source, condition, groups, having, order, limit, offset⟩ =>
      selectedFit items && (sourceFits source && (optionFits condition && (itemsFit groups &&
        (optionFits having && (orderedFit order && (optionFits limit && optionFits offset))))))

end

def InsertSource.fits : InsertSource → Bool
  | .values rows => rows.all (itemsFit further)
  | .query q => q.fits further
  | .defaults => true

def assignmentsFit (assignments : List Assignment) : Bool :=
  assignments.all (·.value.fits further)

/-- Whether every placeholder with more than one place is an item of a list, or of a row that is
inserted. -/
def Statement.fits : Statement → Bool
  | .select query => query.fits further
  | .insert s => s.source.fits further && assignmentsFit further s.onDuplicate
  | .update s => assignmentsFit further s.assignments && optionFits further s.condition
  | .delete s => optionFits further s.condition

variable {further : Nat → Nat}

theorem optionFits_iff {e : Option Expr} :
    optionFits further e = true ↔ ∀ a ∈ e, a.fits further = true := by
  cases e <;> simp [optionFits]

theorem itemsFit_iff {es : List Expr} :
    itemsFit further es = true ↔ ∀ e ∈ es, e.isPlaceholder = true ∨ e.fits further = true := by
  induction es with
  | nil => simp [itemsFit]
  | cons e rest ih => rw [itemsFit, Bool.and_eq_true, Bool.or_eq_true, ih, List.forall_mem_cons]

theorem selectedFit_eq_itemsFit (items : List SelectItem) :
    selectedFit further items = itemsFit further (items.map (·.expr)) := by
  induction items with
  | nil => rfl
  | cons item rest ih =>
      obtain ⟨e, label⟩ := item
      rw [selectedFit, ih, List.map_cons, itemsFit]

theorem orderedFit_eq_itemsFit (order : List OrderItem) :
    orderedFit further order = itemsFit further (order.map (·.expr)) := by
  induction order with
  | nil => rfl
  | cons item rest ih =>
      obtain ⟨e, direction⟩ := item
      rw [orderedFit, ih, List.map_cons, itemsFit]

theorem sourceFits_iff {source : Option TableRef} :
    sourceFits further source = true ↔ ∀ t ∈ source, t.fits further = true := by
  cases source <;> simp [sourceFits]

/-- A query fits if its clauses do. -/
theorem fits_select {query : Select} :
    query.fits further = true ↔
      itemsFit further (query.items.map (·.expr)) = true ∧
      sourceFits further query.source = true ∧
      optionFits further query.condition = true ∧
      itemsFit further query.groups = true ∧
      optionFits further query.having = true ∧
      itemsFit further (query.order.map (·.expr)) = true ∧
      optionFits further query.limit = true ∧
      optionFits further query.offset = true := by
  obtain ⟨distinct, items, source, condition, groups, having, order, limit, offset⟩ := query
  rw [Select.fits, selectedFit_eq_itemsFit, orderedFit_eq_itemsFit]
  simp only [Bool.and_eq_true]

/-- A sign adds no placeholder, and takes none away. -/
theorem fits_apply (sign : Sign) (e : Expr) : (sign.apply e).fits further = e.fits further := by
  cases sign with
  | none => rfl
  | op op =>
      cases op <;> cases e <;> try rfl
      case neg.literal value => cases value <;> rfl

end Sql

end ShardedSql
