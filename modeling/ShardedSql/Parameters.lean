import ShardedSql.Value

/-!
The values bound to the placeholders of a statement.
-/

namespace ShardedSql

open Numeric Sql

/-- What is bound: by position, counted from 0, and by name. -/
structure Bindings where
  positional? : Nat → Option Value
  named? : String → Option Value

namespace Bindings

/-- Nothing is bound. -/
def empty : Bindings :=
  ⟨fun _ => none, fun _ => none⟩

def placeholder? (bindings : Bindings) : Placeholder → Option Value
  | .positional ordinal => bindings.positional? ordinal
  | .named name => bindings.named? name

end Bindings

/-- Values listed in order, and values by name, the latest first. -/
structure Parameters where
  positional : List Value
  named : List (String × Value)

namespace Parameters

def bindings (parameters : Parameters) : Bindings where
  positional? ordinal := parameters.positional[ordinal]?
  named? name := (parameters.named.find? (·.1 == name)).map (·.2)

def withPositional (parameters : Parameters) (values : List Value) : Parameters :=
  { parameters with positional := values }

end Parameters

/-- The position a reference such as `?3` asks for. -/
def positionOf? (reference : String) : Option Nat :=
  match reference.toList with
  | '?' :: digits => readUInt64? (String.ofList digits)
  | _ => none

/-- The value a head comment refers to: a named parameter, a positional one, or the text itself. -/
def Bindings.resolve (bindings : Bindings) (reference : String) : Value :=
  match bindings.named? reference with
  | some value => value
  | none =>
      match (positionOf? reference).bind bindings.positional? with
      | some value => value
      | none => .text reference

end ShardedSql
