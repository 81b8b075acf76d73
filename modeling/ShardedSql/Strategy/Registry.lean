import ShardedSql.Strategy

/-!
Strategies by name. A configuration names a strategy as a call, `mod(user_id, 8)`, or by its bare
name; the registry knows what to make of the arguments.
-/

namespace ShardedSql

open Numeric Text

/-- Makes a strategy from the arguments of its call. -/
abbrev StrategyFactory := List String → Except ShardError Strategy

/-- The name and the arguments of a call. -/
structure StrategyCall where
  name : String
  args : List String
deriving DecidableEq

namespace StrategyCall

def isNameStart (c : Char) : Bool :=
  c.isAlpha || c == '_'

def isNameChar (c : Char) : Bool :=
  c.isAlpha || c.isDigit || c == '_' || c == '.' || c == '$'

/-- What stands between parentheses that end the text, blanks apart. -/
def insideParens? : List Char → Option (List Char)
  | '(' :: rest =>
      let inside := rest.takeWhile fun c => c ≠ '(' && c ≠ ')'
      match rest.drop inside.length with
      | ')' :: after => if after.all isBlank then some inside else none
      | _ => none
  | _ => none

/-- The arguments between the commas; blank parentheses hold none. -/
def splitArgs (inside : List Char) : List String :=
  if inside.all isBlank then []
  else (splitAt ',' inside).map fun arg => String.ofList (trim arg)

/-- A name, then perhaps arguments in parentheses. -/
def read? (spec : String) : Option StrategyCall :=
  match spec.toList.dropWhile isBlank with
  | c :: rest =>
      if isNameStart c then
        let name := String.ofList (c :: rest.takeWhile isNameChar)
        let after := (rest.dropWhile isNameChar).dropWhile isBlank
        if after.isEmpty then some ⟨name, []⟩
        else (insideParens? after).map fun inside => ⟨name, splitArgs inside⟩
      else none
  | [] => none

end StrategyCall

/-- Factories by name in lower case, the latest first. -/
structure StrategyRegistry where
  factories : List (String × StrategyFactory)

namespace StrategyRegistry

def empty : StrategyRegistry :=
  ⟨[]⟩

/-- A later factory of the same name takes the place of an earlier one. -/
def register (registry : StrategyRegistry) (name : String) (factory : StrategyFactory) :
    StrategyRegistry :=
  ⟨(lowerAscii name, factory) :: registry.factories⟩

def find? (registry : StrategyRegistry) (name : String) : Option StrategyFactory :=
  (registry.factories.find? (·.1 == lowerAscii name)).map (·.2)

def contains (registry : StrategyRegistry) (name : String) : Bool :=
  (registry.find? name).isSome

def names (registry : StrategyRegistry) : NameSet :=
  .ofList (registry.factories.map (·.1))

def description (registry : StrategyRegistry) : String :=
  let names := registry.names.toList.map quoted
  "StrategyRegistry \x7b strategies: [" ++ joined ", " names ++ "] \x7d"

def wrongArity (name usage : String) (args : List String) : ShardError :=
  .configuration (.wrongArity name usage args.length)

def moduloFactory : StrategyFactory
  | [column, modulus] =>
      match readInt64? modulus with
      | some n => Strategy.modulo? column n
      | none => .error (.configuration (.modulusNotInteger modulus))
  | args => .error (wrongArity "mod" "mod(column, n)" args)

def monthFactory : StrategyFactory
  | [column] => .ok (.month column)
  | args => .error (wrongArity "month" "month(column)" args)

def valueFactory : StrategyFactory
  | [column] => .ok (.value column)
  | args => .error (wrongArity "val" "val(column)" args)

/-- The strategies that are always known. -/
def default : StrategyRegistry :=
  ((empty.register "mod" moduloFactory).register "month" monthFactory).register "val" valueFactory

/-- The strategy that a call asks for. -/
def build (registry : StrategyRegistry) (spec : String) : Except ShardError Strategy :=
  match StrategyCall.read? spec with
  | none => .error (.configuration (.malformedStrategy spec))
  | some call =>
      if call.args.any String.isEmpty then .error (.configuration (.emptyArgument spec))
      else
        match registry.find? call.name with
        | some factory => factory call.args
        | none => .error (.configuration (.unknownStrategy call.name))

end StrategyRegistry

end ShardedSql
