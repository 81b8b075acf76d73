/-!
Options of a command line: long ones behind two hyphens, short ones behind one, several of which may
share it. A value stands behind an equals sign, right behind a short option, or in the next word.
Options are taken in one at a time, so that the first one to end the reading wins.
-/

namespace ShardedSql.CommandLine

/-- Why a command line asks for nothing to be done. -/
inductive Ending (Page : Type) where
  /-- A page of help is asked for. -/
  | help (page : Page)
  | version
  /-- The command line cannot be understood; the page is the one that would help. -/
  | misuse (page : Page)
deriving DecidableEq

/-- How an option is written. -/
structure OptionSyntax (Name : Type) where
  name : Name
  short : Option Char
  long : String
  takesValue : Bool

/-- What a word is read as. -/
inductive Word where
  /-- Two hyphens alone: no option follows. -/
  | separator
  | long (name : String) (value : Option String)
  | short (letters : List Char)
  | plain
deriving DecidableEq

def Word.ofString (word : String) : Word :=
  match word.toList with
  | ['-', '-'] => .separator
  | '-' :: '-' :: rest =>
      let name := rest.takeWhile (· ≠ '=')
      match rest.drop name.length with
      | _ :: value => .long (String.ofList name) (some (String.ofList value))
      | [] => .long (String.ofList name) none
  | ['-'] => .plain
  | '-' :: letters => .short letters
  | _ => .plain

/-- What a word of options comes to: the state after it, and the option whose value comes next. -/
structure Taken (Name State : Type) where
  state : State
  pending : Option Name

/-- Reading of the options of one command, whose effect is given by `step`. -/
structure OptionReader (Name State Page : Type) where
  page : Page
  syntaxes : List (OptionSyntax Name)
  step : Name → String → State → Except (Ending Page) State

namespace OptionReader

variable {Name State Page : Type} (reader : OptionReader Name State Page)

def misuse {α : Type} : Except (Ending Page) α :=
  .error (.misuse reader.page)

/-- A flag, or an option with the value it has, if any. -/
def take (option : OptionSyntax Name) (value : Option String) (state : State) :
    Except (Ending Page) (Taken Name State) :=
  if option.takesValue then
    match value with
    | some value => do return ⟨← reader.step option.name value state, none⟩
    | none => .ok ⟨state, some option.name⟩
  else if value.isSome then reader.misuse
  else do return ⟨← reader.step option.name "" state, none⟩

/-- The value that the rest of a word of short options is, if there is a rest. -/
def attached : List Char → Option String
  | [] => none
  | '=' :: value => some (String.ofList value)
  | value => some (String.ofList value)

/-- Takes in the short options of one word. -/
def takeShort : List Char → State → Except (Ending Page) (Taken Name State)
  | [], state => .ok ⟨state, none⟩
  | letter :: rest, state =>
      match reader.syntaxes.find? (·.short == some letter) with
      | none => reader.misuse
      | some option =>
          if option.takesValue then reader.take option (attached rest) state
          else do
            let taken ← reader.take option none state
            takeShort rest taken.state

def takeLong (name : String) (value : Option String) (state : State) :
    Except (Ending Page) (Taken Name State) :=
  match reader.syntaxes.find? (·.long == name) with
  | none => reader.misuse
  | some option => reader.take option value state

/-- Takes in options up to the first word that is none; `pending` is the option whose value the next
word has to be. A value in a word of its own is only judged when the next option comes, so `held`
may be a failure that is still to be told. It is handed on with the words that are left over. -/
def read (pending : Option Name) (held : Except (Ending Page) State) :
    List String → Except (Ending Page) (Except (Ending Page) State × List String)
  | [] => if pending.isSome then reader.misuse else .ok (held, [])
  | word :: rest =>
      match pending, Word.ofString word with
      -- A word that looks like an option is no value.
      | some name, .plain => read none (held.bind (reader.step name word)) rest
      | some _, _ => reader.misuse
      | none, .plain => .ok (held, word :: rest)
      | none, .separator => if rest.isEmpty then .ok (held, []) else reader.misuse
      | none, .long name value => do
          let taken ← reader.takeLong name value (← held)
          read taken.pending (.ok taken.state) rest
      | none, .short letters => do
          let taken ← reader.takeShort letters (← held)
          read taken.pending (.ok taken.state) rest

end OptionReader

end ShardedSql.CommandLine
