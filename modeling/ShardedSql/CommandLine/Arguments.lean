import ShardedSql.CommandLine.Options
import ShardedSql.Text.Words

/-!
What the command line asks for: to explain how a statement is routed and rewritten, or to check a
configuration.
-/

namespace ShardedSql.CommandLine

open Text

/-- The pages of help. -/
inductive Page where
  | program
  | explain
  | check
  | help
deriving DecidableEq

/-- A statement to explain, with the values to bind as they were typed. -/
structure ExplainRequest where
  sql : String
  positional : List String
  /-- Names with values, the latest first. -/
  named : List (String × String)
  json : Bool
deriving DecidableEq

inductive Command where
  | explain (request : ExplainRequest)
  | check
deriving DecidableEq

structure Arguments where
  /-- The configuration file, if one is given. -/
  config : Option String
  verbose : Bool
  command : Command
deriving DecidableEq

/-! ## Options -/

inductive ProgramOption where
  | config | verbose | help | version

structure ProgramState where
  config : Option String
  verbose : Bool

/-- The file and the flag may be given once each, and the file has to have a name. -/
def takeProgramOption : ProgramOption → String → ProgramState → Except (Ending Page) ProgramState
  | .config, path, state =>
      if path.isEmpty || state.config.isSome then .error (.misuse .program)
      else .ok { state with config := some path }
  | .verbose, _, state =>
      if state.verbose then .error (.misuse .program) else .ok { state with verbose := true }
  | .help, _, _ => .error (.help .program)
  | .version, _, _ => .error .version

def programOptions : OptionReader ProgramOption ProgramState Page where
  page := .program
  syntaxes :=
    [⟨.config, some 'c', "config", true⟩, ⟨.verbose, some 'v', "verbose", false⟩,
      ⟨.help, some 'h', "help", false⟩, ⟨.version, some 'V', "version", false⟩]
  step := takeProgramOption

inductive ExplainOption where
  | sql | param | named | json | help

structure ExplainState where
  sql : Option String
  positional : List String
  named : List (String × String)
  json : Bool

/-- A name and a value with an equals sign between them, without the blanks around either. -/
def readNamed (text : String) : Option (String × String) := do
  let (name, value) ← cutAt '=' text.toList
  let name := trim name
  guard !name.isEmpty
  return (String.ofList name, String.ofList (trim value))

/-- Values to bind may be given repeatedly, the statement and the flag once each. -/
def takeExplainOption : ExplainOption → String → ExplainState → Except (Ending Page) ExplainState
  | .sql, text, state =>
      if state.sql.isSome then .error (.misuse .explain) else .ok { state with sql := some text }
  | .param, text, state => .ok { state with positional := state.positional ++ [text] }
  | .named, text, state =>
      match readNamed text with
      | some entry => .ok { state with named := entry :: state.named }
      | none => .error (.misuse .explain)
  | .json, _, state =>
      if state.json then .error (.misuse .explain) else .ok { state with json := true }
  | .help, _, _ => .error (.help .explain)

def explainOptions : OptionReader ExplainOption ExplainState Page where
  page := .explain
  syntaxes :=
    [⟨.sql, some 's', "sql", true⟩, ⟨.param, some 'p', "param", true⟩,
      ⟨.named, some 'n', "named", true⟩, ⟨.json, none, "json", false⟩,
      ⟨.help, some 'h', "help", false⟩]
  step := takeExplainOption

inductive CheckOption where
  | help

def checkOptions : OptionReader CheckOption Unit Page where
  page := .check
  syntaxes := [⟨.help, some 'h', "help", false⟩]
  step := fun _ _ _ => .error (.help .check)

/-! ## Commands -/

/-- Reads options behind which nothing may be left over. -/
def readAll {Name State : Type} (reader : OptionReader Name State Page) (start : State)
    (words : List String) : Except (Ending Page) State :=
  match reader.read none (.ok start) words with
  | .ok (held, []) => held
  | .ok (_, _ :: _) => reader.misuse
  | .error ending => .error ending

def readExplain (words : List String) : Except (Ending Page) Command := do
  let state ← readAll explainOptions ⟨none, [], [], false⟩ words
  match state.sql with
  | some sql => return .explain ⟨sql, state.positional, state.named, state.json⟩
  | none => throw (.misuse .explain)

def readCheck (words : List String) : Except (Ending Page) Command := do
  readAll checkOptions () words
  return .check

/-- The page that `help` with these words asks for. -/
def helpPage : List String → Ending Page
  | [] => .help .program
  | ["explain"] => .help .explain
  | ["check"] => .help .check
  | ["help"] => .help .help
  | _ => .misuse .program

def readCommand : List String → Except (Ending Page) Command
  | "explain" :: rest => readExplain rest
  | "check" :: rest => readCheck rest
  | "help" :: rest => .error (helpPage rest)
  | _ => .error (.misuse .program)

/-- The options of the program, and behind them a command. What is wrong with the last option may go
untold when the command asks for help. -/
def Arguments.read (words : List String) : Except (Ending Page) Arguments := do
  let (held, rest) ← programOptions.read none (.ok ⟨none, false⟩) words
  let command ← readCommand rest
  let state ← held
  return ⟨state.config, state.verbose, command⟩

end ShardedSql.CommandLine
