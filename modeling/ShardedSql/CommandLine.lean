import ShardedSql.CommandLine.Explain
import ShardedSql.Configuration.Document

/-!
The command line: what a run of the program prints and how it ends, from its arguments and the text
of the configuration file.
-/

namespace ShardedSql.CommandLine

open Numeric

/-- What a run prints, and the status it ends with. -/
structure Outcome where
  status : Nat
  output : String
  errors : String
deriving DecidableEq

namespace Outcome

def success (output : String) : Outcome :=
  ⟨0, output, ""⟩

/-- What a failed run says; behind a file that cannot be read comes the cause once more. -/
def failureText : ShardError → String
  | .io reason =>
      linesText ["Error: " ++ (ShardError.io reason).message, "", "Caused by:", "    " ++ reason]
  | e => linesText ["Error: " ++ e.message]

def failure (e : ShardError) : Outcome :=
  ⟨1, "", failureText e⟩

def ofEnding : Ending Page → Outcome
  | .help page => success page.text
  | .version => success versionText
  | .misuse page => ⟨2, "", page.misuseText⟩

end Outcome

/-- The settings and the routes of a configuration. -/
def checkText (configuration : Configuration) : String :=
  let settings := configuration.settings
  linesText (["cache capacity: " ++ natText settings.cacheCapacity,
      "mandatory:      " ++ toString settings.mandatory, Explanation.dashes]
    ++ settings.routes.map fun route =>
      " " ++ Explanation.column route.table ++ " " ++ route.strategy)

/-- What a command prints under a configuration. -/
def Command.output (configuration : Configuration) : Command → Except ShardError String
  | .check => .ok (checkText configuration)
  | .explain request => do
      let explanation ← Explanation.ofRequest configuration request
      return if request.json then explanation.json.render 0 ++ "\n" else explanation.text

/-- What the environment of a run asks for. -/
structure Environment where
  config : Option String
  cacheCapacity : Option String

def Environment.empty : Environment :=
  ⟨none, none⟩

/-- The configuration file of a run. -/
def Arguments.configPath (arguments : Arguments) (environment : Environment) : String :=
  (arguments.config.or environment.config).getD defaultConfig

/-- Runs a command, given the text of its configuration file or the reason why there is none. -/
def Arguments.run (arguments : Arguments) (environment : Environment)
    (document : Except String String) : Outcome :=
  let output : Except ShardError String := do
    let text ← document.mapError ShardError.io
    let configuration ←
      Configuration.ofDocument .default environment.cacheCapacity text
    arguments.command.output configuration
  match output with
  | .ok text => .success text
  | .error e => .failure e

end ShardedSql.CommandLine
