import ShardedSql.CommandLine

/-!
The program: reads its arguments, its environment and its configuration file, and prints.
-/

namespace ShardedSql.CommandLine

/-- A reason of the operating system with its number. -/
def systemReason (details : String) (code : UInt32) : String :=
  details ++ " (os error " ++ toString code.toNat ++ ")"

/-- The reason why a file cannot be read. -/
def fileReason : IO.Error → String
  | .noFileOrDirectory _ code details => systemReason details code
  | .permissionDenied _ code details => systemReason details code
  | .inappropriateType _ code details => systemReason details code
  | .invalidArgument _ code details => systemReason details code
  | .resourceExhausted _ code details => systemReason details code
  | e => toString e

/-- The text of a file, or the reason why it cannot be read. -/
def readDocument (path : String) : IO (Except String String) := do
  try
    let bytes ← IO.FS.readBinFile path
    match String.fromUTF8? bytes with
    | some text => return .ok text
    | none => return .error "stream did not contain valid UTF-8"
  catch e => return .error (fileReason e)

def runProgram (words : List String) : IO Outcome := do
  match Arguments.read words with
  | .error ending => return .ofEnding ending
  | .ok arguments => do
      let environment : Environment :=
        ⟨← IO.getEnv configVariable, ← IO.getEnv capacityVariable⟩
      return arguments.run environment (← readDocument (arguments.configPath environment))

end ShardedSql.CommandLine

def main (words : List String) : IO UInt32 := do
  let outcome ← ShardedSql.CommandLine.runProgram words
  IO.print outcome.output
  IO.eprint outcome.errors
  return UInt32.ofNat outcome.status
