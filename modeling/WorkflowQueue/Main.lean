import WorkflowQueue.CommandLine.Program

namespace WorkflowQueue.CommandLine

/-!
# The executable

Hands words, variables and the file of variables to the program, and writes what
comes back. No network is attached: whatever the program sends meets one that is
out of reach.
-/

/-- The file of variables in the current directory. -/
def variableFileName : String := ".env"

/-- The text of the file of variables, if it can be read. -/
def readVariableFile : IO (Option String) :=
  try
    return some (← IO.FS.readFile variableFileName)
  catch _ =>
    return none

/-- Those of some variables that are set. -/
def readVariables
    (names : List String) :
    IO Variables :=
  names.filterMapM fun name => do
    return (← IO.getEnv name).map fun value => (name, value)

/-- What the executable finds around it. -/
def readSurroundings : IO Surroundings := do
  let file ← readVariableFile
  let asked := Variables.namesAskedFor (file.getD "").toList
  return {
    environment := ← readVariables (Config.keys ++ asked)
    variableFile := file
    network := .unreachable
    responses := []
    interruptOnRequest := none
  }

end WorkflowQueue.CommandLine

/-- Run the program and write what it says. -/
def main
    (words : List String) :
    IO UInt32 := do
  let outcome := WorkflowQueue.CommandLine.program
    (← WorkflowQueue.CommandLine.readSurroundings) words
  IO.print outcome.output
  IO.eprint outcome.errors
  return UInt32.ofNat outcome.exitCode
