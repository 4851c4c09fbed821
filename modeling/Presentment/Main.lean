import Presentment.CommandLine.Run

/-!
# The program

Reads what an invocation may need, runs it, and prints what came of it.
-/

open Presentment.CommandLine

/-- The text of a file, if it can be read. -/
def readText? (name : String) : IO (Option String) := do
  try
    return some (← IO.FS.readFile name)
  catch _ =>
    return none

/-- The files that an invocation names. -/
def filesOf : Invocation → List String
  | .disclose info request => [info, request]
  | _ => []

/-- Whether an invocation reads the standard input. -/
def readsStandardInput : Invocation → Bool
  | .namespaces source => source == .standardInput
  | .fragments _ source => source == .standardInput
  | _ => false

/-- Reads what the arguments ask for. -/
def readInputs (arguments : List String) : IO Inputs := do
  match Invocation.ofArguments? arguments with
  | none => return ⟨fun _ => none, ""⟩
  | some invocation =>
    let texts ← (filesOf invocation).mapM (fun name => return (name, ← readText? name))
    let standardInput ←
      if readsStandardInput invocation then (← IO.getStdin).readToEnd else pure ""
    return ⟨fun name => (texts.lookup name).join, standardInput⟩

def main (arguments : List String) : IO UInt32 := do
  let outcome := run arguments (← readInputs arguments)
  (← IO.getStdout).putStr outcome.output
  if !outcome.report.isEmpty then (← IO.getStderr).putStrLn outcome.report
  return UInt32.ofNat outcome.exitCode
