import CallPolicy.CommandLine
import CallPolicy.Json.Reader
import CallPolicy.SourceUnit.Dump

/-!
# CallPolicy.Main

The program. Its arguments are those of `CommandLine`; the workspace comes as a JSON document on
standard input.
-/

open CallPolicy

/-- All the lines that are left. -/
partial def readAll (input : IO.FS.Stream) (done : String) : IO String := do
  let line ← input.getLine
  if line.isEmpty then return done else readAll input (done ++ line)

def main (args : List String) : IO UInt32 := do
  let some snapshot := Json.read? (← readAll (← IO.getStdin) "")
    | IO.eprintln "The workspace on standard input is not a JSON document."
      return 1
  match CommandLine.run (.ofDatum snapshot) args with
  | .ok outcome =>
    for entry in outcome.log do
      IO.eprintln entry.line
    IO.print outcome.output
    return outcome.code.toUInt32
  | .error _ =>
    IO.eprintln "The run was broken off."
    return 1
