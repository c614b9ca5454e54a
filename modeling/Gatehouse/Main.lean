import Gatehouse.Host

/-!
The command line: the end of standard input stands for the interrupt signal.
-/
namespace Gatehouse

def namesIn (text : String) : List String :=
  ((text.split fun c => !(c.isAlphanum || c = '_')).toList.map (·.toString)).filter (· ≠ "")

def readEnvironment (names : List String) : IO Environment := do
  let found ← names.mapM fun name => do
    return (← IO.getEnv name).map (name, ·)
  return found.filterMap id

partial def awaitEnd (input : IO.FS.Stream) : IO Unit := do
  if (← input.getLine).isEmpty then return else awaitEnd input

def printLines (lines : List LogLine) : IO Unit := lines.forM fun l => IO.println l.text

end Gatehouse

open Gatehouse in
def main (arguments : List String) : IO UInt32 := do
  let file := (← (IO.FS.readFile ".env").toBaseIO).toOption
  let names := Host.filterVariable :: Setting.all.map (·.variableName)
  let env ← readEnvironment (names ++ namesIn (file.getD ""))
  let (result, lines) := Host.boot env file arguments .opened
  printLines lines
  match result with
  | .error e =>
    IO.print e.stdout
    IO.eprint e.stderr
    return e.exitCode.toUInt32
  | .ok host =>
    awaitEnd (← IO.getStdin)
    printLines (host.halt .interrupt)
    return 0
