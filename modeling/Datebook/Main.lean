import Datebook.Program

/-!
# Command line

The first argument names the program to run. Its settings come from the environment, and it
runs until standard input ends.

## Main definitions

* `main`
-/

namespace Datebook

/-- The variables of the environment that the programs know. -/
def environment : IO Environment :=
  Program.settingNames.filterMapM fun name => do
    return (← IO.getEnv name).map (name, ·)

/-- Read standard input to its end. -/
partial def awaitEnd (input : IO.FS.Stream) : IO Unit := do
  unless (← input.read 4096).isEmpty do
    awaitEnd input

/-- Run a program; the exit code is given back. -/
def Program.runUntilEnd (program : Program) : IO UInt32 := do
  match program.start (← environment) with
  | .error e =>
    IO.eprint e.report
    return 1
  | .ok () =>
    awaitEnd (← IO.getStdin)
    return 0

end Datebook

/-- Run the program that the first argument names. -/
def main (arguments : List String) : IO UInt32 :=
  match arguments.head?.bind Datebook.Program.ofName? with
  | some program => program.runUntilEnd
  | none => do
    IO.eprintln "usage: calendar-worker | calendar-scheduler | calendar-sender | calendar-api"
    return 2
