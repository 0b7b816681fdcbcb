import TableFeed.Json.Printer
import TableFeed.Program
import TableFeed.Rehearsal.Script
import TableFeed.Rehearsal.Store

/-!
# The command line program

Runs a load as a rehearsal: the files and the environment are real, the store is one in memory that
accepts every row.  What a load would tell its operator is printed, one line for each event.
-/

namespace TableFeed.Main

open Rehearsal

/-- What stands at a path of the file system. -/
def readPath (path : String) : IO (Path × Except FileFault (List UInt8)) := do
  let p := Path.read path
  try
    let octets ← IO.FS.readBinFile p.print
    return (p, .ok octets.toList)
  catch
    | .noFileOrDirectory .. => return (p, .error .missing)
    | .inappropriateType .. => return (p, .error .directory)
    | e => throw e

/-- The files that a command line names. -/
def readFiles (words : List String) : IO FileSource := do
  let paths := match CommandLine.read words with
    | .ok (.load a) => a.paths
    | _ => []
  let found ← paths.mapM readPath
  return fun p => (found.lookup p).getD (.error .missing)

/-- The variables of the environment that settings are read from. -/
def readEnvironment : IO Environment := do
  let found ← Settings.variableNames.mapM fun name => return (name, ← IO.getEnv name)
  return fun name => (found.lookup name).join

/-- Prints what a run has printed. -/
def printEvents (events : List Event) : IO Unit :=
  for e in events do
    match Json.print (.mapping e.line) with
    | .ok line => IO.println line
    | .error f => IO.eprintln f.message

/-- Ends a run of the program. -/
def conclude : Program.Ending → IO UInt32
  | .help => do
    IO.println Program.usage
    return 0
  | .usage f => do
    IO.eprintln (Program.complaint f)
    return 2
  | .status code => return UInt32.ofNat code
  | .failed f => do
    IO.eprintln (f.className ++ ": " ++ f.message.shown)
    return 1

/-- Runs the program on the words of a command line. -/
def run (words : List String) : IO UInt32 := do
  let script : Script := {}
  let s : Surroundings (Store Rejection) :=
    { environment := ← readEnvironment, files := ← readFiles words, client := fun _ => Store.client,
      schedule := script.schedule, pace := script.pace }
  let p := Program.run s words {}
  printEvents p.printed
  conclude p.ending

end TableFeed.Main

/-- Runs the program. -/
def main (words : List String) : IO UInt32 := TableFeed.Main.run words
