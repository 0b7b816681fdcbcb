import TableFeed.Load

/-!
# The program

A run of the program reads the command line, then the settings, and then loads.  Of what the
operator is told, it prints what is at or above the level of the settings.
-/

namespace TableFeed

/-- How a run of the program ends. -/
inductive Program.Ending where
  /-- It shows its help. -/
  | help
  /-- It refuses its command line. -/
  | usage (fault : CommandLine.UsageFault)
  /-- It has a status. -/
  | status (code : Nat)
  /-- It fails. -/
  | failed (failure : Failure)

/-- How a run of the program ended, and what it did. -/
structure Program (σ : Type) where
  /-- How it ended. -/
  ending : Program.Ending
  /-- The remote store. -/
  remote : σ
  /-- The connections that it made. -/
  connections : List Connection := []
  /-- What it printed, in order. -/
  printed : List Event := []
  /-- The waits between its rounds, in seconds. -/
  waits : List Float := []

namespace Program

variable {σ : Type}

/-- The name of the program. -/
def title : String := "table-inserter"

/-- What is shown when only help is wanted. -/
def usage : String :=
  "usage: " ++ title ++ " [" ++ String.intercalate "] [" (CommandLine.Switch.all.map
    CommandLine.Switch.title) ++ "] table rows"

/-- What is said about a command line that is refused. -/
def complaint (f : CommandLine.UsageFault) : String := title ++ ": error: " ++ f.message

/-- The status with which a run ends, if it does not fail. -/
def Ending.code? : Ending → Option Nat
  | help => some 0
  | usage _ => some 2
  | status code => some code
  | failed _ => none

/-- The events that are printed under some settings. -/
def printable (settings : Settings) (events : List Event) : List Event :=
  events.filter fun e => Level.leastRank settings.logLevel ≤ e.level.rank

/-- What a run has done whose load ended in some state. -/
def ofLoad (settings : Settings) (result : Except Failure Nat) (l : Load σ) : Program σ where
  ending := match result with
    | .ok code => .status code
    | .error f => .failed f
  remote := l.state.inner.remote
  connections := l.connections
  printed := printable settings l.state.inner.log
  waits := l.state.waits

/-- Loads as the arguments say. -/
def load (s : Surroundings σ) (a : CommandLine.Arguments) (remote : σ) : Program σ :=
  match Settings.read s.environment with
  | .error f => { ending := .failed (.misuse f), remote := remote }
  | .ok settings =>
    match Pool.make settings.workers settings.drainTimeout with
    | .error f => { ending := .failed f, remote := remote }
    | .ok pool =>
      let world : World σ := { remote := remote, pool := pool }
      let (result, l) := (Load.run s settings a).run { state := { inner := world } }
      ofLoad settings result l

/-- Runs the program on the words of a command line. -/
def run (s : Surroundings σ) (words : List String) (remote : σ) : Program σ :=
  match CommandLine.read words with
  | .error f => { ending := .usage f, remote := remote }
  | .ok .help => { ending := .help, remote := remote }
  | .ok (.load a) => load s a remote

end Program

end TableFeed
