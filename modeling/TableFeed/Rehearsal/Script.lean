import TableFeed.Insert.World
import TableFeed.Retry.Loop

/-!
# Scripts

In a rehearsal everything that is left to chance follows a script: the samples that spread the
waits, the calls that are held back, and the moments at which the user interrupts.
-/

namespace TableFeed.Rehearsal

/-- What is left to chance. -/
structure Script where
  /-- The samples that spread the waits between rounds.  One half follows them. -/
  samples : List Float := []
  /-- The waits between rounds that are interrupted, by number. -/
  interruptedSleeps : List Nat := []
  /-- The calls that do not run when they are submitted, by number. -/
  held : List Nat := []
  /-- The waits for calls that are interrupted, by number. -/
  interruptedWaits : List Nat := []

namespace Script

/-- The waits between rounds. -/
def pace (s : Script) : Pace where
  sample n := (s.samples[n]?).getD 0.5
  interrupts n := s.interruptedSleeps.contains n

/-- The calls.  Those that are held run in the next wait that is not interrupted, and never in a
drain. -/
def schedule (s : Script) : Schedule where
  onSubmit n _ := if s.held.contains n then [] else [n]
  onWait _ _ := []
  interrupts n := s.interruptedWaits.contains n
  duringWait _ unfinished := unfinished
  onSleep _ := []

end Script

end TableFeed.Rehearsal
