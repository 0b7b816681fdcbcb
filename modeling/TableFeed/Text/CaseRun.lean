/-!
# Runs of letters with two cases

Most letters stand at a fixed distance from the letter of the other case, and so do their
neighbours.  A table of runs lists these distances.
-/

namespace TableFeed.Text

/-- The characters from `first` to `last`, every `step`-th of them, whose letter of the other case
lies `shift` further. -/
structure CaseRun where
  /-- The first character of the run. -/
  first : Nat
  /-- The last character of the run. -/
  last : Nat
  /-- The distance between two neighbours of the run. -/
  step : Nat
  /-- What is added to reach the letter of the other case. -/
  shift : Int

/-- Whether a code point belongs to the run. -/
def CaseRun.covers (r : CaseRun) (n : Nat) : Bool :=
  r.first ≤ n && n ≤ r.last && (n - r.first) % r.step == 0

/-- The letter of the other case, if a run has the character; else the character itself. -/
def shiftCase (runs : List CaseRun) (c : Char) : Char :=
  match runs.find? (·.covers c.toNat) with
  | some run => Char.ofNat (c.toNat + run.shift).toNat
  | none => c

end TableFeed.Text
