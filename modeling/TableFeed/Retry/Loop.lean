import TableFeed.Action
import TableFeed.Retry.Policy
import TableFeed.Table.Outcome

/-!
# Rounds

Rows are inserted in rounds: the first one takes all of them, and every later one those that the
round before it left rejected.  A round knows its rows by their position in that round, the caller
knows them by their position among the caller's rows; `origin` holds the latter for each of the
former.

The rounds act on a state of their own.  The waits between them, and the samples that spread the
waits, are kept beside it.
-/

namespace TableFeed

/-- A state, and the waits between the rounds that acted on it. -/
structure Paced (σ : Type) where
  /-- The state that the rounds act on. -/
  inner : σ
  /-- How many samples were drawn. -/
  draws : Nat := 0
  /-- The waits begun so far, in seconds. -/
  waits : List Float := []

/-- What decides the waits from outside.  A wait passes or is interrupted.  Left out is that a
machine refuses to sleep for a number of seconds that is negative, too large for it or no number at
all; such a wait passes here like any other. -/
structure Pace where
  /-- The sample of each draw, by the number of draws before it. -/
  sample : Nat → Float
  /-- Whether the user interrupts a wait, by the number of waits before it. -/
  interrupts : Nat → Bool

instance {σ : Type} [Logged σ] : Logged (Paced σ) where
  note e p := { p with inner := Logged.note e p.inner }

/-- What one round does with the rows it is given and their tokens. -/
abbrev Round (σ : Type) := List Row → Option (List Writing) → Action σ Outcome

namespace Retry

variable {σ α : Type}

/-- An action on the state that the rounds act on. -/
def inner (x : Action σ α) : Action (Paced σ) α := x.on Paced.inner fun s p => { p with inner := s }

/-- The positions among the caller's rows of positions in a round. -/
def originOf (origin : List Int) (positions : List Int) : Except Failure (List Int) :=
  liftFault (positions.mapM (Position.item origin))

/-- The failure of a round, with positions among the caller's rows. -/
def forCaller (label : String) (origin : List Int) : Failure → Failure
  | .interrupted _ outstanding =>
    match originOf origin outstanding with
    | .ok outstanding => .interrupted (.inserting label) outstanding
    | .error f => f
  | f => f

/-- Waits after an attempt.  An interrupted wait ends the operation. -/
def backOff [Logged σ] (policy : Policy) (pace : Pace) (label : String) (attempt : Nat)
    (outstanding : List Int) : Action (Paced σ) Unit := do
  let sample := pace.sample (← get).draws
  modify fun p => { p with draws := p.draws + 1 }
  let seconds ← Action.answer ((policy.wait attempt sample).mapError .overflow)
  note (.retryScheduled label attempt outstanding.length (Number.roundPlaces 3 seconds))
  let before := (← get).waits
  modify fun p => { p with waits := before ++ [seconds] }
  if pace.interrupts before.length then throw (.interrupted .waiting outstanding)

/-- Gives up after an attempt. -/
def giveUp [Logged σ] (label : String) (attempt : Nat) (origin : List Int) (o : Outcome) :
    Action (Paced σ) Nat := do
  let positions ← Action.answer (originOf origin o.positions)
  note (.retriesExhausted label attempt positions.length)
  let rows := (positions.zip o.rejects).map fun (n, r) => ⟨n, r.row, r.token, r.messages⟩
  throw (.rejected rows attempt)

/-- The rounds from an attempt on, after which `left` more attempts are allowed.  The answer is
the number of the attempt that left no row rejected. -/
def rounds [Logged σ] (policy : Policy) (pace : Pace) (label : String) (round : Round σ)
    (left attempt : Nat) (origin : List Int) (rows : List Row) (tokens : Option (List Writing)) :
    Action (Paced σ) Nat := do
  match ← (inner (round rows tokens)).outcome with
  | .error f => throw (forCaller label origin f)
  | .ok o =>
    if o.succeeded then return attempt
    else match left with
      | 0 => giveUp label attempt origin o
      | left + 1 =>
        let next ← Action.answer (originOf origin o.positions)
        backOff policy pace label attempt next
        rounds policy pace label round left (attempt + 1) next o.rows o.tokens

/-- Inserts rows in rounds until none is rejected or no attempt is left.  The answer is the number
of attempts. -/
def run [Logged σ] (policy : Policy) (pace : Pace) (label : String) (round : Round σ)
    (rows : List Row) (tokens : Option (List Writing)) : Action (Paced σ) Nat :=
  rounds policy pace label round (policy.attempts - 1) 1
    ((List.range rows.length).map Int.ofNat) rows tokens

end Retry

end TableFeed
