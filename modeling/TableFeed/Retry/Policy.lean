import TableFeed.Failure.Basic

/-!
# When to try again

Rejected rows are inserted again after a wait.  The waits grow by a constant factor from attempt to
attempt, and each is spread at random around its base by a fraction of it.
-/

namespace TableFeed

open Number

/-- How often and after which waits rejected rows are inserted again. -/
structure Policy where
  /-- The number of attempts. -/
  attempts : Nat
  /-- There is at least one attempt. -/
  attempts_pos : 0 < attempts
  /-- The base of the first wait, in seconds. -/
  interval : Float
  /-- The growth of the base from attempt to attempt. -/
  growth : Float
  /-- How far a wait may be from its base, as a fraction of it. -/
  jitter : Float

namespace Policy

/-- The policy with given numbers, if they make sense.  A number that is not one passes all but
the last check. -/
def make (attempts : Int) (interval growth jitter : Float) : Except Misuse Policy :=
  if h : attempts < 1 then .error (.attempts attempts)
  else if interval < 0 then .error (.interval interval)
  else if growth < 1 then .error (.growth growth)
  else if 0 ≤ jitter && jitter ≤ 1 then .ok ⟨attempts.toNat, by omega, interval, growth, jitter⟩
  else .error (.jitter jitter)

/-- Five attempts, the first wait around a fifth of a second. -/
def standard : Policy := ⟨5, by decide, 0.2, 1.5, 0.5⟩

/-- A power of a float.  A finite float whose power is not finite is an overflow, and so is an
exponent beyond all floats. -/
def power (x : Float) (n : Int) : Except Overflow Float :=
  match ofInt? n with
  | none => .error .integer
  | some y =>
    let z := x.pow y
    if z.isInf && x.isFinite then .error .power else .ok z

/-- The base of the wait after an attempt, in seconds. -/
def baseWait (p : Policy) (attempt : Int) : Except Overflow Float :=
  (power p.growth (attempt - 1)).map (p.interval * ·)

/-- The wait after an attempt for a sample between zero and one.  One half gives the base. -/
def wait (p : Policy) (attempt : Int) (sample : Float) : Except Overflow Float :=
  (p.baseWait attempt).map fun base => base + (2 * sample - 1) * p.jitter * base

/-- Whether no attempt follows a given one. -/
def isLast (p : Policy) (attempt : Int) : Bool := p.attempts ≤ attempt

/-- What follows a round. -/
inductive Verdict where
  /-- Every row was accepted. -/
  | succeeded
  /-- Rows are rejected, and there is no further attempt. -/
  | exhausted
  /-- Rows are rejected and will be inserted again. -/
  | backingOff
deriving DecidableEq, Repr

/-- What follows an attempt that left rows rejected, or none. -/
def verdict (p : Policy) (attempt : Int) (succeeded : Bool) : Verdict :=
  if succeeded then .succeeded else if p.isLast attempt then .exhausted else .backingOff

end Policy

end TableFeed
