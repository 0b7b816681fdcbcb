import TableFeed.Number.Binary

/-!
# The shortest decimal that reads back

A float is shown by the fewest decimal digits that determine it.  The reals that round to a float
form an interval around it; on the grids of one, two, ... seventeen digits, the first grid with a
point in that interval wins, and of two points the nearer one.
-/

namespace TableFeed.Number

/-- A number in decimal form: `coefficient * 10 ^ exponent`. -/
structure Scientific where
  /-- The digits, as a number. -/
  coefficient : Nat
  /-- The exponent of ten. -/
  exponent : Int
deriving DecidableEq, Repr

namespace Scientific

/-- The same number without zeros at the end of the coefficient, of which at most `fuel` go. -/
def trim (fuel : Nat) (s : Scientific) : Scientific :=
  match fuel with
  | 0 => s
  | fuel + 1 =>
    if s.coefficient ≠ 0 ∧ s.coefficient % 10 = 0 then
      trim fuel ⟨s.coefficient / 10, s.exponent + 1⟩
    else s

end Scientific

/-- The reals that round to a float, in units of a quarter of its last place. -/
structure Neighbourhood where
  /-- The lower end. -/
  low : Nat
  /-- The float itself. -/
  mid : Nat
  /-- The upper end. -/
  high : Nat
  /-- Whether the ends belong to it, which they do when the mantissa is even. -/
  closed : Bool
  /-- The unit, as a fraction. -/
  unit : Nat × Nat

namespace Neighbourhood

/-- The interval of a float.  Below a power of two the floats lie twice as close. -/
def ofBinary (b : Binary) : Neighbourhood where
  low := 4 * b.mantissa - if b.mantissa == Nat.pow 2 52 && -1074 < b.exponent then 1 else 2
  mid := 4 * b.mantissa
  high := 4 * b.mantissa + 2
  closed := b.mantissa % 2 == 0
  unit :=
    if 2 ≤ b.exponent then (Nat.pow 2 (b.exponent - 2).toNat, 1)
    else (1, Nat.pow 2 (2 - b.exponent).toNat)

/-- The float itself as a fraction. -/
def value (h : Neighbourhood) : Nat × Nat := (h.mid * h.unit.1, h.unit.2)

/-- Whether `digits` points of a grid of width `step` lie in the interval. -/
def holds (h : Neighbourhood) (step : Nat × Nat) (digits : Nat) : Bool :=
  let x := digits * step.1 * h.unit.2
  let low := h.low * h.unit.1 * step.2
  let high := h.high * h.unit.1 * step.2
  if h.closed then low ≤ x && x ≤ high else low < x && x < high

end Neighbourhood

/-- The power of ten of an exponent, as a fraction. -/
def powerOfTen (e : Int) : Nat × Nat :=
  if 0 ≤ e then (Nat.pow 10 e.toNat, 1) else (1, Nat.pow 10 (-e).toNat)

/-- The exponent of the leading decimal digit of a positive fraction: the largest `e` with
`10 ^ e ≤ num / den`.  The binary logarithm gives it up to one. -/
def leadingExponent (num den : Nat) : Int :=
  let guess : Int := (Int.ofNat num.log2 - Int.ofNat den.log2) * 30103 / 100000
  let fits (e : Int) : Bool := let (p, q) := powerOfTen e; p * den ≤ num * q
  if fits (guess + 1) then guess + 1 else if fits guess then guess else guess - 1

/-- The point of a grid that stands for a float, if one lies in its interval. -/
def onGrid? (h : Neighbourhood) (e : Int) : Option Scientific :=
  let step := powerOfTen e
  let (num, den) := h.value
  let n := num * step.2
  let d := den * step.1
  let below := n / d
  let nearer := roundDiv n d
  let other := if nearer == below then below + 1 else below
  if h.holds step nearer then some ⟨nearer, e⟩
  else if h.holds step other then some ⟨other, e⟩
  else none

/-- The shortest decimal of a positive finite float. -/
def shortest (b : Binary) : Scientific :=
  let h := Neighbourhood.ofBinary b
  let (num, den) := h.value
  let lead := leadingExponent num den
  let found := (List.range 17).findSome? fun i => onGrid? h (lead - Int.ofNat i)
  (found.getD ⟨0, 0⟩).trim 20

end TableFeed.Number
