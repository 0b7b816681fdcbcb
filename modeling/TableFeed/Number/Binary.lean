/-!
# Binary floating point, exactly

A finite `Float` is a natural number times a power of two.  This file takes a float apart into
that form, and goes back from any fraction of natural numbers to the nearest float, a tie going to
the even neighbour.  All arithmetic between the two is exact.
-/

namespace TableFeed.Number

/-- The quotient of two numbers, rounded to the nearest whole number, a half to the even one. -/
def roundDiv (n d : Nat) : Nat :=
  let q := n / d
  let r := n % d
  if d < 2 * r || (d == 2 * r && q % 2 == 1) then q + 1 else q

/-- A finite float: sign, mantissa and exponent of two. -/
structure Binary where
  /-- Whether the sign bit is set. -/
  neg : Bool
  /-- The mantissa, below `2 ^ 53`. -/
  mantissa : Nat
  /-- The exponent of two, from `-1074` on. -/
  exponent : Int
deriving DecidableEq, Repr

namespace Binary

/-- The parts of a float.  Those of an infinity or of a not-a-number say nothing. -/
def ofFloat (x : Float) : Binary :=
  let bits := x.toBits.toNat
  let biased := bits / Nat.pow 2 52 % Nat.pow 2 11
  let fraction := bits % Nat.pow 2 52
  let neg := bits / Nat.pow 2 63 == 1
  if biased == 0 then ⟨neg, fraction, -1074⟩
  else ⟨neg, fraction + Nat.pow 2 52, Int.ofNat biased - 1075⟩

/-- The magnitude as a fraction: numerator and denominator. -/
def fraction (b : Binary) : Nat × Nat :=
  if 0 ≤ b.exponent then (b.mantissa * Nat.pow 2 b.exponent.toNat, 1)
  else (b.mantissa, Nat.pow 2 (-b.exponent).toNat)

end Binary

/-- Whether the sign bit of a float is set. -/
def signBit (x : Float) : Bool := x.toBits.toNat / Nat.pow 2 63 == 1

/-- The bits of the float nearest to a fraction, without the sign: `none` when the fraction is
beyond the largest float. -/
def nearestBits? (num den : Nat) : Option Nat :=
  if num == 0 || den == 0 then some 0
  else
    let scaled (e : Int) : Nat × Nat :=
      if 0 ≤ e then (num, den * Nat.pow 2 e.toNat) else (num * Nat.pow 2 (-e).toNat, den)
    let guess : Int := max (Int.ofNat num.log2 - Int.ofNat den.log2 - 53) (-1074)
    let (n, d) := scaled guess
    let e := if n / d < Nat.pow 2 53 then guess else guess + 1
    let (n, d) := scaled e
    let bits := (e + 1074).toNat * Nat.pow 2 52 + roundDiv n d
    if bits < 2047 * Nat.pow 2 52 then some bits else none

/-- The float with a given sign and given bits of the magnitude. -/
def floatOfBits (neg : Bool) (bits : Nat) : Float :=
  Float.ofBits (UInt64.ofNat (bits + if neg then Nat.pow 2 63 else 0))

/-- The float with no bound: `inf` or `-inf`. -/
def infinity (neg : Bool) : Float := floatOfBits neg (2047 * Nat.pow 2 52)

/-- The float that stands for no number. -/
def notANumber : Float := floatOfBits false (2047 * Nat.pow 2 52 + Nat.pow 2 51)

/-- The float nearest to a fraction; `none` when the fraction is beyond the largest float. -/
def nearest? (neg : Bool) (num den : Nat) : Option Float :=
  (nearestBits? num den).map (floatOfBits neg)

/-- The float nearest to an integer; `none` when the integer is beyond the largest float. -/
def ofInt? (n : Int) : Option Float := nearest? (n < 0) n.natAbs 1

/-- The float nearest to `coefficient * 10 ^ exponent`, an infinity beyond the largest float.
Exponents that settle the answer are not expanded. -/
def ofDecimal (neg : Bool) (coefficient : Nat) (exponent : Int) : Float :=
  let magnitude := Int.ofNat (coefficient.log2 * 30103 / 100000) + exponent
  if coefficient == 0 || magnitude < -400 then floatOfBits neg 0
  else if 400 < magnitude then infinity neg
  else
    let rounded :=
      if 0 ≤ exponent then nearest? neg (coefficient * Nat.pow 10 exponent.toNat) 1
      else nearest? neg coefficient (Nat.pow 10 (-exponent).toNat)
    rounded.getD (infinity neg)

/-- A float rounded to a number of decimal places: the exact value is rounded, a half to the even
neighbour, and the nearest float of the result is taken. -/
def roundPlaces (places : Nat) (x : Float) : Float :=
  if x.isNaN || x.isInf then x
  else
    let b := Binary.ofFloat x
    let (num, den) := b.fraction
    (nearest? b.neg (roundDiv (num * Nat.pow 10 places) den) (Nat.pow 10 places)).getD x

end TableFeed.Number
