import TableFeed.Number.Printer
import TableFeed.Text.Digit

/-!
# Decimal numbers

A decimal keeps its digits as they were given: `1.50` and `1.5` are the same number and two
different texts.
-/

namespace TableFeed

open Text

/-- A decimal number, or one of the values beside them. -/
inductive Decimal where
  /-- The number `coefficient * 10 ^ exponent`, with its sign apart. -/
  | finite (neg : Bool) (coefficient : Nat) (exponent : Int)
  /-- A number beyond all bounds. -/
  | infinite (neg : Bool)
  /-- No number. -/
  | undefined
deriving DecidableEq, Repr

namespace Decimal

/-- The text of the digits and the exponent.  The exponent is left out while the number has no
more than five zeros between the point and its first digit. -/
def printDigits (coefficient : Nat) (exponent : Int) : String :=
  let digits := (Nat.repr coefficient).toList
  let count := Int.ofNat digits.length
  let left := exponent + count
  let place := if exponent ≤ 0 ∧ -6 < left then left else 1
  let body :=
    if place ≤ 0 then "0.".toList ++ List.replicate (-place).toNat '0' ++ digits
    else if count ≤ place then digits ++ List.replicate (place - count).toNat '0'
    else digits.take place.toNat ++ '.' :: digits.drop place.toNat
  let rest := left - place
  String.ofList body ++
    (if rest = 0 then "" else (if rest < 0 then "E-" else "E+") ++ Nat.repr rest.natAbs)

/-- The text of a decimal. -/
def print : Decimal → String
  | finite neg c e => (if neg then "-" else "") ++ printDigits c e
  | infinite neg => (if neg then "-" else "") ++ "Infinity"
  | undefined => "NaN"

/-- The digits at the front of a text, and the rest. -/
def spanDigits (cs : List Char) : List Char × List Char := cs.span isAsciiDigit

/-- The number that ASCII digits write. -/
def valueOf (cs : List Char) : Nat := ofDigits 10 (cs.map fun c => c.toNat - 48)

/-- Reads an exponent, which may be missing. -/
def readExponent? : List Char → Option Int
  | [] => some 0
  | mark :: rest => do
    guard (mark = 'E' ∨ mark = 'e')
    let (neg, body) := match rest with
      | '-' :: r => (true, r)
      | '+' :: r => (false, r)
      | r => (false, r)
    let (digits, tail) := spanDigits body
    guard (!digits.isEmpty ∧ tail.isEmpty)
    let n := Int.ofNat (valueOf digits)
    pure (if neg then -n else n)

/-- Reads a decimal. -/
def read? (text : String) : Option Decimal :=
  let (neg, body) := match text.toList with
    | '-' :: r => (true, r)
    | r => (false, r)
  if String.ofList body = "Infinity" then some (infinite neg)
  else if text = "NaN" then some undefined
  else
    let (whole, rest) := spanDigits body
    let (fraction, rest) := match rest with
      | '.' :: r => spanDigits r
      | r => ([], r)
    if whole.isEmpty && fraction.isEmpty then none
    else (readExponent? rest).map fun e =>
      finite neg (valueOf (whole ++ fraction)) (e - Int.ofNat fraction.length)

/-- Whether a decimal is a zero. -/
def isZero : Decimal → Bool
  | finite _ c _ => c == 0
  | _ => false

end Decimal

end TableFeed
