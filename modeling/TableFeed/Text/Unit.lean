import TableFeed.Text.Digit

/-!
# Units of sixteen bits

A character beyond the first 65536 is written in escapes as a pair of units, of which each is set
apart from all characters by its range.
-/

namespace TableFeed.Text

/-- Whether a unit is the first of a pair. -/
def isHighUnit (n : Nat) : Bool := 0xD800 ≤ n && n < 0xDC00

/-- Whether a unit is the second of a pair. -/
def isLowUnit (n : Nat) : Bool := 0xDC00 ≤ n && n < 0xE000

/-- The number that digits in base sixteen write. -/
def unitOf? (cs : List Char) : Option Nat := (cs.mapM (baseDigit? 16)).map (ofDigits 16)

/-- The character of a pair of units. -/
def charOfPair (high low : Nat) : Char :=
  Char.ofNat (0x10000 + (high - 0xD800) * 0x400 + (low - 0xDC00))

/-- The pair of units of a character beyond the first 65536. -/
def pairOfChar (c : Char) : Nat × Nat :=
  let n := c.toNat - 0x10000
  (0xD800 + n / 0x400, 0xDC00 + n % 0x400)

end TableFeed.Text
