import TableFeed.Number.Shortest

/-!
# Numbers as text

Integers are written in full.  A float is written by its shortest digits: positionally while the
leading digit stands between `10 ^ -4` and `10 ^ 16`, with an exponent of at least two digits
beyond, and always with a point or an exponent.
-/

namespace TableFeed.Number

/-- How floats are laid out. -/
structure FloatLayout where
  /-- The least exponent of the leading digit that is written positionally. -/
  least : Int
  /-- The first exponent of the leading digit that is not. -/
  beyond : Int
  /-- The text of infinity. -/
  infinite : String
  /-- The text of a float that is not a number. -/
  undefined : String

namespace FloatLayout

/-- The layout of messages and of tokens. -/
def plain : FloatLayout := ⟨-4, 16, "inf", "nan"⟩

/-- The layout of rows on the wire, which names the values that are not finite. -/
def wire : FloatLayout := { plain with infinite := "Infinity", undefined := "NaN" }

/-- The text of a positive number given by its shortest decimal. -/
def positive (layout : FloatLayout) (s : Scientific) : String :=
  let digits := (Nat.repr s.coefficient).toList
  let count := Int.ofNat digits.length
  let lead := s.exponent + count - 1
  if layout.least ≤ lead && lead < layout.beyond then
    if lead < 0 then
      String.ofList ("0.".toList ++ List.replicate (-lead - 1).toNat '0' ++ digits)
    else if 0 ≤ s.exponent then
      String.ofList (digits ++ List.replicate s.exponent.toNat '0' ++ ".0".toList)
    else
      let whole := (lead + 1).toNat
      String.ofList (digits.take whole ++ '.' :: digits.drop whole)
  else
    let tail := digits.drop 1
    let mantissa := digits.take 1 ++ if tail.isEmpty then [] else '.' :: tail
    let size := Nat.repr lead.natAbs
    let size := if size.length < 2 then "0" ++ size else size
    String.ofList mantissa ++ (if lead < 0 then "e-" else "e+") ++ size

/-- The text of a float. -/
def print (layout : FloatLayout) (x : Float) : String :=
  if x.isNaN then layout.undefined
  else
    let sign := if signBit x then "-" else ""
    if x.isInf then sign ++ layout.infinite
    else if x == 0 then sign ++ "0.0"
    else sign ++ layout.positive (shortest (Binary.ofFloat x))

end FloatLayout

/-- The text of a float in messages. -/
def printFloat (x : Float) : String := FloatLayout.plain.print x

/-- The text of an integer. -/
def printInt (n : Int) : String :=
  if n < 0 then "-" ++ Nat.repr n.natAbs else Nat.repr n.natAbs

/-- The most digits that an integer may have when it is read from decimal text or written as
decimal text. -/
def digitLimit : Nat := 4300

/-- Whether an integer has more digits than `digitLimit`. -/
def exceedsDigitLimit (n : Int) : Bool :=
  14281 < n.natAbs.log2 && Nat.pow 10 digitLimit ≤ n.natAbs

end TableFeed.Number
