import TableFeed.Number.Printer
import TableFeed.Text.Blank
import TableFeed.Text.Digit

/-!
# Reading numbers from settings

A setting's text is a number when, without the blanks around it, it has the usual form of an
integer or of a float.  The digits may be those of any script, and one low line may stand between
two digits.
-/

namespace TableFeed.Number

open Text

/-- Why a text is not read as a number. -/
inductive ReadFault where
  /-- The text does not have the form of a number. -/
  | malformed
  /-- The integer has more digits than `digitLimit`. -/
  | tooManyDigits (digits : Nat)
deriving DecidableEq, Repr

/-- The blanks around a number: of the control range only tab to carriage return and the space
count. -/
def isNumberBlank (c : Char) : Bool :=
  (9 ≤ c.toNat && c.toNat ≤ 13) || c == ' ' || (127 ≤ c.toNat && isBlank c)

/-- The text with the digits of every script replaced by those of the ASCII range. -/
def plainDigits (cs : List Char) : List Char :=
  cs.map fun c =>
    if c.toNat < 127 then c
    else match digitValue? c with
      | some d => digitChar d
      | none => c

/-- Takes a sign off the front of a text: whether it is a minus, and the rest. -/
def takeSign : List Char → Bool × List Char
  | '-' :: rest => (true, rest)
  | '+' :: rest => (false, rest)
  | cs => (false, cs)

/-- Drops the low lines that stand between two digits; `none` if one stands elsewhere. -/
def dropLowLines? : (previous : Char) → List Char → Option (List Char)
  | previous, [] => if previous == '_' then none else some []
  | previous, c :: rest =>
    if c == '_' then
      if isAsciiDigit previous then dropLowLines? c rest else none
    else if previous == '_' && !isAsciiDigit c then none
    else (dropLowLines? c rest).map (c :: ·)

/-- The digits at the front of a text, and the rest. -/
def takeDigits (cs : List Char) : List Nat × List Char :=
  ((cs.takeWhile isAsciiDigit).map (·.toNat - 48), cs.dropWhile isAsciiDigit)

/-- The text of a number without the blanks around it, its digits in the ASCII range. -/
def bareForm (cs : List Char) : List Char := plainDigits (stripWhere isNumberBlank cs)

/-- The text of a number in its bare form, without low lines. -/
def normalForm? (cs : List Char) : Option (List Char) := dropLowLines? ' ' (bareForm cs)

/-- The digits at the front of a text, without the low lines between them, and the rest. -/
def takeSpacedDigits? (cs : List Char) : Option (List Nat × List Char) :=
  let (run, rest) := cs.span fun c => isAsciiDigit c || c == '_'
  (dropLowLines? ' ' run).map fun digits => (digits.map (·.toNat - 48), rest)

/-- The integer that digits write, within the limit on their number. -/
def ofDigits? (limit : Option Nat) (digits : List Nat) : Except ReadFault Nat :=
  match limit with
  | some most =>
    if most < digits.length then throw (.tooManyDigits digits.length) else pure (ofDigits 10 digits)
  | none => pure (ofDigits 10 digits)

/-- Reads an integer.  Its digits are counted before what follows them is looked at. -/
def readInt (text : String) : Except ReadFault Int :=
  let (neg, body) := takeSign (bareForm text.toList)
  match takeSpacedDigits? body with
  | none => throw .malformed
  | some ([], _) => throw .malformed
  | some (digits, rest) => do
    let n ← ofDigits? (some digitLimit) digits
    if !rest.isEmpty then throw .malformed
    pure (if neg then -Int.ofNat n else Int.ofNat n)

/-- Reads the exponent that may end a float: `none` if something else stands there. -/
def readExponent? : List Char → Option Int
  | [] => some 0
  | c :: rest =>
    if c == 'e' || c == 'E' then
      let (neg, body) := takeSign rest
      match takeDigits body with
      | ([], _) => none
      | (digits, []) =>
        let n := Int.ofNat (ofDigits 10 digits)
        some (if neg then -n else n)
      | _ => none
    else none

/-- Reads the unsigned decimal form of a float. -/
def readDecimal? (neg : Bool) (body : List Char) : Option Float :=
  let (whole, rest) := takeDigits body
  let (fraction, rest) := match rest with
    | '.' :: rest => takeDigits rest
    | _ => ([], rest)
  if whole.isEmpty && fraction.isEmpty then none
  else (readExponent? rest).map fun e =>
    ofDecimal neg (ofDigits 10 (whole ++ fraction)) (e - Int.ofNat fraction.length)

/-- Reads a float. -/
def readFloat (text : String) : Except ReadFault Float :=
  match normalForm? text.toList with
  | none => throw .malformed
  | some cs =>
    let (neg, body) := takeSign cs
    let word := String.ofList (body.map Char.toLower)
    if word == "inf" || word == "infinity" then pure (infinity neg)
    else if word == "nan" then pure notANumber
    else match readDecimal? neg body with
      | some x => pure x
      | none => throw .malformed

end TableFeed.Number
