import TableFeed.Number.Reader
import TableFeed.Text.Lower
import TableFeed.Yaml.Base64
import TableFeed.Yaml.Kind

/-!
# Values of scalars

The value that a text writes when it is meant as a number, a truth value, octets or a point in time.
Half of a pair of units may stand in the text; it belongs to no value but a text, and a fault shows
it as it is.
-/

namespace TableFeed.Yaml

open Number Text

/-- Stops for want of a value. -/
def valueless {α : Type} : Except Fault α := .error (.refused .values)

/-- Stops because of a scalar. -/
def badScalar {α : Type} (f : ScalarFault) : Except Fault α := .error (.scalar f)

/-- The characters of a text, with the usual one in the place of what is none. -/
def shownChars (gs : List Glyph) : List Char := gs.map Glyph.shown

/-- A text without low lines. -/
def withoutLowLines (gs : List Glyph) : List Glyph := gs.filter (· != .char '_')

/-- A sign at the start of a text, which may not be empty, and the rest. -/
def splitSign : List Glyph → Except Fault (Bool × List Glyph)
  | [] => badScalar .empty
  | .char '-' :: rest => .ok (true, rest)
  | .char '+' :: rest => .ok (false, rest)
  | gs => .ok (false, gs)

/-! ### Integers -/

/-- The integer that a text writes in base ten. -/
def decimalInt (gs : List Glyph) : Except Fault Int :=
  match readInt (String.ofList (shownChars gs)) with
  | .ok n => .ok n
  | .error .malformed => badScalar (.integer 10 gs)
  | .error (.tooManyDigits n) => badScalar (.value (.unreadable n))

/-- The letter that may stand behind the zero in front of an integer in a base. -/
def baseLetter : Nat → Char
  | 2 => 'b'
  | 8 => 'o'
  | _ => 'x'

/-- The integer that a text writes in a base of two, eight or sixteen. -/
def basedInt (base : Nat) (gs : List Glyph) : Except Fault Int :=
  let (neg, body) := takeSign (bareForm (shownChars gs))
  let digits := match body with
    | '0' :: c :: rest => if c.toLower == baseLetter base then rest else body
    | _ => body
  match digits.isEmpty, digits.mapM (baseDigit? base) with
  | false, some ds =>
    let n := Int.ofNat (ofDigits base ds)
    .ok (if neg then -n else n)
  | _, _ => badScalar (.integer base gs)

/-- The number that parts of sixty write. -/
def sixtieths (parts : List Int) : Int := parts.foldl (fun n p => n * 60 + p) 0

/-- The integer that a text without a sign writes. -/
def unsignedInt (gs : List Glyph) : Except Fault Int :=
  match gs with
  | [] => badScalar .empty
  | .char '0' :: .char 'b' :: rest => basedInt 2 rest
  | .char '0' :: .char 'x' :: rest => basedInt 16 rest
  | [.char '0'] => .ok 0
  | .char '0' :: _ => basedInt 8 gs
  | _ =>
    if gs.contains (.char ':') then
      ((Kind.partsBetween (.char ':') gs).mapM decimalInt).map sixtieths
    else decimalInt gs

/-- The integer that a text writes. -/
def intOf (gs : List Glyph) : Except Fault Int := do
  let (neg, gs) ← splitSign (withoutLowLines gs)
  let n ← unsignedInt gs
  .ok (if neg then -n else n)

/-! ### Floats -/

/-- The float that a text writes. -/
def decimalFloat (gs : List Glyph) : Except Fault Float :=
  match readFloat (String.ofList (shownChars gs)) with
  | .ok x => .ok x
  | .error _ => badScalar (.float gs)

/-- The float that parts of sixty write, the last part first, with the weight of that part. -/
def floatSixtieths (sum : Float) (weight : Nat) : List Float → Except Fault Float
  | [] => .ok sum
  | x :: rest =>
    match ofInt? (Int.ofNat weight) with
    | some w => floatSixtieths (sum + x * w) (weight * 60) rest
    | none => badScalar .overflow

/-- The float that a text without a sign writes. -/
def unsignedFloat (gs : List Glyph) : Except Fault Float :=
  if gs == glyphs ".inf" then .ok (infinity false)
  else if gs.contains (.char ':') then do
    let parts ← (Kind.partsBetween (.char ':') gs).mapM decimalFloat
    floatSixtieths 0 1 parts.reverse
  else decimalFloat gs

/-- The float that a text writes.  There is one value for the word that stands for no number, and
one with a mark for each other text that leads to none. -/
def floatOf (mark : Nat) (gs : List Glyph) : Except Fault Value := do
  let (neg, gs) ← splitSign (lower (withoutLowLines gs))
  if gs == glyphs ".nan" then .ok (.undefined 0)
  else
    let x ← unsignedFloat gs
    .ok (if x.isNaN then .undefined (mark + 1) else .float (if neg then -x else x))

/-! ### Other scalars -/

/-- The truth value that a text writes. -/
def boolOf (gs : List Glyph) : Except Fault Bool :=
  let word := lower gs
  if (["yes", "true", "on"].map glyphs).contains word then .ok true
  else if (["no", "false", "off"].map glyphs).contains word then .ok false
  else badScalar (.bool word)

/-- Gives a fault of the calendar the rank of a fault of a document. -/
def onCalendar {α : Type} (r : Except CalendarFault α) : Except Fault α :=
  r.mapError fun f => .scalar (.calendar f)

/-- The microseconds that the digits of a fraction write. -/
def microseconds (digits : List Nat) : Nat :=
  ofDigits 10 ((digits ++ List.replicate 6 0).take 6)

/-- The seconds of a distance from universal time that is given in minutes. -/
def aheadSeconds (minutes : Int) : Except CalendarFault Int :=
  if 1440 ≤ minutes.natAbs then .error (.ahead (minutes * 60)) else .ok (minutes * 60)

/-- The day or point in time that a text writes. -/
def momentOf (gs : List Glyph) : Except Fault Value :=
  match (gs.mapM Glyph.char?).bind fun cs => MomentText.read? (Kind.withoutLineFeed cs) with
  | none => badScalar .moment
  | some m =>
    match m.time with
    | none => (onCalendar (Date.make m.year m.month m.day)).map .date
    | some (hour, minute, second) => do
      let ahead ← match m.ahead with
        | none => pure none
        | some minutes => (onCalendar (aheadSeconds minutes)).map some
      let date ← onCalendar (Date.make m.year m.month m.day)
      let micro := microseconds m.fraction
      (onCalendar (Moment.make date hour minute second micro ahead)).map .moment

/-- The octets that a text writes. -/
def octetsOf (gs : List Glyph) : Except Fault Value :=
  match (gs.mapM Glyph.char?).bind decodeBase64? with
  | some bs => .ok (.octets bs)
  | none => valueless

/-- The value of a scalar of some kind.  The mark tells it from other scalars of the document. -/
def scalarValue (mark : Nat) (kind : Kind) (gs : List Glyph) : Except Fault Value :=
  match kind with
  | .null => .ok .null
  | .bool => (boolOf gs).map .bool
  | .int => (intOf gs).map .int
  | .float => floatOf mark gs
  | .binary => octetsOf gs
  | .moment => momentOf gs
  | .text => .ok (.ofGlyphs gs)
  | _ => valueless

end TableFeed.Yaml
