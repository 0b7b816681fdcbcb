import TableFeed.Text.Digit
import TableFeed.Text.Glyph
import TableFeed.Yaml.Fault

/-!
# Kinds of nodes

What a node stands for.  A tag says so; where there is none, the kind of a plain scalar shows in its
text.
-/

namespace TableFeed.Yaml

open Text

/-- What a node stands for. -/
inductive Kind where
  /-- Nothing. -/
  | null
  /-- A truth value. -/
  | bool
  /-- An integer. -/
  | int
  /-- A float. -/
  | float
  /-- Octets. -/
  | binary
  /-- A day or a point in time. -/
  | moment
  /-- A text. -/
  | text
  /-- A list. -/
  | list
  /-- A mapping. -/
  | mapping
  /-- A set. -/
  | set
  /-- A list of pairs with different keys. -/
  | orderedPairs
  /-- A list of pairs. -/
  | pairs
  /-- A key whose value is merged into the mapping around it. -/
  | merge
  /-- A key whose value stands for the mapping around it. -/
  | default
  /-- Anything else. -/
  | other
deriving DecidableEq, Repr

namespace Kind

/-- The start of the tags of all kinds that are known. -/
def family : String := "tag:yaml.org,2002:"

/-- The words for the kinds that are known. -/
def words : List (String × Kind) := [
  ("null", null), ("bool", bool), ("int", int), ("float", float), ("binary", binary),
  ("timestamp", moment), ("str", text), ("seq", list), ("map", mapping), ("set", set),
  ("omap", orderedPairs), ("pairs", pairs), ("merge", merge), ("value", default)]

/-- The kind of a tag. -/
def ofTag (tag : String) : Kind :=
  ((words.find? fun (word, _) => family ++ word == tag).map Prod.snd).getD other

/-! ### The forms of plain scalars -/

/-- The texts that are truth values. -/
def boolWords : List String := [
  "yes", "Yes", "YES", "no", "No", "NO", "true", "True", "TRUE", "false", "False", "FALSE",
  "on", "On", "ON", "off", "Off", "OFF"]

/-- The texts that stand for nothing. -/
def nullWords : List String := ["", "~", "null", "Null", "NULL"]

/-- A text without a sign at its start. -/
def unsigned : List Char → List Char
  | '-' :: rest => rest
  | '+' :: rest => rest
  | cs => cs

/-- Whether a character is a digit or a low line. -/
def isDigitOrLine (c : Char) : Bool := isAsciiDigit c || c == '_'

/-- Whether a text is empty or starts a digit and goes on with digits and low lines. -/
def isDigits : List Char → Bool
  | [] => false
  | c :: rest => isAsciiDigit c && rest.all isDigitOrLine

/-- The parts of a list between the places of a separator. -/
def partsBetween {α : Type} [BEq α] (separator : α) : List α → List (List α)
  | [] => [[]]
  | a :: rest =>
    if a == separator then [] :: partsBetween separator rest
    else match partsBetween separator rest with
      | part :: parts => (a :: part) :: parts
      | [] => [[a]]

/-- The parts of a text between colons. -/
def colonParts (cs : List Char) : List (List Char) := partsBetween ':' cs

/-- Whether a text is a number below sixty, of one or two digits. -/
def isSixtieth : List Char → Bool
  | [a] => isAsciiDigit a
  | [a, b] => '0' ≤ a && a ≤ '5' && isAsciiDigit b
  | _ => false

/-- Whether a text without a sign is an integer. -/
def isPlainInt (cs : List Char) : Bool :=
  match cs with
  | '0' :: 'b' :: rest => !rest.isEmpty && rest.all fun c => c == '0' || c == '1' || c == '_'
  | '0' :: 'x' :: rest => !rest.isEmpty && rest.all fun c => (baseDigit? 16 c).isSome || c == '_'
  | '0' :: rest => rest.all fun c => (baseDigit? 8 c).isSome || c == '_'
  | _ =>
    match colonParts cs with
    | [] => false
    | whole :: rest => isDigits whole && rest.all isSixtieth

/-- Whether a text is an integer. -/
def isInt (cs : List Char) : Bool := isPlainInt (unsigned cs)

/-- Whether a text is an exponent or empty. -/
def isExponent : List Char → Bool
  | [] => true
  | mark :: sign :: digits =>
    (mark == 'e' || mark == 'E') && (sign == '-' || sign == '+') && !digits.isEmpty &&
      digits.all isAsciiDigit
  | _ => false

/-- Whether a text is the part of a float after its point. -/
def isFraction (cs : List Char) : Bool := isExponent (cs.dropWhile isDigitOrLine)

/-- Whether a text is a float. -/
def isFloat (cs : List Char) : Bool :=
  let word := String.ofList (unsigned cs)
  if [".inf", ".Inf", ".INF"].contains word then true
  else if [".nan", ".NaN", ".NAN"].contains (String.ofList cs) then true
  else match cs with
    | '.' :: c :: rest => isAsciiDigit c && isFraction rest
    | _ =>
      match (unsigned cs).span (· != '.') with
      | (whole, '.' :: rest) =>
        match colonParts whole with
        | [] => false
        | [digits] => isDigits digits && isFraction rest
        | first :: parts => isDigits first && parts.all isSixtieth && rest.all isDigitOrLine
      | _ => false

end Kind

/-! ### Points in time -/

/-- The written parts of a point in time. -/
structure MomentText where
  /-- The year. -/
  year : Nat
  /-- The month. -/
  month : Nat
  /-- The day. -/
  day : Nat
  /-- The hour, the minute and the second, if there is a time of day. -/
  time : Option (Nat × Nat × Nat)
  /-- The digits after the point of the second. -/
  fraction : List Nat
  /-- The distance from universal time in minutes, if it is given. -/
  ahead : Option Int

namespace MomentText

/-- Takes digits off the front of a text: at least `least`, at most `most`. -/
def takeNumber? (least most : Nat) (cs : List Char) : Option (Nat × List Char) :=
  let digits := (cs.take most).takeWhile isAsciiDigit
  if digits.length < least then none
  else some (ofDigits 10 (digits.map fun c => c.toNat - 48), cs.drop digits.length)

/-- Takes a character off the front of a text. -/
def takeChar? (c : Char) : List Char → Option (List Char)
  | a :: rest => if a == c then some rest else none
  | [] => none

/-- Reads the distance from universal time, which ends a text. -/
def ahead? (cs : List Char) : Option (Option Int) :=
  match cs.dropWhile fun c => c == ' ' || c == '\t' with
  | [] => if cs.isEmpty then some none else none
  | ['Z'] => some (some 0)
  | sign :: rest => do
    guard (sign = '-' ∨ sign = '+')
    let (hours, rest) ← takeNumber? 1 2 rest
    let minutes ← match rest with
      | [] => some 0
      | _ => do
        let (minutes, rest) ← takeNumber? 2 2 (← takeChar? ':' rest)
        guard rest.isEmpty
        some minutes
    let n := Int.ofNat (hours * 60 + minutes)
    some (some (if sign = '-' then -n else n))

/-- Reads a point in time, or a day alone. -/
def read? (cs : List Char) : Option MomentText := do
  let (year, cs) ← takeNumber? 4 4 cs
  let (month, cs) ← takeNumber? 1 2 (← takeChar? '-' cs)
  let (day, cs) ← takeNumber? 1 2 (← takeChar? '-' cs)
  match cs with
  | [] => some ⟨year, month, day, none, [], none⟩
  | mark :: rest =>
    guard (mark = 'T' ∨ mark = 't' ∨ mark = ' ' ∨ mark = '\t')
    let rest := if mark = ' ' ∨ mark = '\t' then rest.dropWhile fun c => c == ' ' || c == '\t'
      else rest
    let (hour, cs) ← takeNumber? 1 2 rest
    let (minute, cs) ← takeNumber? 2 2 (← takeChar? ':' cs)
    let (second, cs) ← takeNumber? 2 2 (← takeChar? ':' cs)
    let (fraction, cs) := match cs with
      | '.' :: rest => rest.span isAsciiDigit
      | cs => ([], cs)
    let ahead ← ahead? cs
    let digits := fraction.map fun c => c.toNat - 48
    some ⟨year, month, day, some (hour, minute, second), digits, ahead⟩

end MomentText

namespace Kind

/-- Whether a text is a point in time.  A day alone needs two digits for month and day. -/
def isMoment (cs : List Char) : Bool :=
  match MomentText.read? cs with
  | none => false
  | some m => m.time.isSome || cs.length == 10

/-- A text without a line feed at its end. -/
def withoutLineFeed (cs : List Char) : List Char :=
  if cs.getLast? == some '\n' then cs.dropLast else cs

/-- The kind that shows in the characters of a plain scalar. -/
def ofChars (text : List Char) : Kind :=
  let cs := withoutLineFeed text
  let word := String.ofList cs
  if boolWords.contains word then bool
  else if isFloat cs then float
  else if isInt cs then int
  else if word == "<<" then merge
  else if nullWords.contains word && (word != "" || text.isEmpty) then null
  else if isMoment cs then moment
  else if word == "=" then default
  else if word == "!" || word == "&" || word == "*" then other
  else .text

/-- The kind that shows in the text of a scalar.  Half of a pair shows none but that of a text. -/
def ofPlain (text : List Glyph) : Kind := ((text.mapM Glyph.char?).map ofChars).getD .text

end Kind

end TableFeed.Yaml
