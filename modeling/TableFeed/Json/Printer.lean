import TableFeed.Text.Glyph
import TableFeed.Value.Fault

/-!
# Values as JSON

The compact form in which rows are sent: no blanks, and nothing outside the ASCII range but as an
escape.  A value that JSON does not know is written as the text that displays it, and a key that
is no text by the text that it stands for.
-/

namespace TableFeed.Json

open Number Text

/-- A unit of sixteen bits as an escape. -/
def unitEscape (n : Nat) : List Char := '\\' :: 'u' :: hex 4 n

/-- A character within a JSON text. -/
def escaped (c : Char) : List Char :=
  if c = '"' then ['\\', '"']
  else if c = '\\' then ['\\', '\\']
  else if c = '\n' then ['\\', 'n']
  else if c = '\r' then ['\\', 'r']
  else if c = '\t' then ['\\', 't']
  else if c.toNat = 8 then ['\\', 'b']
  else if c.toNat = 12 then ['\\', 'f']
  else if ' ' ≤ c ∧ c ≤ '~' then [c]
  else if c.toNat < 0x10000 then unitEscape c.toNat
  else
    let (high, low) := pairOfChar c
    unitEscape high ++ unitEscape low

/-- A text between quotes. -/
def printText (s : String) : String :=
  (s.foldl (fun out c => if c.isAlphanum then out.push c else (escaped c).foldl String.push out)
    "\"").push '"'

/-- A text between quotes, in which halves of pairs may stand alone. -/
def printGlyphs (gs : List Glyph) : String :=
  let written (out : String) : Glyph → String
    | .char c => (escaped c).foldl String.push out
    | .half n => (unitEscape n).foldl String.push out
  (gs.foldl written "\"").push '"'

/-- An integer, unless it has more digits than may be written. -/
def printInteger (limited : Bool) (n : Int) : Except Fault String :=
  if limited && exceedsDigitLimit n then .error .unwritable else .ok (printInt n)

/-- The text that a key stands for, between quotes. -/
def printKey (limited : Bool) : Value → Except Fault String
  | .text s => .ok (printText s)
  | .torn gs => .ok (printGlyphs gs)
  | .int n => (printInteger limited n).map printText
  | .float x => .ok (printText (FloatLayout.wire.print x))
  | .undefined _ => .ok (printText (FloatLayout.wire.print notANumber))
  | .bool b => .ok (printText (if b then "true" else "false"))
  | .null => .ok (printText "null")
  | v => .error (.objectKey v.kind)

mutual

/-- Writes a value at the end of a text.  If `limited`, integers that are too long are refused. -/
def write (limited : Bool) (out : String) : Value → Except Fault String
  | .null => .ok (out ++ "null")
  | .bool b => .ok (out ++ if b then "true" else "false")
  | .int n => do .ok (out ++ (← printInteger limited n))
  | .float x => .ok (out ++ FloatLayout.wire.print x)
  | .undefined _ => .ok (out ++ FloatLayout.wire.print notANumber)
  | .text s => .ok (out ++ printText s)
  | .torn gs => .ok (out ++ printGlyphs gs)
  | .list items => do .ok ((← writeItems limited (out.push '[') true items).push ']')
  | .tuple items => do .ok ((← writeItems limited (out.push '[') true items).push ']')
  | .mapping entries => do .ok ((← writeEntries limited (out.push '\x7b') true entries).push '\x7d')
  | v => do .ok (out ++ printGlyphs (← v.shown).glyphs)

/-- Writes the items of a list, with commas between them. -/
def writeItems (limited : Bool) (out : String) (first : Bool) : List Value → Except Fault String
  | [] => .ok out
  | x :: xs => do
    let out ← write limited (if first then out else out.push ',') x
    writeItems limited out false xs

/-- Writes the entries of a mapping, with commas between them. -/
def writeEntries (limited : Bool) (out : String) (first : Bool) :
    List (Value × Value) → Except Fault String
  | [] => .ok out
  | (k, v) :: rest => do
    let out := (if first then out else out.push ',') ++ (← printKey limited k)
    let out ← write limited (out.push ':') v
    writeEntries limited out false rest

end

/-- The compact JSON form of a value. -/
def print (v : Value) : Except Fault String := write true "" v

/-- The number of octets of the compact JSON form of a value. -/
def size (v : Value) : Except Fault Nat := (print v).map String.utf8ByteSize

end TableFeed.Json
