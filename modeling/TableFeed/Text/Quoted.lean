import TableFeed.Text.Digit
import TableFeed.Text.Glyph
import TableFeed.Text.Printable

/-!
# Quoted literals

A text within a list, a mapping or a diagnostic is shown between quotes: single ones, unless it
holds a single quote and no double one.  The quote in use and the backslash are escaped, and so is
every character without a visible form.  Octets are shown in the same way, with those outside the
visible ASCII range as two digits.
-/

namespace TableFeed.Text

/-- A number in base 16 with zeros in front of it up to a width. -/
def hex (width n : Nat) : List Char :=
  let digits := (Nat.toDigits 16 n)
  List.replicate (width - digits.length) '0' ++ digits

/-- The quote around a literal with these characters. -/
def quoteFor (cs : List Char) : Char :=
  if cs.contains '\x27' && !cs.contains '"' then '"' else '\x27'

/-- The escape of the characters that have one of their own, within a given quote. -/
def shortEscape? (quote c : Char) : Option (List Char) :=
  if c = quote ∨ c = '\\' then some ['\\', c]
  else if c = '\n' then some ['\\', 'n']
  else if c = '\r' then some ['\\', 'r']
  else if c = '\t' then some ['\\', 't']
  else none

/-- A character within a literal in a given quote. -/
def quotedChar (quote c : Char) : List Char :=
  match shortEscape? quote c with
  | some cs => cs
  | none =>
    if isPrintable c then [c]
    else if c.toNat < 0x100 then '\\' :: 'x' :: hex 2 c.toNat
    else if c.toNat < 0x10000 then '\\' :: 'u' :: hex 4 c.toNat
    else '\\' :: 'U' :: hex 8 c.toNat

/-- A text as a literal. -/
def quoted (s : String) : String :=
  let cs := s.toList
  let quote := quoteFor cs
  String.ofList (quote :: cs.flatMap (quotedChar quote) ++ [quote])

/-- A character or half of a pair within a literal in a given quote. -/
def quotedGlyph (quote : Char) : Glyph → List Char
  | .char c => quotedChar quote c
  | .half n => '\\' :: 'u' :: hex 4 n

/-- A text in which halves of pairs may stand alone, as a literal. -/
def quotedGlyphs (gs : List Glyph) : String :=
  let quote := quoteFor (gs.filterMap Glyph.char?)
  String.ofList (quote :: gs.flatMap (quotedGlyph quote) ++ [quote])

/-- An octet within a literal in a given quote. -/
def quotedOctet (quote : Char) (b : UInt8) : List Char :=
  let c := Char.ofNat b.toNat
  match shortEscape? quote c with
  | some cs => cs
  | none => if ' ' ≤ c ∧ c ≤ '~' then [c] else '\\' :: 'x' :: hex 2 b.toNat

/-- Octets as a literal. -/
def quotedOctets (bs : List UInt8) : String :=
  let quote := quoteFor (bs.map fun b => Char.ofNat b.toNat)
  String.ofList ('b' :: quote :: bs.flatMap (quotedOctet quote) ++ [quote])

end TableFeed.Text
