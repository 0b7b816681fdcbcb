import TableFeed.Text.Unit

/-!
# Halves of pairs

An escape can name half of a pair of units.  Such a half is no character, but it counts, is told
apart from other halves and is shown by an escape.  A text that has none is a `String`; this file is
about those that may have some.
-/

namespace TableFeed.Text

/-- A character, or half of a pair that stands alone. -/
inductive Glyph where
  /-- A character. -/
  | char (c : Char)
  /-- Half of a pair. -/
  | half (unit : Nat)
deriving DecidableEq, Repr

namespace Glyph

/-- What a number stands for that is below 1114112. -/
def ofPoint (n : Nat) : Glyph :=
  if isHighUnit n || isLowUnit n then half n else char (Char.ofNat n)

/-- The character, if it is one. -/
def char? : Glyph → Option Char
  | char c => some c
  | half _ => none

/-- The character, or the one that stands for what is none. -/
def shown : Glyph → Char
  | char c => c
  | half _ => '\ufffd'

end Glyph

/-- The glyphs of a text that has only characters. -/
def glyphs (s : String) : List Glyph := s.toList.map .char

end TableFeed.Text
