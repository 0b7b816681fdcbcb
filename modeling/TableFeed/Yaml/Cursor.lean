import TableFeed.Yaml.Fault

/-!
# Places in a document

A document is read character by character.  The column of a place decides the structure of a
document, and its line and number decide how far apart a key and its colon may be.
-/

namespace TableFeed.Yaml

/-- Whether a character may stand in a document. -/
def isAllowed (c : Char) : Bool :=
  c == '\t' || c == '\n' || c == '\r' || (' ' ≤ c && c ≤ '~') || c == '\x85' ||
    (0xA0 ≤ c.toNat && c.toNat ≤ 0xFFFD) || 0x10000 ≤ c.toNat

/-- Whether a character ends a line. -/
def isBreak (c : Char) : Bool :=
  c == '\n' || c == '\r' || c == '\x85' || c == '\u2028' || c == '\u2029'

/-- The character that stands for the end of a document, in which it cannot occur. -/
def ending : Char := '\x00'

/-- Whether a character ends a line or the document. -/
def isBreakOrEnd (c : Char) : Bool := c == ending || isBreak c

/-- Whether a character is a space or ends a line or the document. -/
def isSpaceOrEnd (c : Char) : Bool := c == ' ' || isBreakOrEnd c

/-- Whether a character separates tokens. -/
def isGap (c : Char) : Bool := c == '\t' || isSpaceOrEnd c

/-- Whether a character may stand in a name. -/
def isNameChar (c : Char) : Bool := c.isAlphanum || c == '-' || c == '_'

/-- A place in a document. -/
structure Cursor where
  /-- The characters from the place on. -/
  rest : List Char
  /-- The number of characters before the place. -/
  index : Nat := 0
  /-- The number of lines before the place. -/
  line : Nat := 0
  /-- The number of characters before the place on its line. -/
  column : Nat := 0
  /-- More than the number of characters from the place on.  It bounds every walk over them. -/
  bound : Nat

namespace Cursor

/-- The start of a document. -/
def ofText (cs : List Char) : Cursor := { rest := cs, bound := cs.length + 1 }

/-- The character some way after the place. -/
def peekAt (c : Cursor) (n : Nat) : Char := (c.rest.drop n).headD ending

/-- The character at the place. -/
def peek (c : Cursor) : Char := c.rest.headD ending

/-- The next place. -/
def next (c : Cursor) : Cursor :=
  match c.rest with
  | [] => c
  | a :: rest =>
    if isBreak a && !(a == '\r' && rest.head? == some '\n') then
      { c with rest := rest, index := c.index + 1, line := c.line + 1, column := 0 }
    else if a == '\ufeff' then { c with rest := rest, index := c.index + 1 }
    else { c with rest := rest, index := c.index + 1, column := c.column + 1 }

/-- The place after some characters. -/
def skip (c : Cursor) : Nat → Cursor
  | 0 => c
  | n + 1 => c.next.skip n

/-- The characters of a class from a place on, and the place after them. -/
def span (c : Cursor) (p : Char → Bool) : List Char × Cursor :=
  let taken := c.rest.takeWhile p
  (taken, c.skip taken.length)

/-- The place after the characters of a class. -/
def dropWhile (c : Cursor) (p : Char → Bool) : Cursor := (c.span p).2

/-- The place after spaces. -/
def dropSpaces (c : Cursor) : Cursor := c.dropWhile (· == ' ')

/-- The place after a comment, if one starts at the place. -/
def dropComment (c : Cursor) : Cursor :=
  if c.peek == '#' then c.dropWhile fun a => !isBreakOrEnd a else c

/-- The line end at a place, as the character that stands for it, and the place after it. -/
def lineEnd? (c : Cursor) : Option (Char × Cursor) :=
  let a := c.peek
  if a == '\r' && c.peekAt 1 == '\n' then some ('\n', c.skip 2)
  else if a == '\u2028' || a == '\u2029' then some (a, c.next)
  else if isBreak a then some ('\n', c.next)
  else none

/-- Whether three equal marks and a gap stand at a place. -/
def atMarks (c : Cursor) (mark : Char) : Bool :=
  c.rest.take 3 == [mark, mark, mark] && isGap (c.peekAt 3)

/-- Whether a mark between documents stands at a place. -/
def atSeparator (c : Cursor) : Bool := c.atMarks '-' || c.atMarks '.'

end Cursor

/-- Stops for want of a token. -/
def refuse {α : Type} : Except Fault α := .error (.refused .tokens)

end TableFeed.Yaml
