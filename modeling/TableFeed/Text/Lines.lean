/-!
# Lines

A line ends at a line feed, at a carriage return, or at the two together; no other character ends a
line.  Every line keeps a line feed as its end, except for a last one that has none.
-/

namespace TableFeed.Text

/-- A text in which every line ends at a line feed. -/
def unifyLineEnds : List Char → List Char
  | [] => []
  | '\r' :: '\n' :: rest => '\n' :: unifyLineEnds rest
  | '\r' :: rest => '\n' :: unifyLineEnds rest
  | c :: rest => c :: unifyLineEnds rest

/-- Puts a character in front of the first of some lines. -/
def consToFirst (c : Char) : List (List Char) → List (List Char)
  | [] => [[c]]
  | line :: rest => (c :: line) :: rest

/-- The lines of a text in which every line ends at a line feed. -/
def splitLines : List Char → List (List Char)
  | [] => []
  | '\n' :: rest => ['\n'] :: splitLines rest
  | c :: rest => consToFirst c (splitLines rest)

/-- The lines of a text. -/
def lines (cs : List Char) : List (List Char) := splitLines (unifyLineEnds cs)

/-- The lines of a text that goes on: those that have certainly ended.  A carriage return at the end
may be the first half of a line end. -/
def endedLines (cs : List Char) : List (List Char) :=
  let known := if cs.getLast? = some '\r' then cs.dropLast else cs
  (lines known).filter fun line => line.getLast? = some '\n'

end TableFeed.Text
