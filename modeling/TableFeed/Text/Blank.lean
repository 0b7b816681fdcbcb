import TableFeed.Text.CharSet

/-!
# Blank characters

White space of every script.  A line that holds nothing else is blank, and a name is read without
the blanks around it.
-/

namespace TableFeed.Text

/-- The white space of Unicode, with the four separators of the control range. -/
def blankChars : CharSet where
  bounds := [9, 14, 28, 33, 133, 134, 160, 161, 5760, 5761, 8192, 8203, 8232, 8234, 8239, 8240,
    8287, 8288, 12288, 12289]

/-- Whether a character is white space. -/
def isBlank (c : Char) : Bool := blankChars.contains c

/-- A text without the characters of a class at its two ends. -/
def stripWhere (drop : Char → Bool) (cs : List Char) : List Char :=
  ((cs.dropWhile drop).reverse.dropWhile drop).reverse

/-- A text without the white space at its two ends. -/
def strip (cs : List Char) : List Char := stripWhere isBlank cs

end TableFeed.Text
