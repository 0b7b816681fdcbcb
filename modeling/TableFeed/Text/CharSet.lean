/-!
# Sets of characters

A set of code points is written down as the ascending list of the points where membership
changes: the first bound opens a run, the second closes it, and so on.  The tables of this folder
are sets of this form.
-/

namespace TableFeed.Text

/-- A set of code points, given by the ascending points where membership changes. -/
structure CharSet where
  /-- The points where membership changes, in ascending order. -/
  bounds : List Nat

namespace CharSet

/-- A character is in the set when an odd number of changes lie at or before it. -/
def contains (s : CharSet) (c : Char) : Bool :=
  s.bounds.countP (· ≤ c.toNat) % 2 == 1

@[simp] theorem contains_nil (c : Char) : (CharSet.mk []).contains c = false := rfl

end CharSet

end TableFeed.Text
