import TableFeed.Value.Fault

/-!
# Positions

A position tells an item of a list by its number.  The first item has the number 0.  Negative
numbers count from the end, where the last item has the number -1.
-/

namespace TableFeed.Position

variable {α : Type}

/-- The item at a position of a list, if there is one. -/
def item? (xs : List α) : Int → Option α
  | .ofNat n => xs[n]?
  | .negSucc n => xs.reverse[n]?

/-- More items than any list has. -/
def listBound : Nat := Nat.pow 2 63

/-- Whether a position is so far off that no list is long enough to have it. -/
def isBeyondLists (n : Int) : Bool := n < -Int.ofNat listBound || Int.ofNat listBound ≤ n

/-- The item at a position of a list. -/
def item (xs : List α) (n : Int) : Except Fault α :=
  (item? xs n).elim (.error (if isBeyondLists n then .beyondLists else .position)) .ok

@[simp] theorem item?_natCast (xs : List α) (n : Nat) : item? xs n = xs[n]? := rfl

theorem item_of_item? {xs : List α} {n : Int} {x : α} (h : item? xs n = some x) :
    item xs n = .ok x := by
  simp [item, h]

theorem item_natCast {xs : List α} {n : Nat} (h : n < xs.length) : item xs n = .ok xs[n] :=
  item_of_item? (by simp [h])

end TableFeed.Position
