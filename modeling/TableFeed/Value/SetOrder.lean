import TableFeed.Value.Basic

/-!
# The order of a set

The members of a set take places in a table, and stand in the order of these places.  A number has a
place of its own, which depends on its value alone; if that is taken, it moves on.  Other members
have no places that could be told beforehand, so that a set with such a member is left as it is.
-/

namespace TableFeed.Value

/-- The modulus of residues, which is prime. -/
def residueModulus : Nat := Nat.pow 2 61 - 1

/-- The residue of a number whose denominator is a power of two.  Two to the 61st is one in this
arithmetic, so that a power of two can be divided by.  No residue is -1. -/
def residue : Extended → Int
  | .finite q =>
    let halvings := q.den.log2 % 61
    let r := Int.ofNat (q.num.natAbs * Nat.pow 2 (61 - halvings) % residueModulus)
    if 0 ≤ q.num then r else if r = 1 then -2 else -r
  | .infinite neg => if neg then -314159 else 314159

/-- The size of the table for a number of members. -/
def tableSize (count : Nat) : Nat := if count ≤ 4 then 8 else Nat.pow 2 ((2 * count).log2 + 1)

/-- The first free place from a place on, in a table of a size.  Up to nine neighbours of a place
are tried before the next place, except near the end of the table. -/
def freePlace (taken : Nat → Bool) (size : Nat) : Nat → Nat → Nat → Nat
  | 0, _, place => place
  | steps + 1, shift, place =>
    let neighbours := if place + 9 < size then List.range' place 10 else [place]
    match neighbours.find? fun p => !taken p with
    | some p => p
    | none => freePlace taken size steps (shift / 32) ((place * 5 + 1 + shift / 32) % size)

/-- Puts a member with a residue into a table of a size.  The table has the places taken so far. -/
def putMember (size : Nat) (table : List (Nat × Value)) (residue : Int) (v : Value) :
    List (Nat × Value) :=
  let shift := (residue % Int.ofNat (Nat.pow 2 64)).toNat
  let taken (p : Nat) : Bool := table.any fun e => e.1 = p
  (freePlace taken size (size + 16) shift (shift % size), v) :: table

/-- The members of a set in their order. -/
def inSetOrder (members : List Value) : List Value :=
  match members.mapM number? with
  | none => members
  | some numbers =>
    let size := tableSize members.length
    let table := (numbers.zip members).foldl (fun t (q, v) => putMember size t (residue q) v) []
    (table.mergeSort fun a b => a.1 ≤ b.1).map Prod.snd

end TableFeed.Value
