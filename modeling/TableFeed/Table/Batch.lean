import TableFeed.Json.Printer
import TableFeed.Log

/-!
# Batches

The rows of a round are sent in batches.  A batch is closed by the row that brings it to the size
limit or to the row limit, and by the last row; that row is part of it, so that a batch exceeds the
size limit by less than its last row.

`Batch.plan` yields the batches of a round.  A row that has no token or no size ends the plan; the
batches before it stand.
-/

namespace TableFeed

/-- A run of a round's rows that is sent in one insert. -/
structure Batch where
  /-- The position of the first row among the rows of the round. -/
  start : Int
  /-- The rows. -/
  rows : List Row
  /-- The tokens of the rows, if the caller gave tokens. -/
  tokens : Option (List Writing)
  /-- The estimated size of the rows. -/
  size : Nat

/-- When a batch is closed. -/
structure BatchLimits where
  /-- The size from which on a batch is closed. -/
  size : Int
  /-- The number of rows from which on a batch is closed. -/
  rows : Int
deriving DecidableEq, Repr

namespace BatchLimits

/-- The limits that hold where none are given. -/
def standard : BatchLimits := ⟨64 * 1024, 500⟩

/-- Whether a batch of a given size and a given number of rows has reached a limit. -/
def reached (limits : BatchLimits) (size rows : Nat) : Bool :=
  limits.size ≤ size || limits.rows ≤ rows

end BatchLimits

/-- The estimated size of a row on the wire. -/
def rowSize (row : Row) : Except Fault Nat := Json.size row

/-- The batches of a round, and what ended the plan early, if something did. -/
structure Plan where
  /-- The batches, in order. -/
  batches : List Batch
  /-- Why there are no more of them. -/
  fault : Option Fault

namespace Plan

/-- The plan that starts with a given batch. -/
def after (b : Batch) (p : Plan) : Plan := { p with batches := b :: p.batches }

/-- The batches of a plan that came to its end. -/
def complete (p : Plan) : Except Fault (List Batch) :=
  match p.fault with
  | none => .ok p.batches
  | some f => .error f

end Plan

namespace Batch

/-- The positions of a batch's rows among the rows of the round. -/
def positions (b : Batch) : List Int := (List.range b.rows.length).map (b.start + Int.ofNat ·)

/-- A batch that is still open: its rows and tokens, the last one first. -/
structure Open where
  /-- The position of the first row. -/
  start : Nat
  /-- The rows, the last one first. -/
  rows : List Row
  /-- How many rows there are. -/
  count : Nat
  /-- The tokens, the last one first. -/
  tokens : List Writing
  /-- The estimated size of the rows. -/
  size : Nat

namespace Open

/-- The batch that starts at a position and has no rows yet. -/
def empty (start : Nat) : Open := ⟨start, [], 0, [], 0⟩

/-- The batch with one more row, and the token of the row if there are tokens. -/
def add (o : Open) (row : Row) (token : Option Writing) (size : Nat) : Open :=
  ⟨o.start, row :: o.rows, o.count + 1, token.toList ++ o.tokens, o.size + size⟩

/-- The batch, closed.  It has tokens if `tokened`. -/
def close (o : Open) (tokened : Bool) : Batch :=
  ⟨o.start, o.rows.reverse, if tokened then some o.tokens.reverse else none, o.size⟩

end Open

/-- Takes the first of the tokens that are left, if there are tokens at all. -/
def takeToken : Option (List Writing) → Except Fault (Option Writing × Option (List Writing))
  | none => .ok (none, none)
  | some [] => .error .position
  | some (t :: ts) => .ok (some t, some ts)

/-- The batches of the rows that are left, after those in the batch that is open. -/
def planFrom (limits : BatchLimits) (o : Open) : List Row → Option (List Writing) → Plan
  | [], _ => ⟨[], none⟩
  | row :: rest, tokens =>
    match takeToken tokens with
    | .error f => ⟨[], some f⟩
    | .ok (token, tokens) =>
      match rowSize row with
      | .error f => ⟨[], some f⟩
      | .ok size =>
        let o := o.add row token size
        if limits.reached o.size o.count || rest.isEmpty then
          (planFrom limits (.empty (o.start + o.count)) rest tokens).after (o.close tokens.isSome)
        else planFrom limits o rest tokens

/-- The batches of a round. -/
def plan (limits : BatchLimits) (rows : List Row) (tokens : Option (List Writing)) : Plan :=
  planFrom limits (.empty 0) rows tokens

/-- The size of a round with given batches. -/
def sizeOf (batches : List Batch) : RoundSize where
  batches := batches.length
  rows := batches.foldr (fun b n => b.rows.length + n) 0
  octets := batches.foldr (fun b n => b.size + n) 0

end Batch

end TableFeed
