import TableFeed.Failure.Basic
import TableFeed.Table.Batch
import TableFeed.Table.Position

/-!
# The outcome of a round

Each batch of a round is answered by a report whose entries name rows by their place in the batch.
`Outcome.ofReports` finds these rows among the rows of the round.  A row that is named more than
once is rejected once, with everything that was said of it.

An index is meant to be an integer.  Anything else that lies within the batch is found out when the
row is fetched, since only integers count the rows of a list.
-/

namespace TableFeed

/-- A row of a round that was rejected. -/
structure Reject where
  /-- The position among the rows of the round. -/
  position : Int
  /-- The row. -/
  row : Row
  /-- The row's token, if there are tokens. -/
  token : Option Writing
  /-- What was reported of the row, in order. -/
  messages : List Writing

/-- What a round left to be done. -/
structure Outcome where
  /-- The rejected rows, by position. -/
  rejects : List Reject
  /-- Whether the rows of the round have tokens. -/
  tokened : Bool
  /-- The entries of all reports, in order. -/
  entries : List Rejection := []

namespace Outcome

/-- Whether every row was accepted. -/
def succeeded (o : Outcome) : Bool := o.rejects.isEmpty

/-- The positions of the rejected rows among the rows of the round. -/
def positions (o : Outcome) : List Int := o.rejects.map Reject.position

/-- The rejected rows. -/
def rows (o : Outcome) : List Row := o.rejects.map Reject.row

/-- The tokens of the rejected rows, if there are tokens. -/
def tokens (o : Outcome) : Option (List Writing) :=
  if o.tokened then some (o.rejects.filterMap Reject.token) else none

end Outcome

/-- A place among the rows of a round. -/
inductive Place where
  /-- The place of a row. -/
  | row (position : Int)
  /-- A place that was given by a number of a kind that counts nothing. -/
  | number (value : Rat) (kind : String)

namespace Place

/-- The number of a place. -/
def value : Place → Rat
  | row n => n
  | number q _ => q

/-- Whether two places are the same. -/
def same : Place → Place → Bool
  | row m, row n => m == n
  | p, q => p.value == q.value

/-- Whether a place is not behind another one. -/
def notAfter : Place → Place → Bool
  | row m, row n => m ≤ n
  | p, q => p.value ≤ q.value

/-- The position of a row at a place. -/
def position : Place → Except Fault Int
  | row n => .ok n
  | number _ kind => .error (.subscript kind)

end Place

/-- The place within a round of an index within a batch that starts at a position.  The index is
known to be a number within the batch. -/
def placeOf (start : Int) (index : Value) (q : Rat) : Except Failure Place :=
  match index with
  | .float x =>
    match Number.ofInt? start with
    | none => .error (.overflow .integer)
    | some s =>
      match Value.floatNumber? (s + x) with
      | some (.finite sum) => .ok (.number sum index.kind)
      | _ => .ok (.number (start + q) index.kind)
  | .decimal _ => .ok (.number (start + q) index.kind)
  | _ => .ok (.row (start + q.num))

/-- Finds an entry of the report on a batch.  `before` are the entries of the round before it, the
last one first. -/
def locate (b : Batch) (before : List Rejection) (r : Rejection) :
    Except Failure (Place × Writing) :=
  let outside : Except Failure (Place × Writing) :=
    if r.index.isTooLong then .error (.fault .unwritable)
    else .error (.report (.outside r.index b.start b.rows.length r.message))
  match r.index with
  | .null => .error (.report (.unindexed b.start (r :: before).reverse))
  | index =>
    match index.number? with
    | some (.finite q) =>
      if 0 ≤ q ∧ q < b.rows.length then
        (placeOf b.start index q).map fun p => (p, r.message)
      else outside
    | some (.infinite _) => outside
    | none =>
      match index with
      | .float _ => outside
      | .decimal _ => .error (.fault .undefinedOrder)
      | _ => .error (.fault (.unordered index.kind))

/-- Finds the entries of all reports, in order.  `before` are those found already, the last one
first. -/
def locateAll (before : List Rejection) :
    List (Batch × Rejection) → Except Failure (List (Place × Writing))
  | [] => .ok []
  | (b, r) :: rest => do
    let found ← locate b before r
    .ok (found :: (← locateAll (r :: before) rest))

/-- Fetches the row at a place that was reported, with its token and everything that was said of
it. -/
def fetch (rows : List Row) (tokens : Option (List Writing)) (found : List (Place × Writing))
    (p : Place) : Except Fault Reject := do
  let n ← p.position
  let row ← Position.item rows n
  let token ← match tokens with
    | none => .ok none
    | some ts => (Position.item ts n).map some
  .ok ⟨n, row, token, (found.filter fun e => p.same e.1).map Prod.snd⟩

namespace Outcome

/-- The entries of the reports, each with the batch that it is about. -/
def paired (batches : List Batch) (reports : List (List Rejection)) : List (Batch × Rejection) :=
  (batches.zip reports).flatMap fun (b, entries) => entries.map (b, ·)

/-- The outcome of a round with given rows, batches and reports. -/
def ofReports (rows : List Row) (tokens : Option (List Writing)) (batches : List Batch)
    (reports : List (List Rejection)) : Except Failure Outcome := do
  let entries := paired batches reports
  let found ← locateAll [] entries
  let places := (found.map Prod.fst).eraseDupsBy Place.same
  let rejects ← liftFault ((places.mergeSort Place.notAfter).mapM (fetch rows tokens found))
  .ok ⟨rejects, tokens.isSome, entries.map Prod.snd⟩

end Outcome

end TableFeed
