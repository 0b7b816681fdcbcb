import TableFeed.Table.Name
import TableFeed.Value.Printer

/-!
# Rejected rows

The service answers an insert with a report: one entry for each row that it rejects.  An entry
names the row by its place in the batch, which the service may fail to give.  A row that stays
rejected is told to the caller by its position among the caller's rows.
-/

namespace TableFeed

/-- An entry of a report: the service rejected a row of a batch. -/
structure Rejection where
  /-- The place of the row in its batch, as it was received. -/
  index : Value
  /-- Why the row was rejected. -/
  message : Writing
  /-- A short word for the reason, as it was received. -/
  reason : Value := .null

namespace Rejection

/-- The literal of an entry. -/
def literal (r : Rejection) : String :=
  "InsertError(index=" ++ r.index.literal ++ ", message=" ++ r.message.quoted ++
    ", reason=" ++ r.reason.literal ++ ")"

end Rejection

/-- A row that the service rejected, as the caller knows it. -/
structure RejectedRow where
  /-- The position among the caller's rows. -/
  position : Int
  /-- The row. -/
  row : Row
  /-- The row's token, if the caller gave tokens. -/
  token : Option Writing
  /-- What was reported of it. -/
  messages : List Writing

namespace RejectedRow

/-- What is said about a rejected row. -/
def describe (r : RejectedRow) : Writing :=
  let token : Writing := match r.token with
    | none => ""
    | some t => " insert_id=" ++ t
  "row " ++ Number.printInt r.position ++ token ++ ": " ++
    Writing.intercalate "; " r.messages

end RejectedRow

end TableFeed
