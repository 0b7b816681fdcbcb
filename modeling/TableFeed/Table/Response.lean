import TableFeed.Failure.Basic

/-!
# Responses of the service

The service answers an insert with a list of entries, one for each rejected row.  An entry holds
the index of the row and a list of details, each with a message and a reason.  One `Rejection` is
made of each entry, whatever it lacks: no entry is dropped.
-/

namespace TableFeed.Rejection

/-- The text that stands for a detail that says nothing. -/
def unknown : String := "unknown error"

/-- The first of two values that is given, else the second. -/
def orElse (v w : Value) : Value := if v.isGiven then v else w

/-- The message of a detail: its message, else its reason, else `unknown`. -/
def detailMessage (detail : Value) : Except Fault Value := do
  let entries ← detail.entries
  .ok (orElse (orElse (.get entries "message") (.get entries "reason")) (.text unknown))

/-- The reason of a detail, if it gives one. -/
def detailReason? (detail : Value) : Except Fault (Option Value) := do
  let reason := Value.get (← detail.entries) "reason"
  .ok (if reason.isGiven then some reason else none)

/-- Joins texts from a position on. -/
def joinFrom (position : Nat) : List Value → Except Fault (List Writing)
  | [] => .ok []
  | .text s :: rest => do .ok (s :: (← joinFrom (position + 1) rest))
  | .torn gs :: rest => do .ok (⟨gs⟩ :: (← joinFrom (position + 1) rest))
  | v :: _ => .error (.joined position v.kind)

/-- The message of an entry: the messages of its details. -/
def joined (messages : List Value) : Except Fault Writing :=
  if messages.isEmpty then .ok unknown
  else do .ok (Writing.intercalate "; " (← joinFrom 0 messages))

/-- What an entry of a response says. -/
def ofEntry (entry : Value) : Except Fault Rejection := do
  let entries ← entry.entries
  let details ← (orElse (.get entries "errors") (.list [])).parts
  let messages ← details.mapM detailMessage
  let reasons ← details.mapM detailReason?
  let message ← joined messages
  .ok ⟨.get entries "index", message, (reasons.findSome? id).getD .null⟩

/-- What a response says.  A response that is not given rejects nothing. -/
def ofResponse (response : Value) : Except Fault (List Rejection) := do
  (← (orElse response (.list [])).parts).mapM ofEntry

end TableFeed.Rejection
