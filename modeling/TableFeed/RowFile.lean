import TableFeed.Files
import TableFeed.Text.Blank
import TableFeed.Text.Lines
import TableFeed.Text.Utf8

/-!
# Files of rows

A file of rows has one row on each line, as a JSON object; blank lines are skipped.  If a field is
named for it, its value in each row becomes the row's token.  The first line that is no row decides
how the reading fails.
-/

namespace TableFeed

/-- Rows, and their tokens if a field was named for them. -/
structure RowList where
  /-- The rows. -/
  rows : List Row
  /-- The tokens. -/
  tokens : Option (List Writing)

namespace RowFile

/-- The lines of a file as they are delivered, and the failure that ends them early. -/
def delivered (octets : List UInt8) : List (List Char) × Option Failure :=
  let d := Text.decodePieces octets
  match d.fault with
  | none => (Text.lines d.chars, none)
  | some f => (Text.endedLines d.chars, some (.decoding f))

/-- Whether a line holds only white space. -/
def isBlankLine (line : List Char) : Bool := line.all Text.isBlank

/-- The failure of a line of a file. -/
def lineFailure (path : String) (number : Nat) (f : LineFault) : Failure :=
  .misuse (.line path number f)

/-- What a line may hold at most.  The depth stands for the depth of calls at which a reader gives
up.  It is an approximation, since that depends on the calls that are open when the reading
begins. -/
def limits : Json.Limits := ⟨some Number.digitLimit, some 990⟩

/-- Reads the object on a line. -/
def readObject (path : String) (number : Nat) (line : List Char) : Except Failure Row :=
  match Json.read limits (String.ofList line) with
  | .ok (.mapping entries) => .ok (.mapping entries)
  | .ok _ => .error (lineFailure path number .notObject)
  | .error f =>
    match f.problem with
    | .digits n => .error (.fault (.unreadable n))
    | .depth listed => .error (.fault (.nested listed))
    | _ => .error (lineFailure path number (.notJson f))

/-- The token of a row, which is the text of its value for a field. -/
def tokenOf (path : String) (number : Nat) (field : String) (row : Row) :
    Except Failure Writing := do
  let value := match row with
    | .mapping entries => Value.get entries field
    | _ => .null
  if value.isNull then .error (lineFailure path number (.tokenless field))
  else liftFault value.shown

/-- Reads the rows of numbered lines, each with its token if a field is named. -/
def readLines (path : String) (field : Option String) (failure : Option Failure) :
    List (List Char × Nat) → Except Failure (List (Row × Option Writing))
  | [] => failure.elim (.ok []) .error
  | (line, n) :: rest =>
    if isBlankLine line then readLines path field failure rest
    else do
      let row ← readObject path n line
      let token ← match field with
        | none => .ok none
        | some name => (tokenOf path n name row).map some
      .ok ((row, token) :: (← readLines path field failure rest))

/-- The field that gives the tokens.  A field without a name gives none. -/
def tokenField (field : Option String) : Option String := field.filter fun name => !name.isEmpty

/-- The rows in the octets of a file.  The path is only for messages. -/
def ofOctets (path : String) (field : Option String) (octets : List UInt8) :
    Except Failure RowList := do
  let field := tokenField field
  let (lines, failure) := delivered octets
  let found ← readLines path field failure (lines.zipIdx 1)
  .ok ⟨found.map Prod.fst, if field.isSome then some (found.filterMap Prod.snd) else none⟩

/-- The rows of a file. -/
def read (source : FileSource) (path : Path) (field : Option String) : Except Failure RowList :=
  match source path with
  | .error f => .error (.file path.print f)
  | .ok octets => ofOctets path.print field octets

end RowFile

end TableFeed
