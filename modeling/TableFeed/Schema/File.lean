import TableFeed.Files
import TableFeed.Schema.Field
import TableFeed.Text.Lines
import TableFeed.Text.Utf8
import TableFeed.Yaml.Document

/-!
# Schema files

A schema file is a YAML document: a list of fields, or a mapping with such a list under its key
`schema`.  Where the file has no fields, it is refused whatever else it holds.
-/

namespace TableFeed

namespace SchemaFile

/-- The failure of a document in a file. -/
def documentFailure (path : String) : Yaml.Fault → Failure
  | .refused stage => .misuse (.schemaRefused path stage)
  | .scalar f => .scalar f

open Yaml (Document)

/-- The cell of a document that is to list the fields, if there is one. -/
def listing? (d : Document) : Option Nat :=
  match d.cell d.root with
  | .mapping entries => Value.lookup? entries (.text "schema")
  | _ => some d.root

/-- Whether a cell lists something. -/
def listsFields (d : Document) (n : Nat) : Bool :=
  match d.cell n with
  | .list items => !items.isEmpty
  | .pairs items => !items.isEmpty
  | _ => false

/-- The value of a cell that lists fields, down to some depth.  The fields of a record are listed in
the same way; a list that comes back within itself ends there. -/
def listed (d : Document) : Nat → List Nat → Nat → Value
  | 0, _, _ => .within true
  | depth + 1, path, n =>
    match d.cell n with
    | .list items =>
      if path.contains n then .within true
      else .list (items.map fun item =>
        match d.cell item with
        | .mapping entries => .mapping (entries.map fun (k, v) =>
            (k, if k.same (.text "fields") then listed d depth (n :: path) v else d.value v))
        | _ => d.value item)
    | _ => d.value n

/-- The list of fields in a document, if it has one. -/
def fieldList? (d : Document) : Option Value :=
  ((listing? d).filter (listsFields d)).map (listed d (d.cells.size + 1) [])

/-- The fields in the octets of a file.  The path is only for messages. -/
def ofOctets (path : String) (octets : List UInt8) : Except Failure (List Field) := do
  let text ← (Text.decodeWhole octets).mapError Failure.decoding
  let d ← (Yaml.read (Text.unifyLineEnds text)).mapError (documentFailure path)
  match d.bind fieldList? with
  | none => .error (.misuse (.schemaFieldless path))
  | some v => Field.ofValue "schema" v

/-- The fields of a schema file. -/
def read (source : FileSource) (path : Path) : Except Failure (List Field) :=
  match source path with
  | .error .missing => .error (.misuse (.schemaMissing path.print))
  | .error f => .error (.file path.print f)
  | .ok octets => ofOctets path.print octets

end SchemaFile

end TableFeed
