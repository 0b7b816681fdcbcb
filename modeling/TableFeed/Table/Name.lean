import TableFeed.Text.Blank
import TableFeed.Text.Word

/-!
# Names of tables

A table is named by a project, a dataset within it and a table within that.  A spec writes the
three as `project:dataset.table`; a point may stand in the place of the colon.  Only the project
may itself hold points and colons, so the parts are found from the end: the table follows the last
point, and the dataset stands between that point and the separator before it.
-/

namespace TableFeed

open Text

/-- The name of a table. -/
structure TableName where
  /-- The project. -/
  project : String
  /-- The dataset within the project. -/
  dataset : String
  /-- The table within the dataset. -/
  table : String
deriving DecidableEq, Repr

namespace TableName

/-- Whether a character may stand in the last part of a spec. -/
def isTableChar (c : Char) : Bool := isWord c || c == '$' || c == '-'

/-- Whether a character may stand in the first part of a spec. -/
def isProjectChar (c : Char) : Bool := isWord c || c == '.' || c == ':' || c == '-'

/-- Whether a character separates the project from the dataset. -/
def isSeparator (c : Char) : Bool := c == ':' || c == '.'

/-- The spec that writes a name. -/
def spec (t : TableName) : String := t.project ++ ":" ++ t.dataset ++ "." ++ t.table

/-- The three parts of a spec without blanks around it. -/
def split? (cs : List Char) : Option (List Char × List Char × List Char) :=
  match cs.reverse.span isTableChar with
  | (table, '.' :: rest) =>
    match rest.span isWord with
    | (dataset, separator :: project) =>
      if !table.isEmpty && !dataset.isEmpty && isSeparator separator && !project.isEmpty &&
          project.all isProjectChar then
        some (project.reverse, dataset.reverse, table.reverse)
      else none
    | _ => none
  | _ => none

/-- Reads a spec, with or without blanks around it. -/
def read? (spec : String) : Option TableName :=
  (split? (strip spec.toList)).map fun (project, dataset, table) =>
    ⟨String.ofList project, String.ofList dataset, String.ofList table⟩

end TableName

end TableFeed
