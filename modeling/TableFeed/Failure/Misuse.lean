import TableFeed.Json.Reader
import TableFeed.Number.Printer
import TableFeed.Table.Name
import TableFeed.Yaml.Fault

/-!
# Misuse

What a caller can get wrong before anything is sent: settings, limits, specs, schemas and files of
rows.  Each constructor is a cause, and `Misuse.message` holds the wording.
-/

namespace TableFeed

open Number

/-- What is wrong with the text of a setting. -/
inductive SettingFault where
  /-- The text is no integer. -/
  | notInteger (text : String)
  /-- The text is no number. -/
  | notNumber (text : String)
  /-- The integer is too small. -/
  | integerBelow (least value : Int)
  /-- The number is too small. -/
  | numberBelow (least value : Float)

/-- What is wrong with a field of a schema. -/
inductive FieldFault where
  /-- The field is no mapping. -/
  | notMapping
  /-- The field has no name. -/
  | nameless
  /-- A field before it has the same name. -/
  | duplicate
  /-- The field has no type. -/
  | typeless
  /-- The field has an unknown mode. -/
  | mode (given : Writing)
  /-- The field is a record and has no fields of its own. -/
  | childless
deriving DecidableEq, Repr

/-- What is wrong with a line of a file of rows. -/
inductive LineFault where
  /-- The line is no JSON. -/
  | notJson (fault : Json.SyntaxFault)
  /-- The line is no object. -/
  | notObject
  /-- The row has no value for the field that gives its token. -/
  | tokenless (field : String)

/-- What a caller got wrong. -/
inductive Misuse where
  /-- The spec names no table. -/
  | spec (given : String)
  /-- The number of attempts is not positive. -/
  | attempts (given : Int)
  /-- The first interval between attempts is negative. -/
  | interval (given : Float)
  /-- The growth of the intervals is below one. -/
  | growth (given : Float)
  /-- The jitter is no fraction. -/
  | jitter (given : Float)
  /-- The most rows of a batch are not positive. -/
  | rowLimit (given : Int)
  /-- The most octets of a batch are not positive. -/
  | sizeLimit (given : Int)
  /-- No table is named. -/
  | tableless
  /-- The tokens do not match the rows. -/
  | tokenCount (tokens rows : Nat)
  /-- A table has to be created, and no schema is known. -/
  | schemaUnknown (table : TableName)
  /-- A table has to be created, and its schema has no fields. -/
  | schemaEmpty (table : TableName)
  /-- A setting has no usable value. -/
  | setting (name : String) (fault : SettingFault)
  /-- A field of a schema is not well formed. -/
  | field (place : Writing) (fault : FieldFault)
  /-- The schema file does not exist. -/
  | schemaMissing (path : String)
  /-- The schema file is no document. -/
  | schemaRefused (path : String) (stage : Yaml.Stage)
  /-- The schema file has no fields. -/
  | schemaFieldless (path : String)
  /-- A line of a file of rows is no row. -/
  | line (path : String) (number : Nat) (fault : LineFault)

/-- What is said about a setting. -/
def SettingFault.message (name : String) : SettingFault → String
  | notInteger s => name ++ " must be an integer, got '" ++ s ++ "'"
  | notNumber s => name ++ " must be a number, got '" ++ s ++ "'"
  | integerBelow least n => name ++ " must be at least " ++ printInt least ++ ", got " ++ printInt n
  | numberBelow least x =>
    name ++ " must be at least " ++ printFloat least ++ ", got " ++ printFloat x

/-- What is said about a field. -/
def FieldFault.message (place : Writing) : FieldFault → Writing
  | notMapping => place ++ " must be a mapping"
  | nameless => place ++ " missing 'name'"
  | duplicate => "Duplicate field name: " ++ place
  | typeless => "Field '" ++ place ++ "' missing 'type'"
  | mode given => "Field '" ++ place ++ "' has invalid mode '" ++ given ++
      "'. Valid: ['NULLABLE', 'REPEATED', 'REQUIRED']"
  | childless => "RECORD field '" ++ place ++ "' has no 'fields'"

/-- What is said about a line. -/
def LineFault.message : LineFault → String
  | notJson f => "invalid JSON: " ++ f.message
  | notObject => "expected a JSON object"
  | tokenless field => "missing insert id field '" ++ field ++ "'"

namespace Misuse

/-- What is said about a misuse. -/
def message : Misuse → Writing
  | spec s => "Invalid table spec '" ++ s ++ "', expected project:dataset.table"
  | attempts n => "max_attempts must be at least 1, got " ++ printInt n
  | interval x => "initial_interval must not be negative, got " ++ printFloat x
  | growth x => "multiplier must be at least 1, got " ++ printFloat x
  | jitter x => "randomization_factor must be within [0, 1], got " ++ printFloat x
  | rowLimit n => "max_rows_per_batch must be positive, got " ++ printInt n
  | sizeLimit n => "max_batch_bytes must be positive, got " ++ printInt n
  | tableless => "ref is required"
  | tokenCount tokens rows => "insert_ids has " ++ Nat.repr tokens ++ " element(s) but rows has " ++
      Nat.repr rows ++ "; they must match one to one"
  | schemaUnknown t => "Table schema required to create " ++ t.spec
  | schemaEmpty t => "Table schema for " ++ t.spec ++ " has no fields"
  | setting name f => f.message name
  | field place f => f.message place
  | schemaMissing path => "Schema file not found: " ++ path
  | schemaRefused path _ => "YAML parse error in " ++ path
  | schemaFieldless path => "Schema is empty in " ++ path
  | line path n f => path ++ ":" ++ Nat.repr n ++ ": " ++ f.message

/-- The class of the failure that a misuse was recognised by, if there was one. -/
def causeName : Misuse → Option String
  | schemaRefused _ stage => some stage.className
  | line _ _ (.notJson _) => some "JSONDecodeError"
  | _ => none

end Misuse

end TableFeed
