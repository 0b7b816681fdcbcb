import TableFeed.Failure.Misuse
import TableFeed.Table.Report

/-!
# Failures

Everything that can end an operation.  A failure is a cause with its data; `Failure.className` is
its class in diagnostics and `Failure.message` its wording.
-/

namespace TableFeed

open Number Text

/-- The refusals of the service. -/
inductive RefusalKind where
  /-- The request is wrong. -/
  | badRequest
  /-- The caller may not do this. -/
  | forbidden
  /-- The table does not exist. -/
  | notFound
  /-- The request contradicts the state of the service. -/
  | conflict
  /-- The table exists already, which is a conflict too. -/
  | alreadyExists
  /-- The caller sends too much. -/
  | tooManyRequests
  /-- The service is broken. -/
  | internal
  /-- The service is not there. -/
  | unavailable
  /-- The service takes too long. -/
  | timeout
deriving DecidableEq, Repr

namespace RefusalKind

/-- The status code of a refusal. -/
def code : RefusalKind → Nat
  | badRequest => 400
  | forbidden => 403
  | notFound => 404
  | conflict => 409
  | alreadyExists => 409
  | tooManyRequests => 429
  | internal => 500
  | unavailable => 503
  | timeout => 504

/-- The class of a refusal in diagnostics. -/
def className : RefusalKind → String
  | badRequest => "BadRequest"
  | forbidden => "Forbidden"
  | notFound => "NotFound"
  | conflict => "Conflict"
  | alreadyExists => "AlreadyExists"
  | tooManyRequests => "TooManyRequests"
  | internal => "InternalServerError"
  | unavailable => "ServiceUnavailable"
  | timeout => "GatewayTimeout"

/-- Whether a refusal says that the table exists already. -/
def isConflict : RefusalKind → Bool
  | conflict => true
  | alreadyExists => true
  | _ => false

/-- The refusal of a class. -/
def ofClassName? (name : String) : Option RefusalKind :=
  [badRequest, forbidden, notFound, conflict, alreadyExists, tooManyRequests, internal,
    unavailable, timeout].find? (·.className == name)

end RefusalKind

/-- Failures of the machinery around the service. -/
inductive MishapKind where
  /-- A value is unusable. -/
  | value
  /-- The machinery is in no state to go on. -/
  | runtime
  /-- The machinery takes too long. -/
  | timeout
deriving DecidableEq, Repr

/-- The class of a mishap in diagnostics. -/
def MishapKind.className : MishapKind → String
  | value => "ValueError"
  | runtime => "RuntimeError"
  | timeout => "TimeoutError"

/-- The mishap of a class. -/
def MishapKind.ofClassName? (name : String) : Option MishapKind :=
  [value, runtime, timeout].find? (·.className == name)

/-- Why a file has no content to read. -/
inductive FileFault where
  /-- There is no such file. -/
  | missing
  /-- The path names a directory. -/
  | directory
  /-- The path goes through a file. -/
  | throughFile
  /-- A step of the path is longer than a name may be. -/
  | nameTooLong
  /-- The path holds a character that no name may hold. -/
  | unnameable
deriving DecidableEq, Repr

namespace FileFault

/-- The class of a fault in diagnostics. -/
def className : FileFault → String
  | missing => "FileNotFoundError"
  | directory => "IsADirectoryError"
  | throughFile => "NotADirectoryError"
  | nameTooLong => "OSError"
  | unnameable => "ValueError"

/-- What is said about a fault. -/
def message (path : String) : FileFault → String
  | missing => "[Errno 2] No such file or directory: " ++ quoted path
  | directory => "[Errno 21] Is a directory: " ++ quoted path
  | throughFile => "[Errno 20] Not a directory: " ++ quoted path
  | nameTooLong => "[Errno 36] File name too long: " ++ quoted path
  | unnameable => "embedded null byte"

end FileFault

/-- Why octets are no text. -/
structure DecodingFault where
  /-- The first octet that belongs to no character. -/
  octet : UInt8
  /-- Where the run of such octets starts. -/
  start : Nat
  /-- How many octets the run has. -/
  count : Nat
  /-- What is wrong with it. -/
  reason : String
deriving DecidableEq, Repr

/-- What is said about octets that are no text. -/
def DecodingFault.message (f : DecodingFault) : String :=
  let place :=
    if f.count = 1 then "byte 0x" ++ String.ofList (hex 2 f.octet.toNat) ++ " in position " ++
      Nat.repr f.start
    else "bytes in position " ++ Nat.repr f.start ++ "-" ++ Nat.repr (f.start + f.count - 1)
  "'utf-8' codec can't decode " ++ place ++ ": " ++ f.reason

/-- Arithmetic that leaves the range of floats. -/
inductive Overflow where
  /-- A power is too large. -/
  | power
  /-- An integer is too large to be a float. -/
  | integer
  /-- A quotient of integers is too large to be a float. -/
  | quotient
deriving DecidableEq, Repr

/-- What is said about an overflow. -/
def Overflow.message : Overflow → String
  | power => "(34, 'Numerical result out of range')"
  | integer => "int too large to convert to float"
  | quotient => "integer division result too large for a float"

/-- What is wrong with a report. -/
inductive ReportFault where
  /-- An entry names no row.  The entries up to it are kept. -/
  | unindexed (batchRow : Int) (entries : List Rejection)
  /-- An entry names a row outside its batch. -/
  | outside (index : Value) (batchRow : Int) (batchSize : Nat) (detail : Writing)

/-- What is said about a report. -/
def ReportFault.message : ReportFault → Writing
  | unindexed row entries => "Insert failed: service reported an error without a row index for " ++
      "batch at row " ++ printInt row ++ ": [" ++
      String.intercalate ", " (entries.map Rejection.literal) ++ "]"
  | outside index row size detail => "Insert failed: error index " ++ index.display ++
      " outside batch at row " ++ printInt row ++ " of " ++ Nat.repr size ++ " row(s): " ++ detail

/-- What was going on when an operation was interrupted. -/
inductive Interruption where
  /-- Rows were being inserted into a table. -/
  | inserting (table : String)
  /-- The next attempt was being waited for. -/
  | waiting
deriving DecidableEq, Repr

/-- A list of positions as text. -/
def printPositions (positions : List Int) : String :=
  "[" ++ String.intercalate ", " (positions.map printInt) ++ "]"

/-- What is said about an interruption. -/
def Interruption.message (outstanding : List Int) : Interruption → String
  | inserting table => "Interrupted while inserting into " ++ table ++ "; " ++
      Nat.repr outstanding.length ++ " row(s) outstanding: " ++ printPositions outstanding
  | waiting => "Interrupted while waiting before retrying insert of " ++
      Nat.repr outstanding.length ++ " row(s): " ++ printPositions outstanding

/-- What can be chosen about a table before rows go into it. -/
inductive Choice where
  /-- What happens to rows that are there already. -/
  | write
  /-- Whether a table that is missing is created. -/
  | create
deriving DecidableEq, Repr

/-- The class of the values of a choice. -/
def Choice.className : Choice → String
  | write => "WriteDisposition"
  | create => "CreateDisposition"

/-- Why an operation ended. -/
inductive Failure where
  /-- The caller got something wrong, and nothing was sent. -/
  | misuse (cause : Misuse)
  /-- An insert did not complete. -/
  | transport (table : TableName) (batchRow : Int) (cause : Failure)
  /-- An insert completed with a report that is of no use. -/
  | report (cause : ReportFault)
  /-- A table that has to be empty is not. -/
  | notEmpty (table : TableName)
  /-- The operation was interrupted; the outstanding rows may or may not have been written. -/
  | interrupted (during : Interruption) (outstanding : List Int)
  /-- Rows were still rejected after the last attempt. -/
  | rejected (rows : List RejectedRow) (attempts : Int)
  /-- The service refused a request. -/
  | refused (kind : RefusalKind) (detail : Writing)
  /-- The machinery around the service failed. -/
  | mishap (kind : MishapKind) (detail : Writing)
  /-- The user interrupted the program. -/
  | interrupt (detail : Writing)
  /-- A value did not have what a step needed. -/
  | fault (cause : Fault)
  /-- A scalar of a schema file has no value of its kind. -/
  | scalar (cause : Yaml.ScalarFault)
  /-- A file could not be read. -/
  | file (path : String) (cause : FileFault)
  /-- There is no path of the file that is to be read. -/
  | pathless
  /-- A file holds no text. -/
  | decoding (cause : DecodingFault)
  /-- Arithmetic left the range of floats. -/
  | overflow (cause : Overflow)
  /-- The pool takes no more calls. -/
  | drained
  /-- The number of workers is not positive. -/
  | workers (given : Int)
  /-- The text names no choice, or there is no text. -/
  | unknownChoice (choice : Choice) (given : Option String)

namespace Failure

/-- The class of a failure in diagnostics. -/
def className : Failure → String
  | misuse _ => "ConfigurationError"
  | transport _ _ _ => "TransportError"
  | report _ => "InsertResponseError"
  | notEmpty _ => "TableStateError"
  | interrupted _ _ => "InsertInterruptedError"
  | rejected _ _ => "PartialInsertError"
  | refused kind _ => kind.className
  | mishap kind _ => kind.className
  | interrupt _ => "KeyboardInterrupt"
  | fault f => f.className
  | scalar f => f.className
  | file _ f => f.className
  | pathless => "TypeError"
  | decoding _ => "UnicodeDecodeError"
  | overflow _ => "OverflowError"
  | drained => "RuntimeError"
  | workers _ => "ValueError"
  | unknownChoice _ _ => "ValueError"

/-- What is said about a failure. -/
def message : Failure → Writing
  | misuse m => m.message
  | transport table row cause => "Insert into " ++ table.spec ++ " failed for batch at row " ++
      printInt row ++ ": " ++ cause.message
  | report f => f.message
  | notEmpty table => "WriteDisposition is WRITE_EMPTY, but table " ++ table.spec ++
      " is not empty"
  | interrupted during outstanding => during.message outstanding
  | rejected rows attempts => "Insert failed for " ++ Nat.repr rows.length ++ " row(s) after " ++
      printInt attempts ++ " attempt(s):\n  " ++
      Writing.intercalate "\n  " (rows.map RejectedRow.describe)
  | refused kind detail => Nat.repr kind.code ++ " " ++ detail
  | mishap _ detail => detail
  | interrupt detail => detail
  | fault f => f.message
  | scalar f => f.message
  | file path f => f.message path
  | pathless => "expected str, bytes or os.PathLike object, not list"
  | decoding f => f.message
  | overflow f => f.message
  | drained => "InserterRuntime has been drained"
  | workers n => "workers must be positive, got " ++ printInt n
  | unknownChoice choice given => (given.map quoted).getD "[]" ++ " is not a valid " ++
      choice.className

/-- Whether a failure is one that this library declares: all others come from outside. -/
def isDeclared : Failure → Bool
  | misuse _ => true
  | transport _ _ _ => true
  | report _ => true
  | notEmpty _ => true
  | interrupted _ _ => true
  | rejected _ _ => true
  | _ => false

/-- The class of the failure from which a declared failure arose, if there was one. -/
def causeName : Failure → Option String
  | misuse m => m.causeName
  | transport _ _ cause => some cause.className
  | interrupted _ _ => some "KeyboardInterrupt"
  | _ => none

/-- Whether a failure is a refusal of the service. -/
def isRefusal : Failure → Bool
  | refused _ _ => true
  | _ => false

/-- The failure that a class and a text stand for. -/
def ofClassName? (name : String) (detail : Writing) : Option Failure :=
  if name = "KeyboardInterrupt" then some (.interrupt detail)
  else match RefusalKind.ofClassName? name with
    | some kind => some (.refused kind detail)
    | none => (MishapKind.ofClassName? name).map fun kind => .mishap kind detail

end Failure

/-- Gives a fault of a value the rank of a failure. -/
def liftFault {α : Type} (r : Except Fault α) : Except Failure α := r.mapError Failure.fault

end TableFeed
