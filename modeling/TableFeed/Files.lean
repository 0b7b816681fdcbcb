import TableFeed.Failure.Basic

/-!
# Files

The files that a load can read, by their paths from the directory in which it runs.  A path is
written with single slashes and without steps that stay in place.
-/

namespace TableFeed

/-- A path: whether it starts at the root, and its steps. -/
structure Path where
  /-- The slashes in front of the first step, if the path starts at the root. -/
  root : String
  /-- The steps. -/
  steps : List String
deriving DecidableEq, Repr

namespace Path

/-- The root of a path.  Exactly two slashes are a root of their own. -/
def rootOf (cs : List Char) : String :=
  match cs.takeWhile (· = '/') with
  | [] => ""
  | [_, _] => "//"
  | _ => "/"

/-- Reads a path. -/
def read (s : String) : Path where
  root := rootOf s.toList
  steps := ((s.splitOn "/").filter fun step => step ≠ "" ∧ step ≠ ".")

/-- The text of a path. -/
def print (p : Path) : String :=
  if p.root.isEmpty && p.steps.isEmpty then "." else p.root ++ String.intercalate "/" p.steps

end Path

/-- What can be read at each path. -/
abbrev FileSource := Path → Except FileFault (List UInt8)

/-- Files with their octets, by the steps of their paths. -/
structure Files where
  /-- The files. -/
  entries : List (List String × List UInt8)

namespace Files

/-- What stands at the end of some steps. -/
inductive Place where
  /-- A directory. -/
  | directory
  /-- A file. -/
  | file (octets : List UInt8)
  /-- Nothing. -/
  | nothing

/-- What stands at the end of steps that are taken from the directory of a load. -/
def at? (files : Files) (steps : List String) : Place :=
  match files.entries.find? (·.1 == steps) with
  | some (_, octets) => .file octets
  | none =>
    if steps.isEmpty || files.entries.any (fun e => steps.isPrefixOf e.1) then .directory
    else .nothing

/-- The most octets of a name. -/
def longestName : Nat := 255

/-- The most octets of a path. -/
def longestPath : Nat := 4095

/-- Takes the steps of a path, from a directory given by its own steps, the last one first. -/
def walk (files : Files) (here : List String) : List String → Except FileFault (List UInt8)
  | [] => .error .directory
  | ".." :: rest =>
    match here with
    | [] => .error (if rest.all (· == "..") then .directory else .missing)
    | _ :: above => walk files above rest
  | step :: rest =>
    if longestName < step.utf8ByteSize then .error .nameTooLong
    else match files.at? (step :: here).reverse with
    | .nothing => .error .missing
    | .directory => walk files (step :: here) rest
    | .file octets => if rest.isEmpty then .ok octets else .error .throughFile

/-- The octets of the file at a path. -/
def octets (files : Files) : FileSource := fun p =>
  if p.print.contains '\x00' then .error .unnameable
  else if longestPath < p.print.utf8ByteSize then .error .nameTooLong
  else if p.root.isEmpty then walk files [] p.steps
  else .error (if p.steps.isEmpty then .directory else .missing)

end Files

end TableFeed
