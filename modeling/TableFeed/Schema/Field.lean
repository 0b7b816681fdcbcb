import TableFeed.Failure.Basic
import TableFeed.Text.Upper

/-!
# Schemas

The columns of a table.  A document lists them as mappings with a name, a type, an optional mode
and an optional description; a record lists fields of its own.  `Field.ofValue` takes such a list
to fields, or stops at the first one, in the order of the document, that is not well formed.
-/

namespace TableFeed

/-- How many values a column holds in a row. -/
inductive Field.Mode where
  /-- One or none. -/
  | nullable
  /-- One. -/
  | required
  /-- Any number. -/
  | repeated
deriving DecidableEq, Repr

/-- A column of a table. -/
inductive Field where
  /-- A column with its name, type, mode, description and, in a record, fields. -/
  | mk (name : Value) (type : Writing) (mode : Field.Mode) (description : Value)
      (children : List Field)

namespace Field

/-- The word for a mode. -/
def Mode.word : Mode → String
  | nullable => "NULLABLE"
  | required => "REQUIRED"
  | repeated => "REPEATED"

/-- The mode of a word. -/
def Mode.ofWord? (word : Writing) : Option Mode :=
  [nullable, required, repeated].find? fun mode => word == mode.word

/-- Whether a type has fields of its own. -/
def isRecordType (type : Writing) : Bool := type == "RECORD" || type == "STRUCT"

/-- The upper-case word at a key of a mapping, or a given word if the key is missing. -/
def wordAt (entries : List (Value × Value)) (key default : String) : Except Failure Writing :=
  match Value.lookup? entries (.text key) with
  | none => .ok default
  | some v => liftFault (v.shown.map Writing.upper)

/-- The place of an item of a list at a path. -/
def itemPlace (path : Writing) (n : Nat) : Writing := path ++ "[" ++ Nat.repr n ++ "]"

/-- The place of a name at a path. -/
def namePlace (path : Writing) (name : Value) : Except Failure Writing :=
  liftFault (name.shown.map fun s => path ++ "." ++ s)

/-- The failure of a field at a place. -/
def misplaced {α : Type} (place : Writing) (f : FieldFault) : Except Failure α :=
  .error (.misuse (.field place f))

/-- The name of a field, which has to be new among the names before it. -/
def nameOf (path place : Writing) (before : List Value) (entries : List (Value × Value)) :
    Except Failure Value := do
  let name := Value.get entries "name"
  if !name.isGiven then misplaced place .nameless
  let name ← liftFault name.asKey
  if before.any (·.same name) then misplaced (← namePlace path name) .duplicate
  .ok name

/-- The type of a field at a place. -/
def typeOf (place : Except Failure Writing) (entries : List (Value × Value)) :
    Except Failure Writing := do
  let type ← wordAt entries "type" ""
  if type.isEmpty then misplaced (← place) .typeless
  .ok type

/-- The mode of a field at a place. -/
def modeOf (place : Except Failure Writing) (entries : List (Value × Value)) :
    Except Failure Mode := do
  let word ← wordAt entries "mode" "NULLABLE"
  match Mode.ofWord? word with
  | some mode => .ok mode
  | none => misplaced (← place) (.mode word)

/-- What a value that is no list holds in place of fields: nothing, or no field at its start. -/
def ofOther (path : Writing) (v : Value) : Except Failure (List Field) := do
  let parts ← liftFault v.parts
  if parts.isEmpty then .ok [] else misplaced (itemPlace path 0) .notMapping

mutual

/-- The fields that a value lists at a path. -/
def ofValue (path : Writing) : Value → Except Failure (List Field)
  | .list items => ofItems path 0 [] items
  | .tuple items => ofItems path 0 [] items
  | v => ofOther path v

/-- The fields of the items of a list from a number on.  `before` are the names before them. -/
def ofItems (path : Writing) (n : Nat) (before : List Value) :
    List Value → Except Failure (List Field)
  | [] => .ok []
  | item :: rest => do
    let (name, field) ← ofItem path n before item
    .ok (field :: (← ofItems path (n + 1) (name :: before) rest))

/-- The field of an item of a list, and its name. -/
def ofItem (path : Writing) (n : Nat) (before : List Value) : Value → Except Failure (Value × Field)
  | .mapping entries => do
    let name ← nameOf path (itemPlace path n) before entries
    let place := namePlace path name
    let type ← typeOf place entries
    let mode ← modeOf place entries
    let children ←
      if isRecordType type then
        if (Value.get entries "fields").isGiven then do childrenOf (← place) entries
        else do misplaced (← place) .childless
      else .ok []
    .ok (name, .mk name type mode (.get entries "description") children)
  | _ => misplaced (itemPlace path n) .notMapping

/-- The fields that a mapping lists under its key for them. -/
def childrenOf (path : Writing) : List (Value × Value) → Except Failure (List Field)
  | [] => .ok []
  | (k, v) :: rest => if k.same (.text "fields") then ofValue path v else childrenOf path rest

end

end Field

/-- The columns of a table: fields, or a description that the service takes as it is. -/
inductive Schema where
  /-- Fields. -/
  | fields (fields : List Field)
  /-- A description. -/
  | given (value : Value)

namespace Schema

/-- Whether a schema says anything. -/
def isGiven : Schema → Bool
  | fields fs => !fs.isEmpty
  | given v => v.isGiven

/-- The number of columns. -/
def length : Schema → Except Fault Nat
  | fields fs => .ok fs.length
  | given v => v.length

end Schema

end TableFeed
