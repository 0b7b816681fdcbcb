import TableFeed.Insert.World

/-!
# Provisioning a table

Before rows go into a table, the table has to be there, and what it holds has to agree with the
caller's choice.  A table is created only with a schema, and a table that is to be truncated is
deleted only once the schema with which it will be created again is known.
-/

namespace TableFeed

/-- What happens to rows that a table holds already. -/
inductive WriteChoice where
  /-- They stay. -/
  | append
  /-- They go. -/
  | truncate
  /-- There may not be any. -/
  | empty
deriving DecidableEq, Repr

namespace WriteChoice

/-- The word for a choice. -/
def word : WriteChoice → String
  | append => "WRITE_APPEND"
  | truncate => "WRITE_TRUNCATE"
  | empty => "WRITE_EMPTY"

/-- All choices. -/
def all : List WriteChoice := [append, truncate, empty]

/-- The choice of a word. -/
def read (word : String) : Except Failure WriteChoice :=
  (all.find? (·.word == word)).elim (.error (.unknownChoice .write (some word))) .ok

end WriteChoice

/-- Whether a table that is missing is created. -/
inductive CreateChoice where
  /-- It is. -/
  | ifNeeded
  /-- It is not. -/
  | never
deriving DecidableEq, Repr

namespace CreateChoice

/-- The word for a choice. -/
def word : CreateChoice → String
  | ifNeeded => "CREATE_IF_NEEDED"
  | never => "CREATE_NEVER"

/-- All choices. -/
def all : List CreateChoice := [ifNeeded, never]

/-- The choice of a word. -/
def read (word : String) : Except Failure CreateChoice :=
  (all.find? (·.word == word)).elim (.error (.unknownChoice .create (some word))) .ok

end CreateChoice

namespace World

variable {σ : Type}

/-- Fetches a table.  Where a missing table will be created, there is none to fetch. -/
def fetchTable (c : Client σ) (table : TableName) (create : CreateChoice) :
    Action (World σ) (Option Table) := do
  match ← (remotely (c.get table)).outcome with
  | .ok t => return some t
  | .error (.refused .notFound detail) =>
    if create = .ifNeeded then return none else throw (.refused .notFound detail)
  | .error f => throw f

/-- Whether a table has no rows. -/
def isEmpty (c : Client σ) (table : TableName) : Action (World σ) Bool := do
  return (← remotely (c.first table)).isNone

/-- Checks that a schema is known and has fields. -/
def requireSchema (table : TableName) (schema : Option Schema) : Except Failure Unit :=
  match schema with
  | none => .error (.misuse (.schemaUnknown table))
  | some schema => do
    let n ← liftFault schema.length
    if n = 0 then .error (.misuse (.schemaEmpty table)) else .ok ()

/-- The number of columns of a schema that may be missing. -/
def schemaLength : Option Schema → Except Fault Nat
  | none => .error (.lengthless Value.null.kind)
  | some schema => schema.length

/-- Creates a table.  If another writer has created it, there is none to answer with. -/
def tryCreate (c : Client σ) (table : TableName) (schema : Option Schema) :
    Action (World σ) (Option Table) := do
  let fields ← Action.answer (liftFault (schemaLength schema))
  note (.tableCreating table fields)
  match ← (remotely (c.create table schema)).outcome with
  | .ok t => return some t
  | .error (.refused kind detail) =>
    if kind.isConflict then
      note (.tableExists table)
      return none
    else throw (.refused kind detail)
  | .error f => throw f

/-- Gets a table ready for rows, as the two choices say.  There is none to answer with if another
writer has created it meanwhile. -/
def provision (c : Client σ) (table : TableName) (write : WriteChoice) (create : CreateChoice)
    (schema : Option Schema) : Action (World σ) (Option Table) := do
  match ← fetchTable c table create with
  | none =>
    Action.answer (requireSchema table schema)
    tryCreate c table schema
  | some existing =>
    if write = .append then return some existing
    if ← isEmpty c table then
      if write = .truncate then note (.emptyTableKept table)
      return some existing
    if write = .empty then throw (.notEmpty table)
    let schema := schema.or (existing.schema.filter Schema.isGiven)
    Action.answer (requireSchema table schema)
    note (.tableDeleting table)
    remotely (c.delete table)
    tryCreate c table schema

end World

end TableFeed
