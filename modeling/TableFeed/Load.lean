import TableFeed.CommandLine.Arguments
import TableFeed.RowFile
import TableFeed.Schema.File
import TableFeed.Settings

/-!
# A load

A load reads the schema and the rows, gets the table ready, inserts the rows, and drains the pool
however that ended.  Failures that this library declares, and refusals of the service, are reported
to the operator and give the load a status; any other failure leaves it.
-/

namespace TableFeed

/-- On whose account requests are made, and where they are processed. -/
structure Connection where
  /-- The project that pays for the requests. -/
  project : Option String
  /-- Where the requests are processed. -/
  location : String
deriving DecidableEq, Repr

/-- The connection that settings ask for. -/
def Settings.connection (s : Settings) : Connection := ⟨s.project, s.location⟩

/-- Why a connection has no client, for instance because nobody is signed in.  The failure comes
from outside of this library, so that it is none that this library declares. -/
structure Hindrance where
  /-- The failure. -/
  failure : Failure
  undeclared : failure.isDeclared = false

/-- What surrounds a load: the environment, the files, the client of each connection, and all that
is left to chance. -/
structure Surroundings (σ : Type) where
  /-- The variables of the environment. -/
  environment : Environment
  /-- The files. -/
  files : FileSource
  /-- The client of a connection. -/
  client : Connection → Client σ
  /-- When calls run, and which waits for them are interrupted. -/
  schedule : Schedule
  /-- The waits between rounds. -/
  pace : Pace
  /-- Why a connection has no client, if it has none. -/
  hindrance? : Connection → Option Hindrance := fun _ => none

/-- What is to be loaded. -/
structure Cargo where
  /-- The table. -/
  table : TableName
  /-- The columns, if a schema file was named. -/
  schema : Option Schema
  /-- The rows. -/
  rows : RowList

/-- The state of a load, and the connections that it has made. -/
structure Load (σ : Type) where
  /-- The state of the inserts. -/
  state : Paced (World σ)
  /-- The connections. -/
  connections : List Connection := []

instance {σ : Type} : Logged (Load σ) where
  note e l := { l with state := Logged.note e l.state }

namespace Load

open CommandLine

variable {σ α : Type}

/-- An action on the state of the inserts. -/
def within (x : Action (Paced (World σ)) α) : Action (Load σ) α :=
  x.on Load.state fun s l => { l with state := s }

/-- Reads the spec of a table. -/
def readTable (spec : String) : Except Failure TableName :=
  (TableName.read? spec).elim (.error (.misuse (.spec spec))) .ok

/-- Reads what is to be loaded. -/
def readCargo (files : FileSource) (a : Arguments) : Except Failure Cargo := do
  let table ← readTable a.table
  let schema ← match a.schema with
    | none => .ok none
    | some path => (SchemaFile.read files (Path.read path)).map (some ∘ Schema.fields)
  let rows ← match a.rows with
    | none => .error .pathless
    | some path => RowFile.read files (Path.read path) a.tokens
  .ok ⟨table, schema, rows⟩

/-- Connects to the service.  The connection is kept. -/
def connect (s : Surroundings σ) (connection : Connection) : Action (Load σ) (Client σ) :=
  match s.hindrance? connection with
  | some h => throw h.failure
  | none => do
    modify fun l => { l with connections := l.connections ++ [connection] }
    return s.client connection

/-- A choice, which has to be made. -/
def chosen (choice : Choice) (made : Option α) : Except Failure α :=
  made.elim (.error (.unknownChoice choice none)) .ok

/-- What a load does until its rows are inserted. -/
def transfer (s : Surroundings σ) (settings : Settings) (a : Arguments) : Action (Load σ) Unit := do
  let cargo ← Action.answer (readCargo s.files a)
  let client ← connect s settings.connection
  within (Retry.inner World.start)
  let policy ← Action.answer settings.policy
  let options ← Action.answer ((InsertOptions.make settings.limits policy).mapError .misuse)
  let write ← Action.answer (chosen .write a.write)
  let create ← Action.answer (chosen .create a.create)
  discard (within (Retry.inner (World.provision client cargo.table write create cargo.schema)))
  let summary ← within (World.insertAll client s.schedule s.pace options (some cargo.table)
    cargo.rows.rows cargo.rows.tokens)
  note (.loadCompleted cargo.table summary.rows summary.attempts summary.retried)

/-- Whether a failure is reported and gives a load a status. -/
def isReported (f : Failure) : Bool := f.isDeclared || f.isRefusal

/-- The status of a load that ended well, or was reported as failed. -/
def status (table : String) : Except Failure Unit → Action (Load σ) Nat
  | .ok () => return 0
  | .error f => do
    if !isReported f then throw f
    note (.loadFailed table f.message f.className)
    return 1

/-- Drains the pool.  A call that runs meanwhile belongs to the connection of the load. -/
def drain (s : Surroundings σ) (settings : Settings) : Action (Load σ) Unit :=
  discard (within (Retry.inner (World.drain (s.client settings.connection) s.schedule)))

/-- Loads rows under given settings.  The answer is the status. -/
def run (s : Surroundings σ) (settings : Settings) (a : Arguments) : Action (Load σ) Nat := do
  let ended ← (transfer s settings a).outcome
  let ended ← (status a.table ended).outcome
  drain s settings
  Action.answer ended

end Load

end TableFeed
