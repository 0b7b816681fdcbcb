import TableFeed.Remote.Service

/-!
# A store for rehearsals

A store of tables that is held in memory, behaves as a remote one, and keeps every request.  A
script says which requests fail and how the service answers the inserts; without a script, all rows
are accepted.
-/

namespace TableFeed.Rehearsal

/-- The kinds of requests. -/
inductive RequestKind where
  /-- A table is fetched. -/
  | get
  /-- A table is created. -/
  | create
  /-- A table is deleted. -/
  | delete
  /-- The first row of a table is fetched. -/
  | list
  /-- Rows are inserted. -/
  | insert
deriving DecidableEq, Repr

/-- What a request asks for. -/
inductive Demand where
  /-- A table. -/
  | get
  /-- That a table is deleted. -/
  | delete
  /-- The first row of a table. -/
  | list
  /-- That a table is created. -/
  | create (schema : Option Schema)
  /-- That a batch is inserted. -/
  | batch (batch : Batch)
  /-- That rows are inserted. -/
  | rows (rows : List Row) (tokens : Option (List Writing))

/-- The kind of a demand. -/
def Demand.kind : Demand → RequestKind
  | get => .get
  | delete => .delete
  | list => .list
  | create _ => .create
  | batch _ => .insert
  | rows _ _ => .insert

/-- A request that was made. -/
structure Request where
  /-- The table. -/
  table : TableName
  /-- What was asked for. -/
  demand : Demand

/-- Requests that fail: all of a kind, or the one with a number among those of its kind. -/
structure Refusal where
  /-- The kind. -/
  kind : RequestKind
  /-- The number, if only one request fails. -/
  number : Option Nat
  /-- The failure. -/
  failure : Failure

/-- How an insert is answered, by a store whose reports have entries of type `ε`. -/
inductive Reply (ε : Type) where
  /-- It fails. -/
  | fail (failure : Failure)
  /-- It gets no answer. -/
  | silence
  /-- It is answered by a report. -/
  | report (entries : List ε)

/-- A store with its script.  Its reports have entries of type `ε`. -/
structure Store (ε : Type) where
  /-- The tables. -/
  tables : List Table := []
  /-- The requests that were made, in order. -/
  requests : List Request := []
  /-- The requests that fail. -/
  refusals : List Refusal := []
  /-- The answers to the inserts, by number. -/
  replies : List (Reply ε) := []

namespace Store

variable {ε : Type}

/-- A table of the store. -/
def find? (s : Store ε) (name : TableName) : Option Table := s.tables.find? (·.name = name)

/-- How many requests of a kind were made. -/
def countOf (s : Store ε) (kind : RequestKind) : Nat :=
  s.requests.countP fun r => r.demand.kind = kind

/-- The failure of the next request of a kind, if it fails. -/
def refusal? (s : Store ε) (kind : RequestKind) : Option Failure :=
  (s.refusals.find? fun r => r.kind = kind && r.number.all (· == s.countOf kind)).map
    Refusal.failure

/-- Makes a request.  It is kept even if it fails.  The answer is its number among the requests of
its kind. -/
def request (name : TableName) (demand : Demand) : Action (Store ε) Nat := fun s =>
  let kept := { s with requests := s.requests ++ [⟨name, demand⟩] }
  match s.refusal? demand.kind with
  | some f => (.error f, kept)
  | none => (.ok (s.countOf demand.kind), kept)

/-- The failure of a request for a table that is not there. -/
def missing (name : TableName) : Failure := .refused .notFound ("Not found: Table " ++ name.spec)

/-- The failure of a request to create a table that is there. -/
def present (name : TableName) : Failure :=
  .refused .conflict ("Already Exists: Table " ++ name.spec)

/-- The table of a name, which has to be there. -/
def require (name : TableName) : Action (Store ε) Table := do
  match (← get).find? name with
  | some t => return t
  | none => throw (missing name)

/-- The store with more rows in a table, if the table is there. -/
def append (name : TableName) (rows : List Row) (s : Store ε) : Store ε :=
  { s with tables := s.tables.map fun t =>
      if t.name = name then { t with rows := t.rows ++ rows } else t }

/-- The rows of a batch whose place is not among some indices. -/
def accepted (rows : List Row) (indices : List Value) : List Row :=
  (rows.zipIdx.filter fun (_, n) => !indices.any (·.same (.int n))).map Prod.fst

/-- The index that an entry of a response names. -/
def indexOf : Value → Value
  | .mapping entries => .get entries "index"
  | _ => .null

/-- Answers an insert of rows with a reply.  Without an answer, no row is accepted. -/
def insertWith (name : TableName) (rows : List Row) :
    Reply Rejection → Action (Store Rejection) (Option (List Rejection))
  | .fail f => throw f
  | .silence => return none
  | .report entries => do
    modify (append name (accepted rows (entries.map Rejection.index)))
    return some entries

/-- Answers an insert of rows with a reply, in the form of a response.  Without an answer, all rows
are accepted. -/
def respondWith (name : TableName) (rows : List Row) : Reply Value → Action (Store Value) Value
  | .fail f => throw f
  | .silence => do
    modify (append name rows)
    return .null
  | .report entries => do
    modify (append name (accepted rows (entries.map indexOf)))
    return .list entries

/-- Fetches a table. -/
def getTable (name : TableName) : Action (Store ε) Table := do
  discard (request name .get)
  require name

/-- Deletes a table. -/
def deleteTable (name : TableName) : Action (Store ε) Unit := do
  discard (request name .delete)
  discard (require name)
  modify fun s => { s with tables := s.tables.filter (·.name ≠ name) }

/-- Creates a table. -/
def createTable (name : TableName) (schema : Option Schema) : Action (Store ε) Table := do
  discard (request name (.create schema))
  if ((← get).find? name).isSome then throw (present name)
  let table : Table := ⟨name, schema, []⟩
  modify fun s => { s with tables := s.tables ++ [table] }
  return table

/-- Fetches the first row of a table.  A row that is absent counts as none. -/
def firstRow (name : TableName) : Action (Store ε) (Option Row) := do
  discard (request name .list)
  return (← require name).rows.head?.filter fun row => !row.isNull

/-- The reply to the insert of a number.  After the last reply, no row is rejected. -/
def replyOf (s : Store ε) (n : Nat) : Reply ε := (s.replies[n]?).getD (.report [])

/-- The client of a store. -/
def client : Client (Store Rejection) where
  insert name b := do
    let n ← request name (.batch b)
    insertWith name b.rows ((← get).replyOf n)
  get := getTable
  delete := deleteTable
  create := createTable
  first := firstRow
  announces := false

/-- A table as the hosted service shows it: a schema that is not known has no fields. -/
def shown (t : Table) : Table := { t with schema := t.schema.or (some (.fields [])) }

/-- A store as the hosted service. -/
def service : Service (Store Value) where
  insert name rows tokens := do
    let n ← request name (.rows rows tokens)
    respondWith name rows ((← get).replyOf n)
  get name := return shown (← getTable name)
  delete := deleteTable
  create name schema := createTable name (some schema)
  first := firstRow

end Store

end TableFeed.Rehearsal
