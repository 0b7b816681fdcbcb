import TableFeed.Pool.Ticking
import TableFeed.Rehearsal.Rounds
import TableFeed.Rehearsal.Store
import TableFeed.Main
import TableFeed.Table.Response
import TableFeed.Proofs.Failure.Results
import TableFeed.Proofs.Text.Blank
import TableFeed.Proofs.Table.Picks
import TableFeed.Proofs.Table.Spec
import TableFeed.Proofs.Batch.Cuts
import TableFeed.Proofs.Batch.Greedy
import TableFeed.Proofs.Pool.Calls
import TableFeed.Proofs.Pool.Drained
import TableFeed.Proofs.Pool.Lifecycle
import TableFeed.Proofs.Outcome.Reports
import TableFeed.Proofs.Outcome.Places
import TableFeed.Proofs.Outcome.Collected
import TableFeed.Proofs.Retry.Stages
import TableFeed.Proofs.Retry.Positions
import TableFeed.Proofs.Insert.Steps
import TableFeed.Proofs.Insert.Upload
import TableFeed.Proofs.Insert.InTurn
import TableFeed.Proofs.Insert.Round
import TableFeed.Proofs.Insert.Stages
import TableFeed.Proofs.Insert.Passes
import TableFeed.Proofs.Insert.Settled
import TableFeed.Proofs.Insert.Ready
import TableFeed.Proofs.Insert.Runs
import TableFeed.Proofs.Insert.Unsent
import TableFeed.Proofs.Insert.Planned
import TableFeed.Proofs.Insert.Delivery
import TableFeed.Proofs.Insert.Courses
import TableFeed.Proofs.Insert.Interrupted
import TableFeed.Proofs.Insert.Accepted
import TableFeed.Proofs.Insert.Fatal
import TableFeed.Proofs.Insert.Verdicts
import TableFeed.Proofs.Insert.Unbatched
import TableFeed.Proofs.Insert.Spared
import TableFeed.Proofs.Insert.Ledger
import TableFeed.Proofs.Insert.Stored
import TableFeed.Proofs.Insert.Abreast
import TableFeed.Proofs.Insert.Strays
import TableFeed.Proofs.Insert.Alike
import TableFeed.Proofs.Json.Writable
import TableFeed.Proofs.RowFile.Objects
import TableFeed.Proofs.RowFile.Refusals
import TableFeed.Proofs.RowFile.Planned
import TableFeed.Proofs.RowFile.Reading
import TableFeed.Proofs.Schema.File
import TableFeed.Proofs.Remote.Record
import TableFeed.Proofs.Remote.Requests
import TableFeed.Proofs.Remote.Storage
import TableFeed.Proofs.Rehearsal.Storage
import TableFeed.Proofs.Rehearsal.Provisioned
import TableFeed.Proofs.Load.Cargo
import TableFeed.Proofs.Load.Transfer
import TableFeed.Proofs.Load.Rows
import TableFeed.Proofs.Load.Phases
import TableFeed.Proofs.Load.Recorded
import TableFeed.Proofs.Load.Endings
import TableFeed.Proofs.Pool.Waits
import TableFeed.Proofs.Retry.Control
import TableFeed.Proofs.Insert.Account
import TableFeed.Proofs.Response.Rejected
import TableFeed.Proofs.Response.Misplaced
import TableFeed.Proofs.Insert.Blamed
import TableFeed.Proofs.Settings.Usable
