import TableFeed.Program
import TableFeed.Proofs.Load.Transfer
import TableFeed.Proofs.Pool.Drained
import TableFeed.Proofs.Rehearsal.Storage
import TableFeed.Proofs.Settings.Read
import TableFeed.Rehearsal.Script

/-!
# The rows of a load

What a run of the program does to a store of tables.  It changes no table but the one that it loads
into.  If it ends with the status 0, that table holds the rows of the file and, where they stay, the
rows that it held before; if it gives up rows, then these are missing.

The main result is `Program.run_loads`.  It leaves open when calls run and where waits are
interrupted.  A rehearsal is a case of it.
-/

namespace TableFeed

open Position World CommandLine

variable {σ : Type} {c : Client σ} {v : Storage σ} {files : FileSource} {a : Arguments}
  {before : Tables} {r : Except Failure Unit} {w : World σ}

/-- A load of given rows into a table, as its arguments and files say. -/
structure Load.Means (files : FileSource) (a : Arguments) (table : TableName) (write : WriteChoice)
    (rows : List Row) : Prop where
  table_eq : TableName.read? a.table = some table
  write_eq : a.write = some write
  holds : ∃ path octets, a.rows = some path ∧ files (Path.read path) = .ok octets ∧
    RowFile.Holds octets rows

/-- What a load that ended in some way makes of the tables of a store. -/
structure Load.Settled (files : FileSource) (a : Arguments) (before : Tables)
    (r : Except Failure Unit) (after : Tables) : Prop where
  others : ∀ name, TableName.read? a.table ≠ some name → after name = before name
  rows : ∀ failures, Concluded r failures → ∃ table write rows held,
    Means files a table write rows ∧ after table = some held ∧
      held.Perm (write.kept (before table) ++ without rows (failures.map RejectedRow.position))

namespace Load

/-- What a transfer has come to is settled once the pool is drained: calls that are still open store
rows only if the transfer did not come to its end. -/
lemma Transferred.drain_run (h : Transferred v files a before r w) (hserves : c.Serves v)
    (s : Schedule) : ∃ done w', (World.drain c s).run w = (.ok done, w') ∧
      Settled files a before r (v.tables w'.remote) := by
  cases h with
  | @unsent f w hsilent hempty hothers =>
      have hfinished : ∀ n, w.pool.openJob? n = none := fun n => by simp [Pool.openJob?, hempty]
      obtain ⟨done, w', hdrain, hremote, -⟩ := drain_of_finished c s hfinished
      refine ⟨done, w', hdrain, fun name hname => ?_, fun failures hr => ?_⟩
      · rw [hremote, hothers name hname]
      · cases hr with
        | rejected failures attempts => exact absurd rfl (hsilent failures attempts)
  | @sent table write path octets rows r w htable hwrite hpath hoctets hholds hstored =>
      have hmeans : Means files a table write rows :=
        ⟨htable, hwrite, path, octets, hpath, hoctets, hholds⟩
      have hothers : ∀ {w' : World σ}, Ledger v table before (write.kept (before table)) w' →
          ∀ name, TableName.read? a.table ≠ some name → v.tables w'.remote name = before name := by
        intro w' hledger name hname
        obtain ⟨held, htables, -⟩ := hledger.tables
        have hne : name ≠ table := by
          rintro rfl
          exact hname htable
        simp [htables, hne]
      by_cases hr : ∃ failures, Concluded r failures
      · -- no call is open, so the drain changes nothing in the store
        obtain ⟨failures, hr⟩ := hr
        obtain ⟨done, w', hdrain, hremote, -⟩ := drain_of_finished c s (hstored.finished failures hr)
        refine ⟨done, w', hdrain, ?_, fun failures hr => ?_⟩
        · rw [hremote]
          exact hothers hstored.ledger
        · obtain ⟨held, hheld, hperm⟩ := hstored.ledger.held_eq
          rw [← hremote] at hheld
          exact ⟨table, write, rows, held, hmeans, hheld,
            hperm.trans ((hstored.stored failures hr).append_left _)⟩
      · -- open calls may run in the drain, and keep the ledger when they do
        obtain ⟨done, w', hdrain, hledger⟩ := World.drain_run s
          (fun x y hremote hcalls (hx : Ledger v table before (write.kept (before table)) x) =>
            hx.aside hremote hcalls)
          (fun n x hx => hx.runCall hserves n) hstored.ledger
        exact ⟨done, w', hdrain, hothers hledger, fun failures hc => absurd ⟨failures, hc⟩ hr⟩

/-- The status of a load by how its transfer has ended. -/
def statusOf (r : Except Failure Unit) : Except Failure Nat :=
  match r with
  | .ok () => .ok 0
  | .error f => if isReported f then .ok 1 else .error f

/-- What the operator is told when a transfer has ended. -/
def report (table : String) : Except Failure Unit → List Event
  | .ok () => []
  | .error f => if isReported f then [.loadFailed table f.message f.className] else []

/-- The load after its operator was told of several events. -/
def told (l : Load σ) (events : List Event) : Load σ :=
  { l with state := { l.state with inner := l.state.inner.tell events } }

/-- Giving a load its status changes nothing but what the operator is told. -/
lemma status_run (table : String) (r : Except Failure Unit) (l : Load σ) :
    (status table r).run l = (statusOf r, l.told (report table r)) := by
  have hnothing : l.told [] = l := by simp [told, World.tell]
  cases r with
  | ok u =>
      rw [report, hnothing]
      rfl
  | error f =>
      cases hreported : isReported f with
      | true =>
          simp only [status, statusOf, report, hreported]
          rfl
      | false =>
          simp only [status, statusOf, report, hreported, Bool.false_eq_true, if_false, hnothing]
          rfl

/-- A load is a transfer, its status and a drain. -/
lemma run_eq {s : Surroundings σ} {settings : Settings} {l l₁ l₂ : Load σ}
    (htransfer : (transfer s settings a).run l = (r, l₁))
    (hdrain : (drain s settings).run (l₁.told (report a.table r)) = (.ok (), l₂)) :
    (run s settings a).run l = (statusOf r, l₂) := by
  have hended : (transfer s settings a).outcome.run l = (.ok r, l₁) := by
    rw [Action.run_outcome, htransfer]
  have hstatus : (status a.table r).outcome.run l₁ =
      (.ok (statusOf r), l₁.told (report a.table r)) := by
    rw [Action.run_outcome, status_run]
  unfold run
  rw [Action.run_bind_of_ok hended, Action.run_bind_of_ok hstatus, Action.run_bind_of_ok hdrain,
    Action.run_answer]

/-- A load whose client serves a store settles the tables. -/
lemma run_settled (s : Surroundings σ) (settings : Settings) (a : Arguments)
    (hserves : (s.client settings.connection).Serves v)
    (hdefined : ∀ policy, settings.policy = .ok policy → policy.Defined) {l : Load σ}
    (hl : Unsent v before l.state.inner) :
    ∃ l', (run s settings a).run l = (statusOf ((transfer s settings a).run l).1, l') ∧
      Settled s.files a before ((transfer s settings a).run l).1 (v.tables l'.state.inner.remote) := by
  have htransferred := transfer_run s settings a hserves hdefined hl
  generalize htransfer : (transfer s settings a).run l = x at htransferred
  obtain ⟨r, l₁⟩ := x
  have htold : Transferred v s.files a before r (l₁.told (report a.table r)).state.inner :=
    htransferred.aside rfl rfl
  obtain ⟨done, w, hdrain, hsettled⟩ := htold.drain_run hserves s.schedule
  have hdrained : (drain s settings).run (l₁.told (report a.table r)) =
      (.ok (), { l₁ with state := { l₁.state with inner := w } }) := by
    rw [drain, Action.run_discard]
    simp only [within, Retry.inner, Action.run_on, hdrain]
    rfl
  exact ⟨_, run_eq htransfer hdrained, hsettled⟩

end Load

/-! ### A load for rehearsals -/

lemma Settings.attempts_of_policy {settings : Settings} {policy : Policy}
    (h : settings.policy = .ok policy) : (policy.attempts : Int) = settings.attempts := by
  obtain ⟨interval, -, h⟩ := exists_of_bind_eq_ok h
  unfold Policy.make at h
  split at h
  · simp [Except.mapError] at h
  · next hattempts =>
      split at h
      · simp [Except.mapError] at h
      · split at h
        · simp [Except.mapError] at h
        · split at h
          · rw [← Except.ok.inj h]
            exact Int.toNat_of_nonneg (by omega)
          · simp [Except.mapError] at h

/-- No wait follows the only attempt. -/
lemma Policy.defined_of_single {policy : Policy} (h : policy.attempts = 1) : policy.Defined := by
  intro k hpos hlt
  omega

namespace Rehearsal

/-- A load of two equal rows in one attempt. -/
def single : Surroundings (Store Rejection) where
  environment name := if name = "INSERT_MAX_ATTEMPTS" then some "1" else none
  files _ := .ok "\x7b\x7d\n\n\x7b\x7d\n".toUTF8.toList
  client _ := Store.client
  schedule := Script.schedule {}
  pace := Script.pace {}

lemma single_defined (settings : Settings) (policy : Policy)
    (hsettings : Settings.read single.environment = .ok settings)
    (hpolicy : settings.policy = .ok policy) : policy.Defined := by
  have hread : Settings.integer single.environment "INSERT_MAX_ATTEMPTS" 5 1 = .ok 1 := rfl
  have hone : settings.attempts = 1 := by
    rw [(Settings.Taken.of_read hsettings).attempts] at hread
    exact Except.ok.inj hread
  have hattempts := Settings.attempts_of_policy hpolicy
  exact Policy.defined_of_single (by omega)

/-- A store of one table with a row, whose replies are given. -/
def replying (replies : List (Reply Rejection)) : Store Rejection where
  tables := [⟨⟨"p", "d", "t"⟩, none, [.mapping [(.text "a", .null)]]⟩]
  replies := replies

lemma sound_replying {replies : List (Reply Rejection)} (h : ∀ r ∈ replies, Store.Tame r) :
    Store.storage.sound (replying replies) := by
  refine ⟨rfl, h, fun t ht row hrow => ?_⟩
  obtain rfl := List.mem_singleton.1 ht
  exact ⟨_, List.mem_singleton.1 hrow⟩

end Rehearsal

/-! ### A run of the program -/

/-- A pool is made open and without calls. -/
lemma Pool.of_make {workers : Int} {drainTimeout : Float} {pool : Pool Job Ending}
    (h : Pool.make workers drainTimeout = .ok pool) : pool.closed = false ∧ pool.calls = [] := by
  unfold make at h
  split at h
  · simp at h
  · rw [← Except.ok.inj h]
    exact ⟨rfl, rfl⟩

namespace Program

open Rehearsal

/-- How the transfer of a run ends, if the run gets that far. -/
def transferred? (s : Surroundings σ) (words : List String) (remote : σ) :
    Option (Except Failure Unit) :=
  match CommandLine.read words, Settings.read s.environment with
  | .ok (.load a), .ok settings =>
    match Pool.make settings.workers settings.drainTimeout with
    | .ok pool =>
      let world : World σ := { remote := remote, pool := pool }
      some ((Load.transfer s settings a).run { state := { inner := world } }).1
    | .error _ => none
  | _, _ => none

/-- Whether a run ended with a status. -/
def Ending.hasStatus (code : Nat) : Ending → Bool
  | status n => n == code
  | _ => false

lemma Ending.eq_status {code : Nat} {e : Ending} (h : e.hasStatus code = true) :
    e = .status code := by
  cases e with
  | status n => rw [eq_of_beq h]
  | _ => simp [hasStatus] at h

/-- The positions of the rows that a transfer gives up, if it does. -/
def givenUp? : Except Failure Unit → Option (List Int)
  | .error (.rejected failures _) => some (failures.map RejectedRow.position)
  | _ => none

lemma rejected_of_givenUp? {r : Except Failure Unit} {positions : List Int}
    (h : givenUp? r = some positions) : ∃ failures attempts,
      r = .error (.rejected failures attempts) ∧ failures.map RejectedRow.position = positions := by
  unfold givenUp? at h
  split at h
  · next failures attempts => exact ⟨failures, attempts, rfl, Option.some.inj h⟩
  · simp at h

/-- The tables after a run of the program, and how the run ends by how its transfer does. -/
lemma run_settled (s : Surroundings σ) (v : Storage σ) (words : List String) (remote : σ)
    (hserves : ∀ connection, (s.client connection).Serves v) (hsound : v.sound remote)
    (hdefined : ∀ settings policy, Settings.read s.environment = .ok settings →
      settings.policy = .ok policy → policy.Defined) :
    (transferred? s words remote = none ∧ (∀ code, (run s words remote).ending ≠ .status code) ∧
      (run s words remote).remote = remote) ∨
    ∃ a r, CommandLine.read words = .ok (.load a) ∧ transferred? s words remote = some r ∧
      (run s words remote).ending = (match Load.statusOf r with
        | .ok code => .status code
        | .error f => .failed f) ∧
      Load.Settled s.files a (v.tables remote) r (v.tables (run s words remote).remote) := by
  unfold run transferred?
  rcases hwords : CommandLine.read words with f | _ | a
  · exact .inl ⟨rfl, fun code => by simp, rfl⟩
  · exact .inl ⟨rfl, fun code => by simp, rfl⟩
  dsimp only
  unfold load
  rcases hsettings : Settings.read s.environment with f | settings
  · exact .inl ⟨rfl, fun code => by simp, rfl⟩
  rcases hpool : (Pool.make settings.workers settings.drainTimeout :
      Except Failure (Pool Job TableFeed.Ending)) with f | pool
  · simp only [hpool]
    exact .inl ⟨trivial, fun code => by simp, trivial⟩
  · let l : Load σ := { state := { inner := { remote := remote, pool := pool } } }
    have hunsent : Load.Unsent v (v.tables remote) l.state.inner := by
      obtain ⟨hopen, hempty⟩ := Pool.of_make hpool
      exact ⟨hsound, rfl, hopen, hempty⟩
    obtain ⟨l', hrun, hsettled⟩ := Load.run_settled s settings a (hserves _)
      (fun policy => hdefined settings policy hsettings) hunsent
    simp only [hpool]
    refine .inr ⟨a, _, rfl, rfl, ?_, ?_⟩
    · rw [hrun]
      rfl
    · rw [hrun]
      exact hsettled

/-- A run of the program changes no table but the one that it loads into.  If its status is 0, that
table holds the rows that it keeps and those of the file.  If it gives up rows, its status is 1, and
the table holds the rows that it keeps and those of the file without the rows that are given up. -/
theorem run_loads (s : Surroundings σ) (v : Storage σ) (words : List String) (remote : σ)
    (hserves : ∀ connection, (s.client connection).Serves v) (hsound : v.sound remote)
    (hdefined : ∀ settings policy, Settings.read s.environment = .ok settings →
      settings.policy = .ok policy → policy.Defined) :
    let p := run s words remote
    (p.ending = .status 0 → ∃ a table write rows held, CommandLine.read words = .ok (.load a) ∧
      Load.Means s.files a table write rows ∧ v.tables p.remote table = some held ∧
      held.Perm (write.kept (v.tables remote table) ++ rows)) ∧
    (∀ failures attempts, transferred? s words remote = some (.error (.rejected failures attempts)) →
      p.ending = .status 1 ∧ ∃ a table write rows held, CommandLine.read words = .ok (.load a) ∧
        Load.Means s.files a table write rows ∧ v.tables p.remote table = some held ∧
        held.Perm (write.kept (v.tables remote table) ++
          without rows (failures.map RejectedRow.position))) ∧
    ∀ name, (∀ a, CommandLine.read words = .ok (.load a) → TableName.read? a.table ≠ some name) →
      v.tables p.remote name = v.tables remote name := by
  intro p
  obtain ⟨htransferred, hending, hremote⟩ | ⟨a, r, hwords, htransferred, hending, hsettled⟩ :=
    run_settled s v words remote hserves hsound hdefined
  · refine ⟨fun h => absurd h (hending 0), fun failures attempts h => ?_, fun name _ => ?_⟩
    · simp [htransferred] at h
    · rw [hremote]
  · refine ⟨fun h => ?_, fun failures attempts h => ?_, fun name hname => ?_⟩
    · -- every failure that is reported has the status 1
      have hr : Concluded r [] := by
        rw [hending] at h
        rcases r with f | u
        · rw [Load.statusOf] at h
          cases hreported : Load.isReported f <;> simp [hreported] at h
        · exact .accepted u
      obtain ⟨table, write, rows, held, hmeans, hheld, hperm⟩ := hsettled.rows [] hr
      rw [List.map_nil, without_nil] at hperm
      exact ⟨a, table, write, rows, held, hwords, hmeans, hheld, hperm⟩
    · obtain rfl : r = .error (.rejected failures attempts) := by
        rw [htransferred] at h
        exact Option.some.inj h
      obtain ⟨table, write, rows, held, hmeans, hheld, hperm⟩ :=
        hsettled.rows failures (.rejected failures attempts)
      exact ⟨hending, a, table, write, rows, held, hwords, hmeans, hheld, hperm⟩
    · exact hsettled.others name (hname a hwords)

/-- A store that takes every row, and one that rejects the first row of a batch. -/
theorem run_loads_rehearsal :
    let words := ["p.d.t", "rows"]
    let reluctant := replying [.report [⟨.int 0, "no", .null⟩]]
    (∀ connection, (single.client connection).Serves Store.storage) ∧
    Store.storage.sound (replying []) ∧ Store.storage.sound reluctant ∧
    (∀ settings policy, Settings.read single.environment = .ok settings →
      settings.policy = .ok policy → policy.Defined) ∧
    ((run single words (replying [])).ending = .status 0 ∧
      ∃ a table write rows held, CommandLine.read words = .ok (.load a) ∧
        Load.Means single.files a table write rows ∧
        Store.storage.tables (run single words (replying [])).remote table = some held ∧
        held.Perm (write.kept (Store.storage.tables (replying []) table) ++ rows)) ∧
    ((run single words reluctant).ending = .status 1 ∧
      ∃ (failures : List RejectedRow) (a : CommandLine.Arguments) (table : TableName)
        (write : WriteChoice) (rows held : List Row), failures.map RejectedRow.position = [0] ∧
        CommandLine.read words = .ok (.load a) ∧ Load.Means single.files a table write rows ∧
        Store.storage.tables (run single words reluctant).remote table = some held ∧
        held.Perm (write.kept (Store.storage.tables reluctant table) ++
          Position.without rows (failures.map RejectedRow.position))) := by
  intro words reluctant
  have hserves : ∀ connection, (single.client connection).Serves Store.storage :=
    fun _ => Store.client_serves
  have hsound : Store.storage.sound (replying []) := sound_replying (by simp)
  have hsound' : Store.storage.sound reluctant := by
    refine sound_replying fun r hr => ⟨[⟨.int 0, "no", .null⟩], List.mem_singleton.1 hr, ?_⟩
    intro e he
    rw [List.mem_singleton.1 he]
  have haccepted : (run single words (replying [])).ending = .status 0 :=
    Ending.eq_status (by decide +kernel)
  have hgivenUp : (transferred? single words reluctant).bind givenUp? = some [0] := by decide +kernel
  obtain ⟨r, htransferred, hr⟩ := Option.bind_eq_some_iff.1 hgivenUp
  obtain ⟨failures, attempts, rfl, hpositions⟩ := rejected_of_givenUp? hr
  refine ⟨hserves, hsound, hsound', single_defined, ⟨haccepted, ?_⟩, ?_⟩
  · exact (run_loads single Store.storage words (replying []) hserves hsound single_defined).1
      haccepted
  · obtain ⟨hstatus, a, table, write, rows, held, hend⟩ := (run_loads single Store.storage words
      reluctant hserves hsound' single_defined).2.1 failures attempts htransferred
    exact ⟨hstatus, failures, a, table, write, rows, held, hpositions, hend⟩

end Program

end TableFeed
