import TableFeed.Proofs.Insert.Stored
import TableFeed.Proofs.Load.Cargo

/-!
# What a transfer comes to

A transfer reads what is to be loaded, gets the table ready and inserts the rows.  `Load.Transferred`
says what it has come to when it ends: it has failed with nothing sent, or the insert of the rows that
the file holds has ended in the same way, and has stored what it stores.

The main result is `Load.transfer_run`.
-/

namespace TableFeed

open Position World

lemma Settings.silent_policy (settings : Settings) : Silent settings.policy :=
  .bind (.mapError (by simp)) fun _ => .mapError (by simp)

namespace World

variable {σ : Type} {w : World σ}

/-- A pool that is not closed is started; its calls stay as they are. -/
lemma start_run (hopen : w.pool.closed = false) :
    ∃ w', start.run w = (.ok (), w') ∧ w'.remote = w.remote ∧ w'.pool.closed = false ∧
      w'.pool.calls = w.pool.calls := by
  cases hstarted : w.pool.started with
  | true =>
      refine ⟨w.tell [], ?_, rfl, hopen, rfl⟩
      simp [start, Action.run, Pool.start, hopen, hstarted]
  | false =>
      refine ⟨{ w with pool := { w.pool with started := true } }.tell
        [.poolStarted w.pool.workers], ?_, rfl, hopen, rfl⟩
      simp [start, Action.run, Pool.start, hopen, hstarted]

end World

namespace Load

open CommandLine

variable {σ α : Type} {v : Storage σ} {files : FileSource} {a : Arguments} {before : Tables}
  {l : Load σ}

/-- What a transfer has come to when it ends in some way, in the state that it leaves. -/
inductive Transferred (v : Storage σ) (files : FileSource) (a : Arguments) (before : Tables) :
    Except Failure Unit → World σ → Prop where
  /-- It has failed, and no call was submitted. -/
  | unsent {f : Failure} {w : World σ} (hsilent : Silent (.error f : Except Failure Unit))
      (hempty : w.pool.calls = []) (hothers : ∀ name, TableName.read? a.table ≠ some name →
        v.tables w.remote name = before name) : Transferred v files a before (.error f) w
  /-- The insert of the rows that the file holds has ended in this way. -/
  | sent {table : TableName} {write : WriteChoice} {path : String} {octets : List UInt8}
      {rows : List Row} {r : Except Failure Unit} {w : World σ}
      (htable : TableName.read? a.table = some table) (hwrite : a.write = some write)
      (hpath : a.rows = some path) (hoctets : files (Path.read path) = .ok octets)
      (hholds : RowFile.Holds octets rows)
      (hstored : Stored v table before (write.kept (before table)) rows r w) :
      Transferred v files a before r w

lemma Transferred.aside {r : Except Failure Unit} {w w' : World σ}
    (h : Transferred v files a before r w) (hremote : w'.remote = w.remote)
    (hpool : w'.pool = w.pool) : Transferred v files a before r w' := by
  cases h with
  | unsent hsilent hempty hothers =>
      refine .unsent hsilent (by rw [hpool, hempty]) ?_
      rw [hremote]
      exact hothers
  | sent htable hwrite hpath hoctets hholds hstored =>
      exact .sent htable hwrite hpath hoctets hholds (hstored.aside hremote hpool)

/-- The state of a load that has sent nothing yet. -/
structure Unsent (v : Storage σ) (before : Tables) (w : World σ) : Prop where
  sound : v.sound w.remote
  tables_eq : v.tables w.remote = before
  opened : w.pool.closed = false
  empty : w.pool.calls = []

/-- A step of a transfer that only answers ends it with a failure, or the transfer goes on. -/
lemma transferred_of_answer {x : Except Failure α} {k : α → Action (Load σ) Unit}
    (hl : Unsent v before l.state.inner) (hsilent : Silent x)
    (hk : ∀ y, x = .ok y → Transferred v files a before ((k y).run l).1
      ((k y).run l).2.state.inner) :
    Transferred v files a before ((Action.answer x >>= k).run l).1
      ((Action.answer x >>= k).run l).2.state.inner := by
  cases x with
  | error f =>
      rw [Action.run_bind_of_error (Action.run_answer _ l)]
      exact .unsent hsilent.cast hl.empty fun name _ => by rw [hl.tables_eq]
  | ok y =>
      rw [Action.run_bind_of_ok (Action.run_answer _ l)]
      exact hk y rfl

lemma silent_chosen (choice : Choice) (made : Option α) : Silent (chosen choice made) := by
  cases made with
  | none => exact .error (by simp)
  | some x => exact .ok x

lemma eq_some_of_chosen {choice : Choice} {made : Option α} {x : α}
    (h : chosen choice made = .ok x) : made = some x := by
  cases made with
  | none => simp [chosen] at h
  | some y =>
      obtain rfl := Except.ok.inj h
      rfl

lemma policy_of_make {limits : BatchLimits} {policy : Policy} {options : InsertOptions}
    (h : (InsertOptions.make limits policy).mapError Failure.misuse = .ok options) :
    options.policy = policy := by
  unfold InsertOptions.make at h
  split at h
  · simp [Except.mapError] at h
  · split at h
    · simp [Except.mapError] at h
    · rw [← Except.ok.inj h]

/-- The insert of a transfer stores what it stores, whatever it says when it has ended. -/
lemma insert_run {c : Client σ} {table : TableName} {old : List Row} {options : InsertOptions}
    (hserves : c.Serves v) (schedule : Schedule) (pace : Pace) (list : RowList)
    (hobjects : ∀ row ∈ list.rows, row.IsObject) (hdefined : options.policy.Defined)
    (hl : Unsent v (Function.update before table (some old)) l.state.inner) :
    let x : Action (Load σ) Unit := do
      let summary ← within (insertAll c schedule pace options (some table) list.rows list.tokens)
      note (.loadCompleted table summary.rows summary.attempts summary.retried)
    Stored v table before old list.rows (x.run l).1 (x.run l).2.state.inner := by
  intro x
  have hheld : v.tables l.state.inner.remote table = some old := by simp [hl.tables_eq]
  have hstored := insertAll_stored hserves schedule pace options list.rows list.tokens hobjects
    hdefined hl.opened hl.empty hl.sound hheld
  rw [hl.tables_eq] at hstored
  generalize hinsert : (insertAll c schedule pace options (some table) list.rows list.tokens).run
    l.state = y at hstored
  obtain ⟨r, p⟩ := y
  have hrun : (within (insertAll c schedule pace options (some table) list.rows list.tokens)).run l =
      (r, { l with state := p }) := by
    simp [within, hinsert]
  cases r with
  | error f =>
      rw [Action.run_bind_of_error hrun]
      exact (hstored.map fun _ => ()).of_update
  | ok summary =>
      rw [Action.run_bind_of_ok hrun]
      exact (hstored.map fun _ => ()).of_update.aside rfl rfl

/-- Connecting comes to the client of the connection, or to what hinders it. -/
lemma connect_run (s : Surroundings σ) (connection : Connection) (l : Load σ) :
    (connect s connection).run l = match s.hindrance? connection with
      | some h => (.error h.failure, l)
      | none => (.ok (s.client connection),
          { l with connections := l.connections ++ [connection] }) := by
  unfold connect
  cases s.hindrance? connection <;> rfl

/-- A transfer that is hindered from connecting ends so, and any other one starts its pool and goes
on. -/
lemma transferred_of_connect {s : Surroundings σ} {connection : Connection}
    {k : Client σ → Action (Load σ) Unit} (hl : Unsent v before l.state.inner)
    (hk : ∀ l', Unsent v before l'.state.inner →
      Transferred v files a before ((k (s.client connection)).run l').1
        ((k (s.client connection)).run l').2.state.inner) :
    let x : Action (Load σ) Unit := do
      let client ← connect s connection
      within (Retry.inner World.start)
      k client
    Transferred v files a before (x.run l).1 (x.run l).2.state.inner := by
  intro x
  have hconnect := connect_run s connection l
  cases hhindered : s.hindrance? connection with
  | some h =>
      rw [hhindered] at hconnect
      have hsilent : Silent (.error h.failure : Except Failure Unit) := by
        refine .error fun failures attempts hf => ?_
        simpa [hf, Failure.isDeclared] using h.undeclared
      rw [Action.run_bind_of_error hconnect]
      exact .unsent hsilent hl.empty fun name _ => by rw [hl.tables_eq]
  | none =>
      rw [hhindered] at hconnect
      obtain ⟨w, hstart, hremote, hopen, hcalls⟩ := start_run hl.opened
      let l₁ : Load σ := { l with connections := l.connections ++ [connection] }
      have hstarted : (within (Retry.inner World.start)).run l₁ =
          (.ok (), { l₁ with state := { l.state with inner := w } }) := by
        simp [l₁, within, Retry.inner, hstart]
      rw [Action.run_bind_of_ok hconnect, Action.run_bind_of_ok hstarted]
      refine hk _ ⟨?_, ?_, hopen, hcalls.trans hl.empty⟩
      · rw [hremote]
        exact hl.sound
      · rw [hremote, hl.tables_eq]

/-- Once the table is known, a transfer gets it ready and inserts the rows. -/
lemma provision_insert_run {c : Client σ} {table : TableName} {path : String} {octets : List UInt8}
    {write : WriteChoice} {options : InsertOptions} {list : RowList} (hserves : c.Serves v)
    (schedule : Schedule) (pace : Pace) (create : CreateChoice) (schema : Option Schema)
    (htable : TableName.read? a.table = some table) (hwrite : a.write = some write)
    (hpath : a.rows = some path) (hoctets : files (Path.read path) = .ok octets)
    (hholds : RowFile.Holds octets list.rows) (hdefined : options.policy.Defined)
    (hl : Unsent v before l.state.inner) :
    let x : Action (Load σ) Unit := do
      discard (within (Retry.inner (World.provision c table write create schema)))
      let summary ← within (insertAll c schedule pace options (some table) list.rows list.tokens)
      note (.loadCompleted table summary.rows summary.attempts summary.retried)
    Transferred v files a before (x.run l).1 (x.run l).2.state.inner := by
  intro x
  obtain ⟨hsound, hpool, hprovisioned⟩ := provision_run hserves hl.sound table write create schema
  rcases hprovision : (provision c table write create schema).run l.state.inner with ⟨r, w⟩
  rw [hprovision] at hsound hpool hprovisioned
  have hprovided : (discard (within (Retry.inner (provision c table write create schema)))).run l =
      (r.map fun _ => (), { l with state := { l.state with inner := w } }) := by
    rw [Action.run_discard]
    simp [within, Retry.inner, hprovision]
  rw [hl.tables_eq] at hprovisioned
  generalize htables : v.tables w.remote = after at hprovisioned
  cases hprovisioned with
  | failed held hsilent =>
      -- the table may be gone by now, but the others are as they were
      rw [Action.run_bind_of_error hprovided]
      refine .unsent hsilent.cast ?_ fun name hname => ?_
      · exact (congrArg Pool.calls hpool).trans hl.empty
      · have hne : name ≠ table := by
          rintro rfl
          exact hname htable
        simp [htables, hne]
  | ready t =>
      rw [Action.run_bind_of_ok hprovided]
      have hl' : Unsent v (Function.update before table (some (write.kept (before table)))) w :=
        ⟨hsound, htables, (congrArg Pool.closed hpool).trans hl.opened,
          (congrArg Pool.calls hpool).trans hl.empty⟩
      exact .sent htable hwrite hpath hoctets hholds
        (insert_run hserves schedule pace list hholds.objects hdefined hl')

/-- A transfer whose client serves a store fails with nothing sent, or it ends as the insert of the
rows of its file does. -/
theorem transfer_run (s : Surroundings σ) (settings : Settings) (a : Arguments)
    (hserves : (s.client settings.connection).Serves v)
    (hdefined : ∀ policy, settings.policy = .ok policy → policy.Defined)
    (hl : Unsent v before l.state.inner) :
    Transferred v s.files a before ((transfer s settings a).run l).1
      ((transfer s settings a).run l).2.state.inner := by
  unfold transfer
  refine transferred_of_answer hl (silent_readCargo s.files a) fun cargo hcargo => ?_
  obtain ⟨htable, path, octets, hpath, hoctets, hholds⟩ := exists_of_readCargo hcargo
  refine transferred_of_connect hl fun l' hl' => ?_
  refine transferred_of_answer hl' settings.silent_policy fun policy hpolicy => ?_
  refine transferred_of_answer hl' (.mapError (by simp)) fun options hoptions => ?_
  refine transferred_of_answer hl' (silent_chosen _ _) fun write hwrite => ?_
  refine transferred_of_answer hl' (silent_chosen _ _) fun create hcreate => ?_
  have hoptions' : options.policy.Defined := by
    rw [policy_of_make hoptions]
    exact hdefined policy hpolicy
  exact provision_insert_run hserves s.schedule s.pace create cargo.schema htable
    (eq_some_of_chosen hwrite) hpath hoctets hholds hoptions' hl'

end Load

end TableFeed
