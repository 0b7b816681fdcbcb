import TableFeed.Proofs.Insert.Spared
import TableFeed.Proofs.RowFile.Objects
import TableFeed.Proofs.Remote.Requests

/-!
# Clients of a store of tables

Of a remote store a load knows only what its client answers.  `Storage` is a way to look into the
store, and `Client.Serves` says that the client serves what one sees there: it fetches, creates and
deletes tables, and an insert adds to its table the rows on which its report says nothing.

The main result is `World.provision_run`: what getting a table ready does to the tables of a store.
-/

namespace TableFeed

open World

/-- A batch as a load sends it: it has rows, and they are objects. -/
structure Batch.Proper (b : Batch) : Prop where
  nonempty : b.rows ≠ []
  objects : ∀ row ∈ b.rows, row.IsObject

/-- The rows of each table that is there. -/
abbrev Tables := TableName → Option (List Row)

/-- A way to look into a remote store. -/
structure Storage (σ : Type) where
  /-- The states in which the store works. -/
  sound : σ → Prop
  /-- The tables in a state. -/
  tables : σ → Tables

/-- An action on a store that works answers as given, and leaves given tables. -/
def Storage.Answers {σ α : Type} (v : Storage σ) (x : Action σ α) (st : σ)
    (answer : Except Failure α) (after : Tables) : Prop :=
  ∃ st', x.run st = (answer, st') ∧ v.sound st' ∧ v.tables st' = after

/-- A client that serves a store of tables.  The report on a batch names rows of the batch, and the
others are added to the table. -/
structure Client.Serves {σ : Type} (c : Client σ) (v : Storage σ) : Prop where
  get : ∀ {st table held}, v.sound st → v.tables st table = some held →
    ∃ t, v.Answers (c.get table) st (.ok t) (v.tables st)
  get_missing : ∀ {st table}, v.sound st → v.tables st table = none →
    ∃ detail, v.Answers (c.get table) st (.error (.refused .notFound detail)) (v.tables st)
  first : ∀ {st table held}, v.sound st → v.tables st table = some held →
    v.Answers (c.first table) st (.ok held.head?) (v.tables st)
  delete : ∀ {st table held}, v.sound st → v.tables st table = some held →
    v.Answers (c.delete table) st (.ok ()) (Function.update (v.tables st) table none)
  create : ∀ {st table} (schema : Schema), v.sound st → v.tables st table = none →
    ∃ t, v.Answers (c.create table (some schema)) st (.ok t)
      (Function.update (v.tables st) table (some []))
  insert : ∀ {st table held b}, v.sound st → v.tables st table = some held → b.Proper →
    ∃ report : Option (List Rejection), (∀ x ∈ report.getD [], x.Usable b) ∧
      v.Answers (c.insert table b) st (.ok report) (Function.update (v.tables st) table
        (some (held ++ Rejection.spared b (report.getD []))))

/-! ### Getting a table ready -/

/-- The rows that a table keeps under a choice. -/
def WriteChoice.kept (write : WriteChoice) (held : Option (List Row)) : List Row :=
  if write = append then held.getD [] else []

namespace World

variable {σ α : Type} {c : Client σ} {v : Storage σ} {w : World σ} {table : TableName}
  {schema : Option Schema}

/-- A state in which the store has given tables, and the pool has not changed. -/
structure Tends (v : Storage σ) (w : World σ) (after : Tables) (w' : World σ) : Prop where
  sound : v.sound w'.remote
  tables_eq : v.tables w'.remote = after
  pool_eq : w'.pool = w.pool

/-- What getting a table ready comes to, and the tables that it leaves. -/
inductive Provisioned (write : WriteChoice) (table : TableName) (before : Tables) :
    Except Failure (Option Table) → Tables → Prop where
  /-- The table has the rows that it keeps. -/
  | ready (t : Option Table) : Provisioned write table before (.ok t)
      (Function.update before table (some (write.kept (before table))))
  /-- The table is not ready. -/
  | failed {f : Failure} (held : Option (List Row))
      (hsilent : Silent (.error f : Except Failure (Option Table))) :
      Provisioned write table before (.error f) (Function.update before table held)

namespace Provisioned

variable {write : WriteChoice} {before : Tables}

/-- A table that has the rows that it keeps is ready as it is. -/
lemma held (t : Option Table) (h : before table = some (write.kept (before table))) :
    Provisioned write table before (.ok t) before := by
  have hready : Provisioned write table before (.ok t)
      (Function.update before table (some (write.kept (before table)))) := .ready t
  rwa [← h, Function.update_eq_self] at hready

/-- A failure may leave all tables as they are. -/
lemma unchanged {f : Failure} (hsilent : Silent (.error f : Except Failure (Option Table))) :
    Provisioned write table before (.error f) before := by
  have hfailed : Provisioned write table before (.error f)
      (Function.update before table (before table)) := .failed _ hsilent
  rwa [Function.update_eq_self] at hfailed

end Provisioned

/-- An action that gets a table ready.  The store works on, and no call is submitted. -/
structure Provides (v : Storage σ) (write : WriteChoice) (table : TableName) (before : Tables)
    (x : Action (World σ) (Option Table)) (w : World σ) : Prop where
  sound : v.sound (x.run w).2.remote
  pool_eq : (x.run w).2.pool = w.pool
  provisioned : Provisioned write table before (x.run w).1 (v.tables (x.run w).2.remote)

namespace Provides

variable {write : WriteChoice} {before : Tables} {x y : Action (World σ) (Option Table)}
  {r : Except Failure (Option Table)} {w' : World σ}

lemma of_run (hrun : x.run w = (r, w')) (hsound : v.sound w'.remote) (hpool : w'.pool = w.pool)
    (h : Provisioned write table before r (v.tables w'.remote)) :
    Provides v write table before x w := by
  refine ⟨?_, ?_, ?_⟩
  · rwa [hrun]
  · rwa [hrun]
  · rwa [hrun]

/-- Steps that leave the pool as it is may come first. -/
lemma after (hrun : x.run w = y.run w') (hpool : w'.pool = w.pool)
    (h : Provides v write table before y w') : Provides v write table before x w :=
  .of_run hrun h.sound (h.pool_eq.trans hpool) h.provisioned

end Provides

lemma remotely_run {x : Action σ α} {answer : Except Failure α} {after : Tables}
    (h : v.Answers x w.remote answer after) :
    ∃ w', (remotely x).run w = (answer, w') ∧ Tends v w after w' := by
  obtain ⟨st, hrun, hsound, htables⟩ := h
  exact ⟨{ w with remote := st }, by simp [remotely, hrun], hsound, htables, rfl⟩

lemma silent_requireSchema (table : TableName) (schema : Option Schema) :
    Silent (requireSchema table schema) := by
  cases schema with
  | none => exact .misuse _
  | some given =>
      refine .bind (.liftFault _) fun n => ?_
      split
      · exact .misuse _
      · exact .ok _

/-- A table that is missing is created empty. -/
lemma tryCreate_run (hc : c.Serves v) (hsound : v.sound w.remote)
    (hmissing : v.tables w.remote table = none) (hschema : requireSchema table schema = .ok ()) :
    ∃ t w', (tryCreate c table schema).run w = (.ok (some t), w') ∧
      Tends v w (Function.update (v.tables w.remote) table (some [])) w' := by
  obtain ⟨given, rfl, n, -, hlength⟩ := requireSchema_eq_ok hschema
  have hfields : (Action.answer (liftFault (schemaLength (some given)))).run w = (.ok n, w) := by
    rw [schemaLength, hlength]
    rfl
  obtain ⟨t, hcreate⟩ := hc.create given hsound hmissing
  obtain ⟨w', hrun, htends⟩ := remotely_run (w := Logged.note (.tableCreating table n) w) hcreate
  refine ⟨t, w', ?_, htends.sound, htends.tables_eq, htends.pool_eq⟩
  unfold tryCreate
  rw [Action.run_bind_of_ok hfields, Action.run_bind_of_ok (Action.run_note _ w),
    Action.run_bind_of_ok (Action.run_outcome _ _), hrun]
  rfl

/-- A table that is not there is created, or the schema does not allow it. -/
lemma create_run (hc : c.Serves v) (hsound : v.sound w.remote) (write : WriteChoice)
    (schema : Option Schema) {before : Tables} (hkept : write.kept (before table) = [])
    (hmissing : v.tables w.remote = Function.update before table none) :
    Provides v write table before
      (do Action.answer (requireSchema table schema); tryCreate c table schema) w := by
  cases hschema : requireSchema table schema with
  | error f =>
      have hsilent := silent_requireSchema table schema
      rw [hschema] at hsilent
      refine .of_run (Action.run_bind_of_error (Action.run_answer _ w)) hsound rfl ?_
      rw [hmissing]
      exact .failed none hsilent.cast
  | ok u =>
      obtain ⟨t, w', hrun, htends⟩ := tryCreate_run hc hsound (by simp [hmissing]) hschema
      have hready : v.tables w'.remote = Function.update before table
          (some (write.kept (before table))) := by
        rw [htends.tables_eq, hmissing, Function.update_idem, hkept]
      refine .of_run ((Action.run_bind_of_ok (Action.run_answer _ w)).trans hrun) htends.sound
        htends.pool_eq ?_
      rw [hready]
      exact .ready (some t)

/-- A table that is there is deleted and created again, or the schema does not allow it. -/
lemma recreate_run (hc : c.Serves v) (hsound : v.sound w.remote) (write : WriteChoice)
    (schema : Option Schema) {held : List Row} (hheld : v.tables w.remote table = some held)
    (hkept : write.kept (v.tables w.remote table) = []) :
    Provides v write table (v.tables w.remote) (do
      Action.answer (requireSchema table schema)
      note (.tableDeleting table)
      remotely (c.delete table)
      tryCreate c table schema) w := by
  cases hschema : requireSchema table schema with
  | error f =>
      have hsilent := silent_requireSchema table schema
      rw [hschema] at hsilent
      exact .of_run (Action.run_bind_of_error (Action.run_answer _ w)) hsound rfl
        (.unchanged hsilent.cast)
  | ok u =>
      obtain ⟨w₁, hdelete, htends₁⟩ := remotely_run (w := Logged.note (.tableDeleting table) w)
        (hc.delete hsound hheld)
      obtain ⟨t, w', hcreate, htends⟩ := tryCreate_run hc htends₁.sound
        (by simp [htends₁.tables_eq]) hschema
      have hready : v.tables w'.remote = Function.update (v.tables w.remote) table
          (some (write.kept (v.tables w.remote table))) := by
        rw [htends.tables_eq, htends₁.tables_eq, Function.update_idem, hkept]
        rfl
      refine .after (Action.run_bind_of_ok (Action.run_answer _ w)) rfl ?_
      refine .after (Action.run_bind_of_ok (Action.run_note _ w)) rfl ?_
      refine .after (Action.run_bind_of_ok hdelete) htends₁.pool_eq ?_
      refine .of_run hcreate htends.sound htends.pool_eq ?_
      rw [hready]
      exact .ready (some t)

/-- Where a table is missing, it is fetched as none if it will be created. -/
lemma fetchTable_of_missing (hc : c.Serves v) (hsound : v.sound w.remote)
    (hmissing : v.tables w.remote table = none) (create : CreateChoice) :
    ∃ detail w', Tends v w (v.tables w.remote) w' ∧ (fetchTable c table create).run w =
      (if create = .ifNeeded then .ok none else .error (.refused .notFound detail), w') := by
  obtain ⟨detail, hget⟩ := hc.get_missing hsound hmissing
  obtain ⟨w', hrun, htends⟩ := remotely_run hget
  refine ⟨detail, w', htends, ?_⟩
  unfold fetchTable
  rw [Action.run_bind_of_ok (Action.run_outcome _ _), hrun]
  dsimp only
  split <;> rfl

lemma fetchTable_of_held (hc : c.Serves v) (hsound : v.sound w.remote) {held : List Row}
    (hheld : v.tables w.remote table = some held) (create : CreateChoice) :
    ∃ t w', Tends v w (v.tables w.remote) w' ∧
      (fetchTable c table create).run w = (.ok (some t), w') := by
  obtain ⟨t, hget⟩ := hc.get hsound hheld
  obtain ⟨w', hrun, htends⟩ := remotely_run hget
  refine ⟨t, w', htends, ?_⟩
  unfold fetchTable
  rw [Action.run_bind_of_ok (Action.run_outcome _ _), hrun]
  rfl

lemma isEmpty_run (hc : c.Serves v) (hsound : v.sound w.remote) {held : List Row}
    (hheld : v.tables w.remote table = some held) :
    ∃ w', Tends v w (v.tables w.remote) w' ∧
      (isEmpty c table).run w = (.ok held.isEmpty, w') := by
  obtain ⟨w', hrun, htends⟩ := remotely_run (hc.first hsound hheld)
  refine ⟨w', htends, ?_⟩
  unfold isEmpty
  rw [Action.run_bind_of_ok hrun]
  cases held <;> rfl

/-- A missing table is created, unless the choice or the schema does not allow it. -/
lemma provision_of_missing (hc : c.Serves v) (hsound : v.sound w.remote) (write : WriteChoice)
    (create : CreateChoice) (schema : Option Schema) (hmissing : v.tables w.remote table = none) :
    Provides v write table (v.tables w.remote) (provision c table write create schema) w := by
  obtain ⟨detail, w₁, htends, hfetch⟩ := fetchTable_of_missing hc hsound hmissing create
  unfold provision
  by_cases hcreate : create = .ifNeeded
  · rw [if_pos hcreate] at hfetch
    refine .after (Action.run_bind_of_ok hfetch) htends.pool_eq ?_
    have hkept : write.kept (v.tables w.remote table) = [] := by
      rw [hmissing, WriteChoice.kept]
      split <;> rfl
    have hmissing₁ : v.tables w₁.remote = Function.update (v.tables w.remote) table none := by
      rw [htends.tables_eq, ← hmissing, Function.update_eq_self]
    exact create_run hc htends.sound write schema hkept hmissing₁
  · rw [if_neg hcreate] at hfetch
    refine .of_run (Action.run_bind_of_error hfetch) htends.sound htends.pool_eq ?_
    rw [htends.tables_eq]
    exact .unchanged (.error (by simp))

/-- A table that is not to keep its rows stays if it has none; if it has some, it is refused or
created again. -/
lemma provision_of_rows (hc : c.Serves v) (hsound : v.sound w.remote) {write : WriteChoice}
    (hwrite : write ≠ .append) (t : Table) (schema : Option Schema) {held : List Row}
    (hheld : v.tables w.remote table = some held) :
    Provides v write table (v.tables w.remote) (do
      if ← isEmpty c table then
        if write = .truncate then note (.emptyTableKept table)
        return some t
      if write = .empty then throw (.notEmpty table)
      let schema := schema.or (t.schema.filter Schema.isGiven)
      Action.answer (requireSchema table schema)
      note (.tableDeleting table)
      remotely (c.delete table)
      tryCreate c table schema) w := by
  have hkept : write.kept (v.tables w.remote table) = [] := by rw [WriteChoice.kept, if_neg hwrite]
  obtain ⟨w₁, htends, hempty⟩ := isEmpty_run hc hsound hheld
  -- from here on, speak of the tables after the first row was asked for; they are the same
  rw [← htends.tables_eq] at hheld hkept ⊢
  refine .after (Action.run_bind_of_ok hempty) htends.pool_eq ?_
  cases held with
  | nil =>
      have hready : Provisioned write table (v.tables w₁.remote) (.ok (some t))
          (v.tables w₁.remote) :=
        .held _ (by rw [hkept, hheld])
      by_cases htruncate : write = .truncate
      · subst htruncate
        exact .of_run rfl htends.sound rfl hready
      · exact .of_run (by simp [htruncate]) htends.sound rfl hready
  | cons row rest =>
      rw [if_neg (by simp)]
      by_cases hempty : write = .empty
      · rw [if_pos hempty]
        exact .of_run (Action.run_bind_of_error (Action.run_throw _ w₁)) htends.sound rfl
          (.unchanged (.error (by simp)))
      · rw [if_neg hempty]
        exact recreate_run hc htends.sound write _ hheld hkept

/-- Getting a table ready leaves it with the rows that it keeps, or fails; the other tables stay as
they are, and no call is submitted. -/
theorem provision_run (hc : c.Serves v) (hsound : v.sound w.remote) (table : TableName)
    (write : WriteChoice) (create : CreateChoice) (schema : Option Schema) :
    Provides v write table (v.tables w.remote) (provision c table write create schema) w := by
  cases hheld : v.tables w.remote table with
  | none => exact provision_of_missing hc hsound write create schema hheld
  | some held =>
      obtain ⟨t, w₁, htends, hfetch⟩ := fetchTable_of_held hc hsound hheld create
      unfold provision
      rw [← htends.tables_eq] at hheld ⊢
      refine .after (Action.run_bind_of_ok hfetch) htends.pool_eq ?_
      dsimp only
      by_cases happend : write = .append
      · rw [if_pos happend]
        refine .of_run rfl htends.sound rfl (.held _ ?_)
        rw [hheld, WriteChoice.kept, if_pos happend]
        rfl
      · rw [if_neg happend]
        exact provision_of_rows hc htends.sound happend t schema hheld

end World

end TableFeed
