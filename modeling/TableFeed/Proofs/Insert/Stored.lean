import TableFeed.Proofs.Insert.Ledger
import TableFeed.Proofs.Insert.Unsent

/-!
# What an insert leaves in the store

An insert may be refused before anything is sent: for want of tokens, or because a row has no size.
Otherwise it is a run of rounds, whose calls keep the ledger.  So in every case the other tables are
as they were, and an insert that came to its end has added to its table the caller's rows without
those that it gives up.

The main result is `World.insertAll_stored`.
-/

namespace TableFeed

open Position World Retry

variable {σ : Type} {c : Client σ} {s : Schedule} {v : Storage σ} {pace : Pace}
  {options : InsertOptions} {table : TableName} {rows : List Row} {tokens : Option (List Writing)}
  {before : Tables} {old : List Row} {p : Paced (World σ)}

/-- What an insert that ended in some way leaves in the store and the pool.  If it came to its end,
then every call has finished. -/
structure Stored {α : Type} (v : Storage σ) (table : TableName) (before : Tables) (old : List Row)
    (rows : List Row) (r : Except Failure α) (w : World σ) : Prop where
  ledger : Ledger v table before old w
  finished : ∀ failures, Concluded r failures → ∀ n, w.pool.openJob? n = none
  stored : ∀ failures, Concluded r failures →
    w.pool.stored.Perm (without rows (failures.map RejectedRow.position))

lemma Stored.of_open {α : Type} {r : Except Failure α} {w : World σ}
    (h : Ledger v table before old w) (hr : ∀ failures, ¬ Concluded r failures) :
    Stored v table before old rows r w :=
  ⟨h, fun failures hc => absurd hc (hr failures), fun failures hc => absurd hc (hr failures)⟩

lemma Concluded.of_map {α β : Type} {r : Except Failure α} {f : α → β} {failures : List RejectedRow}
    (h : Concluded (r.map f) failures) : Concluded r failures := by
  cases r with
  | error e =>
      generalize hr : (Except.error e : Except Failure α).map f = r' at h
      cases h with
      | accepted b => simp [Except.map] at hr
      | rejected failures attempts =>
          obtain rfl : e = .rejected failures attempts := by simpa [Except.map] using hr
          exact .rejected failures attempts
  | ok a =>
      generalize hr : (Except.ok a : Except Failure α).map f = r' at h
      cases h with
      | accepted b => exact .accepted a
      | rejected failures attempts => simp [Except.map] at hr

/-- What the table was before does not matter to the ledger. -/
lemma Ledger.of_update {w : World σ} {held : Option (List Row)}
    (h : Ledger v table (Function.update before table held) old w) :
    Ledger v table before old w := by
  obtain ⟨held', htables, hperm⟩ := h.tables
  rw [Function.update_idem] at htables
  exact ⟨h.sound, ⟨held', htables, hperm⟩, h.reports, h.jobs⟩

namespace Stored

variable {α β : Type} {r : Except Failure α} {w : World σ}

lemma map (h : Stored v table before old rows r w) (f : α → β) :
    Stored v table before old rows (r.map f) w :=
  ⟨h.ledger, fun failures hr => h.finished failures hr.of_map,
    fun failures hr => h.stored failures hr.of_map⟩

lemma aside {w' : World σ} (h : Stored v table before old rows r w) (hremote : w'.remote = w.remote)
    (hpool : w'.pool = w.pool) : Stored v table before old rows r w' := by
  refine ⟨h.ledger.aside hremote (by rw [hpool]), ?_, ?_⟩
  · rw [hpool]
    exact h.finished
  · rw [hpool]
    exact h.stored

lemma of_update {held : Option (List Row)}
    (h : Stored v table (Function.update before table held) old rows r w) :
    Stored v table before old rows r w :=
  ⟨h.ledger.of_update, h.finished, h.stored⟩

end Stored

/-! ### The rounds keep the ledger -/

namespace Retry.Stage

variable {st : Stage (World σ)} {limits : BatchLimits}

/-- A round of objects submits proper batches. -/
lemma Ready.jobs_into (h : st.Ready rows tokens) (limits : BatchLimits) (table : TableName)
    (hsized : Sized rows) (hobjects : ∀ row ∈ rows, row.IsObject) :
    ∀ job ∈ (st.dispatch limits).jobs table, job.Into table := by
  intro job hjob
  obtain ⟨b, hb, rfl⟩ := List.mem_map.1 hjob
  have hcuts := h.cuts limits hsized
  refine ⟨rfl, hcuts.nonempty_of_mem b hb, fun row hrow => hobjects row ?_⟩
  refine h.tracks.rows_picked.subset ?_
  rw [← hcuts.rows_eq]
  exact List.mem_flatMap.2 ⟨b, hb, hrow⟩

/-- The calls of a round are answered in integers if the pool has only such reports. -/
lemma Performs.plain_of_ledger (h : st.Performs c s limits table)
    (hledger : Ledger v table before old (st.left c s limits table)) :
    st.Plain c s limits table := by
  rintro ⟨b, x⟩ hx
  obtain ⟨n, report, hcall, houtcome, hmem⟩ := mem_entriesOf.1 hx
  obtain ⟨report', hreport, husable⟩ :=
    h.endsAs_of_pool hledger.reports (Nat.zero_le _) hcall houtcome
  obtain rfl : some report = report' := Except.ok.inj hreport
  obtain ⟨l, -, hindex⟩ := husable x hmem
  exact .inr ⟨l, hindex⟩

end Retry.Stage

/-- The rounds of an insert of objects keep the ledger. -/
lemma Retry.invariant_ledger (hc : c.Serves v) (s : Schedule) (limits : BatchLimits)
    (hsized : Sized rows) (hobjects : ∀ row ∈ rows, row.IsObject) :
    Invariant c s limits table rows tokens (Ledger v table before old) where
  round st hready hperforms hledger := by
    refine hledger.reaches hc hperforms.reaches fun job hjob => ?_
    rw [hperforms.pool.jobs_eq] at hjob
    rcases List.mem_append.1 hjob with hjob | hjob
    · exact hledger.jobs job hjob
    · exact hready.jobs_into limits table hsized hobjects job hjob
  log _ _ hledger := hledger.aside rfl rfl

namespace World

/-- Before the first call, the ledger agrees with the store. -/
lemma ledger_of_empty {w : World σ} (hsound : v.sound w.remote) (hempty : w.pool.calls = [])
    (hheld : v.tables w.remote table = some old) : Ledger v table (v.tables w.remote) old w := by
  refine ⟨hsound, ⟨old, ?_, ?_⟩, ?_, ?_⟩
  · rw [← hheld, Function.update_eq_self]
  · simp [Pool.stored, hempty]
  · intro n job e _ hcall
    simp [hempty] at hcall
  · simp [Pool.jobs, hempty]

/-- An insert of objects into a table that is there keeps the other tables as they are.  If it comes
to its end, it has added its rows to the table, without those that it gives up. -/
theorem insertAll_stored (hc : c.Serves v) (s : Schedule) (pace : Pace) (options : InsertOptions)
    (rows : List Row) (tokens : Option (List Writing)) (hobjects : ∀ row ∈ rows, row.IsObject)
    (hdefined : options.policy.Defined) (hopen : p.inner.pool.closed = false)
    (hempty : p.inner.pool.calls = []) (hsound : v.sound p.inner.remote)
    (hheld : v.tables p.inner.remote table = some old) :
    Stored v table (v.tables p.inner.remote) old rows
      ((insertAll c s pace options (some table) rows tokens).run p).1
      ((insertAll c s pace options (some table) rows tokens).run p).2.inner := by
  have hbegin := ledger_of_empty hsound hempty hheld
  by_cases htokens : Matching rows tokens
  · by_cases hsized : Sized rows
    · have hI : Invariant c s options.limits table rows tokens
          (Ledger v table (v.tables p.inner.remote) old) :=
        invariant_ledger hc s options.limits hsized hobjects
      have hbegin' : Ledger v table (v.tables p.inner.remote) old (uncounted p).inner :=
        hbegin.aside rfl rfl
      obtain ⟨l, r, p', log, -, hinserts, hrun, hledger⟩ := insertAll_inserts c s pace options table p
        hsized htokens hdefined hopen hI hbegin' fun a _ hready hleft =>
          (hready.performs c s options.limits table hsized).plain_of_ledger hleft
      rw [hrun]
      exact ⟨hledger.aside rfl rfl, fun failures hr => hinserts.finished hempty hr.of_map,
        fun failures hr => hinserts.perm_stored hsized hempty hr.of_map⟩
    · obtain ⟨f, hrun⟩ := insertAll_of_not_sized hsized htokens p
      rw [hrun]
      exact .of_open (hbegin.aside rfl rfl) fun failures hr => by cases hr
  · obtain ⟨m, hrun⟩ := insertAll_of_not_matching htokens p
    rw [hrun]
    exact .of_open hbegin fun failures hr => by cases hr

end World

end TableFeed
