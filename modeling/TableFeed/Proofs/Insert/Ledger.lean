import TableFeed.Proofs.Remote.Storage

/-!
# What the calls of an insert store

A client that serves a store adds to a table the rows that its reports spare, each time that a call
runs.  So the table holds, next to what it held before, the rows that the finished calls have stored,
in the order in which they have run.  `Ledger` is this invariant; it is kept by every step of a load.

The main results are

* `Ledger.reaches`: the ledger agrees with the store wherever a load gets to;
* `Inserts.perm_stored`: the calls of a concluded insert have stored the caller's rows, without those
  that are given up.
-/

namespace TableFeed

open Position World Retry

/-! ### The rows that are stored -/

/-- The rows that a call has stored, as its report tells. -/
def Call.stored (call : Call Job Ending) : List Row :=
  match call.outcome with
  | some (.ok report) => Rejection.spared call.job.batch (report.getD [])
  | _ => []

namespace Pool

variable {p q : Pool Job Ending}

/-- The rows that the calls of a pool have stored. -/
def stored (p : Pool Job Ending) : List Row := p.calls.flatMap Call.stored

lemma stored_submitted (p : Pool Job Ending) (job : Job) : (p.submitted job).stored = p.stored := by
  simp [stored, submitted, Call.stored]

/-- A call that finishes stores the rows that its report spares. -/
lemma perm_stored_finish {n : Nat} {job : Job} (hopen : p.openJob? n = some job)
    (report : Option (List Rejection)) : (p.finish n (.ok report)).stored.Perm
      (p.stored ++ Rejection.spared job.batch (report.getD [])) := by
  have hcall := openJob?_eq_some.1 hopen
  have hn : n < p.calls.length := (List.getElem?_eq_some_iff.1 hcall).1
  obtain ⟨before, call, after, hsplit, hlength, hmodify⟩ := List.exists_of_modify
    (fun c : Call Job Ending => { c with outcome := c.outcome.or (some (.ok report)) }) hn
  -- the call was open, so it had not stored anything
  obtain rfl : call = ⟨job, none⟩ := by
    rw [hsplit, ← hlength] at hcall
    simpa using hcall
  have hbefore : p.stored = before.flatMap Call.stored ++ after.flatMap Call.stored := by
    rw [stored, hsplit]
    simp [Call.stored]
  have hafter : (p.finish n (.ok report)).stored = before.flatMap Call.stored ++
      (Rejection.spared job.batch (report.getD []) ++ after.flatMap Call.stored) := by
    rw [stored, finish, hmodify]
    simp [Call.stored]
  rw [hbefore, hafter, List.append_assoc]
  exact List.perm_append_comm.append_left _

end Pool

/-! ### The ledger -/

/-- A job of a load into a table. -/
def Job.Into (table : TableName) (job : Job) : Prop := job.table = table ∧ job.batch.Proper

/-- A call that has ended with a report whose entries name rows of its batch. -/
def Job.Reports (job : Job) (e : Ending) : Prop :=
  ∃ report : Option (List Rejection), e = .ok report ∧ ∀ x ∈ report.getD [], x.Usable job.batch

/-- The table holds what it held before and what the calls have stored; the other tables are as they
were. -/
structure Ledger {σ : Type} (v : Storage σ) (table : TableName) (before : Tables) (old : List Row)
    (w : World σ) : Prop where
  sound : v.sound w.remote
  tables : ∃ held, v.tables w.remote = Function.update before table (some held) ∧
    held.Perm (old ++ w.pool.stored)
  reports : w.pool.EndsAs Job.Reports 0
  jobs : ∀ job ∈ w.pool.jobs, job.Into table

namespace Ledger

variable {σ : Type} {c : Client σ} {v : Storage σ} {table : TableName} {before : Tables}
  {old : List Row} {w w' : World σ}

lemma held_eq (h : Ledger v table before old w) :
    ∃ held, v.tables w.remote table = some held ∧ held.Perm (old ++ w.pool.stored) := by
  obtain ⟨held, htables, hperm⟩ := h.tables
  exact ⟨held, by simp [htables], hperm⟩

/-- A call that runs stores what its report spares. -/
lemma runCall (hc : c.Serves v) (h : Ledger v table before old w) (n : Nat) :
    Ledger v table before old (runCall c n w) := by
  rcases hopen : w.pool.openJob? n with _ | job
  · rwa [runCall_of_finished hopen]
  · have hjob : job ∈ w.pool.jobs :=
      List.mem_map.2 ⟨_, List.mem_of_getElem? (Pool.openJob?_eq_some.1 hopen), rfl⟩
    obtain ⟨rfl, hproper⟩ := h.jobs job hjob
    obtain ⟨held, htables, hperm⟩ := h.tables
    obtain ⟨report, husable, st, hanswer, hsound, hafter⟩ :=
      hc.insert h.sound (by rw [htables, Function.update_self]) hproper
    obtain ⟨log, hrun, -⟩ := runCall_of_open (c := c) hopen
    rw [answerTo, hanswer] at hrun
    rw [hrun]
    refine ⟨hsound, ⟨held ++ Rejection.spared job.batch (report.getD []), ?_, ?_⟩,
      h.reports.finish hopen ⟨report, rfl, husable⟩, ?_⟩
    · rw [hafter, htables, Function.update_idem]
    · refine (hperm.append_right _).trans ?_
      rw [List.append_assoc]
      exact (Pool.perm_stored_finish hopen report).symm.append_left old
    · simpa using h.jobs

/-- The ledger is about the store and the calls only. -/
lemma aside (h : Ledger v table before old w) (hremote : w'.remote = w.remote)
    (hcalls : w'.pool.calls = w.pool.calls) : Ledger v table before old w' := by
  obtain ⟨held, htables, hperm⟩ := h.tables
  refine ⟨?_, ⟨held, ?_, ?_⟩, ?_, ?_⟩
  · rw [hremote]
    exact h.sound
  · rw [hremote, htables]
  · rw [Pool.stored, hcalls]
    exact hperm
  · exact fun n job e hn hcall => h.reports n job e hn (hcalls ▸ hcall)
  · rw [Pool.jobs, hcalls]
    exact h.jobs

/-- Every step of a load keeps the ledger. -/
lemma step (hc : c.Serves v) (h : Ledger v table before old w) (hstep : Step c table w w')
    (hjobs : ∀ job ∈ w'.pool.jobs, job.Into table) : Ledger v table before old w' := by
  cases hstep with
  | call n => exact h.runCall hc n
  | submit b _ =>
      obtain ⟨held, htables, hperm⟩ := h.tables
      refine ⟨h.sound, ⟨held, htables, ?_⟩, h.reports.submitted _, hjobs⟩
      rw [Pool.stored_submitted]
      exact hperm
  | aside _ _ hremote hcalls => exact h.aside hremote hcalls

/-- The ledger agrees with the store wherever a load gets to, as long as it submits proper batches. -/
theorem reaches (hc : c.Serves v) (h : Ledger v table before old w) (hreaches : Reaches c table w w')
    (hjobs : ∀ job ∈ w'.pool.jobs, job.Into table) : Ledger v table before old w' := by
  induction hreaches with
  | refl => exact h
  | tail _ hlast ih =>
      exact (ih fun job hjob => hjobs job (hlast.jobs_subset hjob)).step hc hlast hjobs

end Ledger

/-! ### What an insert stores -/

/-- If all calls have ended with reports, then the pool has stored what their reports spare. -/
lemma World.stored_eq {σ : Type} {w : World σ} {batches : List Batch} {table : TableName}
    (hjobs : w.pool.jobs = batches.map (Job.mk table)) (hanswered : w.Answered batches.zipIdx) :
    w.pool.stored = batches.zipIdx.flatMap fun x => Rejection.spared x.1 (w.reportOf x.2) := by
  have hlength : w.pool.calls.length = batches.length := by
    simpa [Pool.jobs] using congrArg List.length hjobs
  have hcalls : w.pool.calls.map Call.stored =
      batches.zipIdx.map fun x => Rejection.spared x.1 (w.reportOf x.2) := by
    refine List.ext_getElem? fun n => ?_
    rw [List.getElem?_map, List.getElem?_map, List.getElem?_zipIdx, Nat.zero_add]
    rcases hb : batches[n]? with _ | b
    · have hnone : w.pool.calls[n]? = none := by
        rw [List.getElem?_eq_none_iff] at hb ⊢
        omega
      rw [hnone]
      rfl
    · obtain ⟨report, hreport⟩ := hanswered (b, n) (List.mem_zipIdx_iff_getElem?.2 hb)
      obtain ⟨job, hcall⟩ := Pool.outcome?_eq_some.1 hreport
      have hjob : w.pool.jobs[n]? = some ⟨table, b⟩ := by
        rw [hjobs, List.getElem?_map, hb]
        rfl
      rw [Pool.jobs, List.getElem?_map, hcall] at hjob
      obtain rfl : job = ⟨table, b⟩ := Option.some.inj hjob
      simp [hcall, Call.stored, reportOf, hreport]
  rw [Pool.stored, List.flatMap_def, hcalls, ← List.flatMap_def]

namespace Retry

variable {σ : Type} {c : Client σ} {s : Schedule} {limits : BatchLimits} {table : TableName}
  {pace : Pace} {policy : Policy} {rows : List Row} {tokens : Option (List Writing)}
  {st : Stage (World σ)} {l : List (Stage (World σ))} {r : Except Failure Nat}
  {p : Paced (World σ)}

namespace Inserts

/-- The calls of all rounds are the batches, numbered as they were submitted. -/
lemma calls_eq (h : Inserts c s limits table pace policy rows tokens (st :: l) r p) :
    ((st :: l).flatMap fun a => (a.dispatch limits).calls) =
      ((st :: l).flatMap fun a => (a.dispatch limits).batches).zipIdx st.state.inner.pool.size := by
  generalize hl : st :: l = l' at h
  induction h generalizing st l with
  | last _ _ _ =>
      obtain ⟨rfl, rfl⟩ := List.cons.inj hl
      rw [List.flatMap_singleton, List.flatMap_singleton]
      rfl
  | @next a a' l r p _ hperforms hfollows _ ih =>
      obtain ⟨rfl, rfl⟩ := List.cons.inj hl
      obtain ⟨log, hinner⟩ := hfollows.leaves.inner_eq
      have hsize : a'.state.inner.pool.size =
          st.state.inner.pool.size + (st.dispatch limits).batches.length := by
        rw [hinner]
        simpa [Dispatch.jobs] using hperforms.pool.size_eq
      have hbatches : ((st :: a' :: l).flatMap fun a => (a.dispatch limits).batches) =
          (st.dispatch limits).batches ++ (a' :: l).flatMap fun a => (a.dispatch limits).batches := rfl
      rw [hbatches, List.zipIdx_append, List.flatMap_cons, ih rfl, hsize]
      rfl

/-- In a concluded insert, every batch was answered by a report. -/
lemma answered (h : Inserts c s limits table pace policy rows tokens (st :: l) r p)
    {failures : List RejectedRow} (hr : Concluded r failures) :
    ∀ a ∈ st :: l, (a.dispatch limits).Answered p.inner := by
  generalize hl : st :: l = l' at h
  induction h generalizing st l with
  | last _ _ hends =>
      obtain ⟨rfl, rfl⟩ := List.cons.inj hl
      rw [List.forall_mem_singleton]
      cases hends with
      | accepted hreplied _ => exact hreplied.answered
      | exhausted hreplied _ _ _ => exact hreplied.answered
      | waiting hreplied _ _ _ _ => exact hreplied.answered
      | interrupted _ _ => cases hr
      | failed _ => cases hr
      | refused hanswered _ _ => exact hanswered
  | @next a a' l r p hready hperforms hfollows hrest ih =>
      obtain ⟨rfl, rfl⟩ := List.cons.inj hl
      obtain ⟨js, hext⟩ := (Inserts.next hready hperforms hfollows hrest).passes.left_extends st (by simp)
      intro b hb
      rcases List.mem_cons.1 hb with rfl | hb
      · exact hfollows.replied.answered.extends hext
      · exact ih hr rfl b hb

/-- The rows that are given up are the caller's rows at their positions, which ascend. -/
lemma failures_picked (h : Inserts c s limits table pace policy rows tokens l r p)
    {failures : List RejectedRow} (hr : Concluded r failures) :
    Picks (failures.map RejectedRow.position) rows (failures.map RejectedRow.row) ∧
      (failures.map RejectedRow.position).Pairwise (· < ·) ∧
      ∀ n ∈ failures.map RejectedRow.position, Within rows.length n := by
  obtain ⟨last, hlast, hends⟩ := h.exists_last
  have hready := (h.ready last (List.mem_of_getLast? hlast)).1
  cases hends with
  | accepted _ _ =>
      cases hr
      simp
  | exhausted hreplied hsome hend hnext =>
      cases hr
      have hfits := Outcome.fits_naming last.rows last.tokens
        ((last.dispatch limits).entries (last.left c s limits table))
      rw [positions_givenUp hnext, rows_givenUp hnext]
      refine ⟨hready.tracks.rows_picked.trans hnext hfits.picks_rows, ?_, ?_⟩
      · refine hnext.pairwise_lt ?_ hready.ascending fun n hn => ?_
        · rw [Stage.outcome, Outcome.positions_naming]
          exact Outcome.pairwise_namedPositions _ _
        · rw [← hready.tracks.length_rows]
          exact hfits.within n hn
      · exact fun n hn => hready.tracks.within n (hnext.subset hn)
  | waiting _ _ _ _ _ => cases hr
  | interrupted _ _ => cases hr
  | failed _ => cases hr
  | refused _ _ hf =>
      cases hr
      rcases hf with ⟨cause, hf⟩ | hf <;> simp at hf

variable {p₀ : Paced (World σ)}

/-- If the pool was empty, it has the batches of the rounds, each of which was answered. -/
lemma answered_all
    (h : Inserts c s limits table pace policy rows tokens (firstStage rows tokens p₀ :: l) r p)
    (hempty : p₀.inner.pool.calls = []) {failures : List RejectedRow} (hr : Concluded r failures) :
    ∃ batches : List Batch, p.inner.pool.jobs = batches.map (Job.mk table) ∧
      ((firstStage rows tokens p₀ :: l).flatMap fun a => (a.dispatch limits).calls) =
        batches.zipIdx ∧ p.inner.Answered batches.zipIdx := by
  have hsize : (firstStage rows tokens p₀).state.inner.pool.size = 0 := by
    simp [firstStage, Pool.size, hempty]
  have hcalls := h.calls_eq
  rw [hsize] at hcalls
  refine ⟨_, ?_, hcalls, fun x hx => ?_⟩
  · rw [h.passes.pool.jobs_eq, Pool.jobs, show (firstStage rows tokens p₀).state = p₀ from rfl, hempty,
      List.map_flatMap]
    rfl
  · rw [← hcalls] at hx
    obtain ⟨a, ha, hx⟩ := List.mem_flatMap.1 hx
    exact h.answered hr a ha x hx

/-- If the pool was empty, no call of a concluded insert is left open. -/
lemma finished
    (h : Inserts c s limits table pace policy rows tokens (firstStage rows tokens p₀ :: l) r p)
    (hempty : p₀.inner.pool.calls = []) {failures : List RejectedRow} (hr : Concluded r failures)
    (n : Nat) : p.inner.pool.openJob? n = none := by
  obtain ⟨batches, hjobs, -, hanswered⟩ := h.answered_all hempty hr
  rcases hopen : p.inner.pool.openJob? n with _ | job
  · rfl
  · have hcall := Pool.openJob?_eq_some.1 hopen
    have hjob : (batches.map (Job.mk table))[n]? = some job := by
      rw [← hjobs, Pool.jobs, List.getElem?_map, hcall]
      rfl
    rw [List.getElem?_map, Option.map_eq_some_iff] at hjob
    obtain ⟨b, hb, -⟩ := hjob
    obtain ⟨report, hreport⟩ := hanswered (b, n) (List.mem_zipIdx_iff_getElem?.2 hb)
    rw [Pool.outcome?, hcall] at hreport
    simp at hreport

/-- The calls of a concluded insert, if there are no others, have stored the caller's rows, without
those that are given up. -/
theorem perm_stored
    (h : Inserts c s limits table pace policy rows tokens (firstStage rows tokens p₀ :: l) r p)
    (hsized : Sized rows) (hempty : p₀.inner.pool.calls = []) {failures : List RejectedRow}
    (hr : Concluded r failures) :
    p.inner.pool.stored.Perm (without rows (failures.map RejectedRow.position)) := by
  obtain ⟨batches, hjobs, hcalls, hanswered⟩ := h.answered_all hempty hr
  have hstored := stored_eq hjobs hanswered
  rw [← hcalls, List.flatMap_assoc] at hstored
  obtain ⟨hpicks, hascending, hwithin⟩ := h.failures_picked hr
  have hspared : (p.inner.pool.stored ++ failures.map RejectedRow.row).Perm rows := by
    rw [hstored]
    exact h.perm_spared hsized hr
  -- with the rows that are given up, both sides are the caller's rows
  refine (List.perm_append_right_iff (failures.map RejectedRow.row)).1 ?_
  exact hspared.trans ((List.perm_append_comm.trans
    (hpicks.perm_without hascending hwithin)).symm)

end Inserts

end Retry

end TableFeed
