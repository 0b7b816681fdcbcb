import TableFeed.Insert.Rows
import TableFeed.Proofs.Pool.Calls

/-!
# Steps of a load

Whatever a load does to its state between two points, it does in steps of three kinds: a call that
was submitted runs, a call is submitted, or something changes in which neither the remote store nor
the calls of the pool take part.  `World.Step` is one such step and `World.Reaches` any number of
them; an invariant is shown for a step and then holds wherever the load gets to.

Beside it stands `World.Grows`, which counts: it names the jobs that were submitted meanwhile and
the waits that began, and says that the operator was told of nothing but calls and rounds.
-/

namespace TableFeed

/-! ### What is told on the way -/

namespace Event

/-- An event that is told before an insert ends. -/
inductive IsMidway : Event → Prop where
  /-- The service rejected rows of a batch. -/
  | batchRejections (table : TableName) (batchRow : Int) (rows rejected : Nat) :
      IsMidway (.batchRejections table batchRow rows rejected)
  /-- The pool was started. -/
  | poolStarted (workers : Int) : IsMidway (.poolStarted workers)
  /-- The insert of a batch did not complete. -/
  | batchFailed (table : TableName) (batchRow : Int) (rows : Nat) (error : Writing)
      (errorClass : String) (abandoned : Nat) :
      IsMidway (.batchFailed table batchRow rows error errorClass abandoned)
  /-- A round begins. -/
  | roundStarted (table : TableName) (size : RoundSize) : IsMidway (.roundStarted table size)
  /-- A round of rejected rows begins. -/
  | roundRetrying (table : TableName) (size : RoundSize) : IsMidway (.roundRetrying table size)
  /-- Another attempt will follow. -/
  | retryScheduled (table : String) (attempt rows : Nat) (seconds : Float) :
      IsMidway (.retryScheduled table attempt rows seconds)

/-- A log to which only events were added that are told before an insert ends. -/
def Adds (log log' : List Event) : Prop := ∃ events, log' = log ++ events ∧ ∀ e ∈ events, e.IsMidway

namespace Adds

variable {log log' log'' : List Event}

lemma refl (log : List Event) : Adds log log := ⟨[], by simp, by simp⟩

lemma one {e : Event} (h : e.IsMidway) (log : List Event) : Adds log (log ++ [e]) :=
  ⟨[e], rfl, by simpa using h⟩

lemma trans (h : Adds log log') (h' : Adds log' log'') : Adds log log'' := by
  obtain ⟨events, rfl, hevents⟩ := h
  obtain ⟨events', rfl, hevents'⟩ := h'
  exact ⟨events ++ events', List.append_assoc _ _ _, fun e he =>
    (List.mem_append.1 he).elim (hevents e) (hevents' e)⟩

end Adds

end Event

namespace World

variable {σ : Type} {c : Client σ} {table : TableName} {w w' w'' : World σ}

/-- The remote store and the ending of a call, if it runs now. -/
def answerTo (c : Client σ) (job : Job) (w : World σ) : Ending × σ :=
  (c.insert job.table job.batch).run w.remote

/-- A call that has finished is passed over. -/
lemma runCall_of_finished {n : Nat} (h : w.pool.openJob? n = none) : runCall c n w = w := by
  unfold runCall
  rw [h]

/-- A call that runs is answered by the client, and its answer is kept. -/
lemma runCall_of_open {n : Nat} {job : Job} (h : w.pool.openJob? n = some job) :
    ∃ log, runCall c n w = { w with
      remote := (answerTo c job w).2
      pool := w.pool.finish n (answerTo c job w).1
      log := log } ∧ Event.Adds w.log log := by
  unfold runCall
  rw [h]
  rcases hanswer : (c.insert job.table job.batch).run w.remote with ⟨answer | report, st⟩
  · have hrun : (insert c job.table job.batch).run w = (.error answer, { w with remote := st }) :=
      Action.run_bind_of_error (by simp [remotely, hanswer])
    exact ⟨w.log, by simp [hrun, answerTo, hanswer], .refl _⟩
  · have hremote : (remotely (c.insert job.table job.batch)).run w =
        (.ok report, { w with remote := st }) := by simp [remotely, hanswer]
    -- a client that announces rejected rows adds to the log
    have hrun : ∃ log, (insert c job.table job.batch).run w =
        (.ok report, { w with remote := st, log := log }) ∧ Event.Adds w.log log := by
      unfold insert
      rw [Action.run_bind_of_ok hremote]
      dsimp only
      split
      · exact ⟨_, rfl, .one (.batchRejections _ _ _ _) _⟩
      · exact ⟨w.log, rfl, .refl _⟩
    obtain ⟨log, hrun, hadds⟩ := hrun
    exact ⟨log, by simp [hrun, answerTo, hanswer], hadds⟩

/-! ### Steps -/

/-- One step of a load into a table. -/
inductive Step (c : Client σ) (table : TableName) : World σ → World σ → Prop where
  /-- A call runs, if it has not finished. -/
  | call (n : Nat) (w : World σ) : Step c table w (runCall c n w)
  /-- A call is submitted. -/
  | submit (b : Batch) (w : World σ) (hopen : w.pool.closed = false) :
      Step c table w { w with pool := w.pool.submitted ⟨table, b⟩ }
  /-- Something else changes. -/
  | aside (w w' : World σ) (hremote : w'.remote = w.remote)
      (hcalls : w'.pool.calls = w.pool.calls) : Step c table w w'

/-- No job is forgotten. -/
lemma Step.jobs_subset (h : Step c table w w') : w.pool.jobs ⊆ w'.pool.jobs := by
  cases h with
  | call n =>
      rcases hopen : w.pool.openJob? n with _ | job
      · rw [runCall_of_finished hopen]
        exact List.Subset.refl _
      · obtain ⟨log, hrun, -⟩ := runCall_of_open (c := c) hopen
        simp [hrun]
  | submit b _ => simp
  | aside _ _ _ hcalls =>
      rw [Pool.jobs, Pool.jobs, hcalls]
      exact List.Subset.refl _

/-- What a load gets to in any number of steps. -/
abbrev Reaches (c : Client σ) (table : TableName) : World σ → World σ → Prop :=
  Relation.ReflTransGen (Step c table)

lemma Reaches.aside (hremote : w'.remote = w.remote) (hcalls : w'.pool.calls = w.pool.calls) :
    Reaches c table w w' :=
  .single (.aside w w' hremote hcalls)

lemma Reaches.runCalls (calls : List Nat) (w : World σ) :
    Reaches c table w (runCalls c calls w) := by
  induction calls generalizing w with
  | nil => exact .refl
  | cons n rest ih => exact .head (.call n w) (ih _)

/-- What every step keeps holds wherever a load gets to. -/
lemma Reaches.keeps {I : World σ → Prop} (hstep : ∀ w w', Step c table w w' → I w → I w')
    (h : Reaches c table w w') (hw : I w) : I w' := by
  induction h with
  | refl => exact hw
  | tail _ hlast ih => exact hstep _ _ hlast ih

/-- How the client ends calls, at whatever state of the remote store they run. -/
def Client.Ends (c : Client σ) (P : Job → Ending → Prop) : Prop :=
  ∀ job st, P job ((c.insert job.table job.batch).run st).1

/-- If the client ends calls only in some ways, then so have the calls of the pool ended. -/
lemma Reaches.endsAs {P : Job → Ending → Prop} (hc : Client.Ends c P) {base : Nat}
    (h : Reaches c table w w') (hw : w.pool.EndsAs P base) : w'.pool.EndsAs P base := by
  refine h.keeps (I := fun w => w.pool.EndsAs P base) ?_ hw
  intro w w' hstep hw
  -- only a call that runs adds an ending, and that one is the client's
  cases hstep with
  | call n =>
      rcases hopen : w.pool.openJob? n with _ | job
      · rwa [runCall_of_finished hopen]
      · obtain ⟨log, hrun, -⟩ := runCall_of_open (c := c) hopen
        rw [hrun]
        exact hw.finish hopen (hc job w.remote)
  | submit b => exact hw.submitted _
  | aside _ _ _ hcalls => exact fun n job e hn hcall => hw n job e hn (hcalls ▸ hcall)

/-! ### Jobs and waits -/

/-- Some jobs were submitted, some waits began, and calls may have finished. -/
structure Grows (js : List Job) (k : Nat) (w w' : World σ) : Prop where
  pool : w.pool.Extends js w'.pool
  waits_eq : w'.waits = w.waits + k
  tally_eq : w'.tally = w.tally
  adds : Event.Adds w.log w'.log

namespace Grows

variable {js js' : List Job} {k k' : Nat}

lemma refl (w : World σ) : Grows [] 0 w w := ⟨.refl _, rfl, rfl, .refl _⟩

lemma trans (h : Grows js k w w') (h' : Grows js' k' w' w'') : Grows (js ++ js') (k + k') w w'' :=
  ⟨h.pool.trans h'.pool, by rw [h'.waits_eq, h.waits_eq, Nat.add_assoc],
    h'.tally_eq.trans h.tally_eq, h.adds.trans h'.adds⟩

lemma runCall (n : Nat) (w : World σ) : Grows [] 0 w (runCall c n w) := by
  rcases hopen : w.pool.openJob? n with _ | job
  · rw [runCall_of_finished hopen]
    exact .refl w
  · obtain ⟨log, hrun, hadds⟩ := runCall_of_open (c := c) hopen
    rw [hrun]
    exact ⟨.finish _ _ _, rfl, rfl, hadds⟩

lemma runCalls (calls : List Nat) (w : World σ) : Grows [] 0 w (runCalls c calls w) := by
  induction calls generalizing w with
  | nil => exact .refl w
  | cons n rest ih => exact (runCall n w).trans (ih _)

end Grows

/-- A call that was run has finished. -/
lemma finished_runCall {n : Nat} (hn : n < w.pool.size) :
    ((runCall c n w).pool.outcome? n).isSome := by
  rcases hopen : w.pool.openJob? n with _ | job
  · rw [runCall_of_finished hopen, ← Option.ne_none_iff_isSome]
    intro hnone
    simpa [hopen] using Pool.isSome_openJob? hn hnone
  · obtain ⟨log, hrun, -⟩ := runCall_of_open (c := c) hopen
    rw [hrun]
    simp [Pool.outcome?_finish_self hopen]

/-- All calls that were run have finished. -/
lemma finished_runCalls {calls : List Nat} (hcalls : ∀ n ∈ calls, n < w.pool.size) :
    ∀ n ∈ calls, ((runCalls c calls w).pool.outcome? n).isSome := by
  induction calls generalizing w with
  | nil => simp
  | cons m rest ih =>
      have hsize : (runCall c m w).pool.size = w.pool.size := by
        simpa using (Grows.runCall (c := c) m w).pool.size_eq
      intro n hn
      rcases List.mem_cons.1 hn with rfl | hn
      · -- it finishes first, and what has finished stays so
        obtain ⟨e, he⟩ := Option.isSome_iff_exists.1
          (finished_runCall (c := c) (hcalls n (by simp)))
        have hkept := (Grows.runCalls (c := c) rest (runCall c n w)).pool.outcome_kept n e he
        exact Option.isSome_iff_exists.2 ⟨e, hkept⟩
      · exact ih (fun n hn => hsize ▸ hcalls n (by simp [hn])) n hn

/-! ### A client without a store -/

/-- A client that answers the insert of a batch by a report on it, whatever was inserted before. -/
def Client.answering (answer : Batch → List Rejection) : Client Unit where
  insert _ b := pure (some (answer b))
  get name := pure ⟨name, none, []⟩
  delete _ := pure ()
  create name schema := pure ⟨name, schema, []⟩
  first _ := pure none
  announces := false

lemma Client.ends_answering (answer : Batch → List Rejection) :
    Client.Ends (Client.answering answer) fun job e => e = .ok (some (answer job.batch)) :=
  fun _ _ => rfl

/-- A schedule in which a call runs only when it is waited for. -/
def idle : Schedule where
  onSubmit _ _ := []
  onWait _ _ := []
  interrupts _ := false
  duringWait _ _ := []
  onSleep _ := []

/-- A state in which nothing has happened yet. -/
def fresh (remote : σ) : Paced (World σ) :=
  { inner := { remote := remote, pool := ⟨2, 1, false, false, []⟩ } }

end World

end TableFeed
