import TableFeed.Pool.Ticking
import TableFeed.Proofs.Pool.Drained

/-!
# The life of a pool

A pool is started, takes calls and is drained, in any order and any number of times, and its calls
finish at once, at a later tick or never.  `Ticking.Operation` lists what may be done to it.

An operation keeps two things.  Every call is accounted for (`Accounted`): a drain waits for the
calls that have not finished and for no other, and a call that has finished has run once and holds
its own ending.  And no call is late (`Punctual`).  What an operation changes beside that is the
structure `Performs`.

The main results are:

* `Ticking.perform_performs`: every operation keeps the calls accounted for and punctual, opens and
  closes the pool as it should, and announces the start of the pool if it starts it;
* `Ticking.lives`: what any sequence of operations has made of a new pool.
-/

namespace TableFeed

/-- How a call with a job has ended by a tick, if it has finished. -/
def TimedJob.endingAt {α : Type} (job : TimedJob α) (tick : Nat) : Option α :=
  if job.due.any (· ≤ tick) then some job.ending else none

lemma TimedJob.due_of_le {α : Type} {job : TimedJob α} {tick tick' : Nat} (hle : tick ≤ tick')
    (h : job.due.any (· ≤ tick) = true) : job.due.any (· ≤ tick') = true := by
  rw [Option.any_eq_true] at h ⊢
  obtain ⟨due, hdue, hle'⟩ := h
  exact ⟨due, hdue, by simpa using (of_decide_eq_true hle').trans hle⟩

namespace Ticking

variable {α : Type} {t t' t'' : Ticking α} {aside : Nat → Prop}

/-! ### Finishing the calls that are due -/

/-- Every call is accounted for.  The calls that are `aside` are not awaited yet. -/
structure Accounted (aside : Nat → Prop) (t : Ticking α) : Prop where
  nodup_awaited : t.awaited.Nodup
  mem_awaited : ∀ n, n ∈ t.awaited ↔ (t.pool.openJob? n).isSome = true ∧ ¬ aside n
  nodup_ran : t.ran.Nodup
  mem_ran : ∀ n, n ∈ t.ran ↔ (t.pool.outcome? n).isSome = true
  own : t.pool.EndsAs (fun job e => e = job.ending ∧ job.due.any (· ≤ t.ticks) = true) 0

/-- No call that is due is left unfinished. -/
def Punctual (t : Ticking α) : Prop :=
  ∀ n job, t.pool.openJob? n = some job → job.due.any (· ≤ t.ticks) = false

/-- A later state, before which nothing was done to the pool: time has passed and calls have run. -/
structure Idles (t t' : Ticking α) : Prop where
  pool : Pool.Extends [] t.pool t'.pool
  started_eq : t'.pool.started = t.pool.started
  workers_eq : t'.pool.workers = t.pool.workers
  ticks_le : t.ticks ≤ t'.ticks
  log_eq : t'.log = t.log

namespace Idles

lemma refl (t : Ticking α) : Idles t t := ⟨.refl _, rfl, rfl, le_rfl, rfl⟩

lemma trans (h : Idles t t') (h' : Idles t' t'') : Idles t t'' where
  pool := by simpa using h.pool.trans h'.pool
  started_eq := h'.started_eq.trans h.started_eq
  workers_eq := h'.workers_eq.trans h.workers_eq
  ticks_le := h.ticks_le.trans h'.ticks_le
  log_eq := h'.log_eq.trans h.log_eq

end Idles

/-- What one call that finishes, or does not, leaves as it was. -/
lemma settleCall_cases (t : Ticking α) (n : Nat) :
    (∃ job, t.pool.openJob? n = some job ∧ job.due.any (· ≤ t.ticks) = true ∧
        t.settleCall n = t.finish n job.ending) ∨
      (t.settleCall n = t ∧
        ∀ job, t.pool.openJob? n = some job → job.due.any (· ≤ t.ticks) = false) := by
  unfold settleCall
  rcases hopen : t.pool.openJob? n with _ | job
  · exact .inr ⟨rfl, by simp⟩
  · cases hdue : job.due.any (· ≤ t.ticks) with
    | true => exact .inl ⟨job, rfl, hdue, by simp [hdue]⟩
    | false => exact .inr ⟨by simp [hdue], by simpa using hdue⟩

lemma idles_settleCall (t : Ticking α) (n : Nat) : Idles t (t.settleCall n) := by
  obtain ⟨job, -, -, heq⟩ | ⟨heq, -⟩ := settleCall_cases t n
  · rw [heq]
    exact ⟨.finish _ _ _, rfl, rfl, le_rfl, rfl⟩
  · rw [heq]
    exact .refl t

@[simp] lemma ticks_settleCall (t : Ticking α) (n : Nat) : (t.settleCall n).ticks = t.ticks := by
  obtain ⟨job, -, -, heq⟩ | ⟨heq, -⟩ := settleCall_cases t n <;> rw [heq]
  rfl

/-- A call that finishes leaves the set of those that are awaited and joins those that have run. -/
lemma Accounted.finish (h : Accounted aside t) {n : Nat} {job : TimedJob α}
    (hopen : t.pool.openJob? n = some job) (hdue : job.due.any (· ≤ t.ticks) = true) :
    Accounted aside (t.finish n job.ending) where
  nodup_awaited := h.nodup_awaited.filter _
  mem_awaited m := by
    simp only [Ticking.finish, release, List.mem_filter, h.mem_awaited, Pool.openJob?_finish]
    by_cases hm : m = n
    · simp [hm]
    · simp [hm, Ne.symm hm]
  nodup_ran := by
    have hn : n ∉ t.ran := by
      rw [h.mem_ran]
      rw [Pool.openJob?_eq_some] at hopen
      simp [Pool.outcome?, hopen]
    exact h.nodup_ran.append (List.nodup_singleton n) (by simpa using hn)
  mem_ran m := by
    simp only [Ticking.finish, release, List.mem_append, List.mem_singleton, h.mem_ran,
      Pool.outcome?_finish hopen]
    by_cases hm : m = n
    · simp [hm]
    · simp [hm, Ne.symm hm]
  own := h.own.finish hopen ⟨rfl, hdue⟩

lemma Accounted.settleCall (h : Accounted aside t) (n : Nat) :
    Accounted aside (t.settleCall n) := by
  obtain ⟨job, hopen, hdue, heq⟩ | ⟨heq, -⟩ := settleCall_cases t n
  · rw [heq]
    exact h.finish hopen hdue
  · rw [heq]
    exact h

/-- A call that was not open stays so while calls finish. -/
lemma openJob?_settleCall {n m : Nat} {job : TimedJob α}
    (h : (t.settleCall n).pool.openJob? m = some job) : t.pool.openJob? m = some job := by
  obtain ⟨job', -, -, heq⟩ | ⟨heq, -⟩ := settleCall_cases t n
  · rw [heq, Ticking.finish, release, Pool.openJob?_finish] at h
    split at h
    · simp at h
    · exact h
  · rwa [heq] at h

/-- After its turn, a call is open only if it is not due. -/
lemma not_due_settleCall {n : Nat} {job : TimedJob α}
    (h : (t.settleCall n).pool.openJob? n = some job) : job.due.any (· ≤ t.ticks) = false := by
  obtain ⟨job', -, -, heq⟩ | ⟨-, hdue⟩ := settleCall_cases t n
  · simp [heq, Ticking.finish, release, Pool.openJob?_finish] at h
  · exact hdue job (openJob?_settleCall h)

/-- What calls that have their turns one after the other keep, and that none of them is left open
if it is due. -/
lemma foldl_settleCall (ns : List Nat) (h : Accounted aside t) :
    Accounted aside (ns.foldl Ticking.settleCall t) ∧ Idles t (ns.foldl Ticking.settleCall t) ∧
      (ns.foldl Ticking.settleCall t).ticks = t.ticks ∧
      ∀ n job, (ns.foldl Ticking.settleCall t).pool.openJob? n = some job →
        t.pool.openJob? n = some job ∧ (n ∈ ns → job.due.any (· ≤ t.ticks) = false) := by
  induction ns generalizing t with
  | nil => exact ⟨h, .refl t, rfl, fun n job hopen => ⟨hopen, by simp⟩⟩
  | cons m rest ih =>
      obtain ⟨haccounted, hidles, hticks, hopen⟩ := ih (h.settleCall m)
      refine ⟨haccounted, (idles_settleCall t m).trans hidles, by simpa using hticks, ?_⟩
      intro n job hjob
      obtain ⟨hstays, hdue⟩ := hopen n job hjob
      refine ⟨openJob?_settleCall hstays, fun hn => ?_⟩
      rcases List.mem_cons.1 hn with rfl | hn
      · exact not_due_settleCall hstays
      · simpa using hdue hn

/-- Once the calls that are due have finished, none is late. -/
lemma settle_run (h : Accounted aside t) :
    Accounted aside t.settle ∧ Idles t t.settle ∧ t.settle.ticks = t.ticks ∧ t.settle.Punctual := by
  obtain ⟨haccounted, hidles, hticks, hopen⟩ := foldl_settleCall t.pool.unfinished h
  refine ⟨haccounted, hidles, hticks, fun n job hjob => ?_⟩
  obtain ⟨hopen, hdue⟩ := hopen n job hjob
  have hdue := hdue (Pool.mem_unfinished.2 (by simp [hopen]))
  rwa [show t.settle.ticks = t.ticks from hticks]

/-! ### What every operation keeps -/

/-- Every call is accounted for and awaited until it has finished, and none is late. -/
structure Steady (t : Ticking α) : Prop where
  accounted : Accounted (fun _ => False) t
  punctual : t.Punctual

/-- A call has ended the way its job says once it is due, and is open before. -/
lemma Steady.outcome_eq (h : t.Steady) {n : Nat} {call : Call (TimedJob α) α}
    (hcall : t.pool.calls[n]? = some call) : call.outcome = call.job.endingAt t.ticks := by
  obtain ⟨job, _ | e⟩ := call
  · have hdue := h.punctual n job (Pool.openJob?_eq_some.2 hcall)
    simp [TimedJob.endingAt, hdue]
  · obtain ⟨rfl, hdue⟩ := h.accounted.own n job e (Nat.zero_le n) hcall
    simp [TimedJob.endingAt, hdue]

/-- A tick, in which calls finish. -/
lemma pass_run (h : t.Steady) (clock : Float) :
    (t.pass clock).Steady ∧ Idles t (t.pass clock) := by
  have haccounted : Accounted (fun _ => False) { t with clock := clock, ticks := t.ticks + 1 } :=
    { h.accounted with
      own := fun n job e hn hcall =>
        (h.accounted.own n job e hn hcall).imp_right (TimedJob.due_of_le (Nat.le_succ _)) }
  have hpasses : Idles t { t with clock := clock, ticks := t.ticks + 1 } :=
    ⟨.refl _, rfl, rfl, Nat.le_succ _, rfl⟩
  obtain ⟨hafter, hidles, -, hpunctual⟩ := settle_run haccounted
  exact ⟨⟨hafter, hpunctual⟩, hpasses.trans hidles⟩

/-- A drain closes the pool and then waits. -/
lemma drain_run (h : t.Steady) (timeout : Option Float) :
    ∃ done t' events, (drain timeout).run t = (.ok done, t'.update t'.pool events) ∧ t'.Steady ∧
      Idles { t with pool := t.pool.close } t' ∧
      ∀ e ∈ events, e = .poolDrained ∨ ∃ n seconds, e = .poolAbandoned n seconds := by
  have hclosed : Steady { t with pool := t.pool.close } :=
    ⟨{ h.accounted with own := h.accounted.own }, h.punctual⟩
  have hwaits := waiting.drain_keeps_of_closed
    (I := fun x : Ticking α => x.Steady ∧ Idles { t with pool := t.pool.close } x)
    (fun x hx => ⟨(pass_run hx.1 _).1, hx.2.trans (pass_run hx.1 _).2⟩) timeout
    ⟨hclosed, Idles.refl _⟩
  have htells := waiting.drain_tells timeout t
  generalize hdrain : waiting.drain timeout t = x at hwaits htells
  obtain ⟨done, events, t'⟩ := x
  refine ⟨done, t', events, ?_, hwaits.1, hwaits.2, htells⟩
  simp only [drain, Action.run, hdrain]

@[simp] lemma pool_await (t : Ticking α) (n : Nat) : (t.await n).pool = t.pool := by
  unfold await
  dsimp only
  split <;> rfl

/-- A call that was submitted is awaited if it has not finished meanwhile. -/
lemma Accounted.await {n : Nat} (h : Accounted (· = n) t) (hn : n < t.pool.size) :
    Accounted (fun _ => False) (t.await n) := by
  have hnew : n ∉ t.awaited := fun hmem => ((h.mem_awaited n).1 hmem).2 rfl
  have hnodup : (t.awaited ++ [n]).Nodup :=
    h.nodup_awaited.append (List.nodup_singleton n) (by simpa using hnew)
  rcases hout : t.pool.outcome? n with _ | e
  · have heq : t.await n = { t with awaited := t.awaited ++ [n] } := by simp [Ticking.await, hout]
    have hopen := Pool.isSome_openJob? hn hout
    rw [heq]
    refine { h with nodup_awaited := hnodup, mem_awaited := fun m => ?_ }
    by_cases hm : m = n
    · simp [hm, hopen]
    · simp [hm, h.mem_awaited]
  · have heq : t.await n = { t with awaited := t.awaited ++ [n] }.release n := by
      simp [Ticking.await, hout]
    have hclosed : t.pool.openJob? n = none := by
      obtain ⟨job, hcall⟩ := Pool.outcome?_eq_some.1 hout
      simp [Pool.openJob?, hcall]
    rw [heq]
    refine { h with nodup_awaited := hnodup.filter _, mem_awaited := fun m => ?_ }
    by_cases hm : m = n
    · simp [release, hm, hclosed]
    · simp [release, hm, h.mem_awaited]

@[simp] lemma ticks_await (t : Ticking α) (n : Nat) : (t.await n).ticks = t.ticks := by
  unfold await
  dsimp only
  split <;> rfl

@[simp] lemma log_await (t : Ticking α) (n : Nat) : (t.await n).log = t.log := by
  unfold await
  dsimp only
  split <;> rfl

lemma idles_await (t : Ticking α) (n : Nat) : Idles t (t.await n) where
  pool := by simpa using .refl _
  started_eq := by simp
  workers_eq := by simp
  ticks_le := by simp
  log_eq := by simp

lemma Punctual.await (h : t.Punctual) (n : Nat) : (t.await n).Punctual := by
  intro m job hopen
  rw [pool_await] at hopen
  rw [ticks_await]
  exact h m job hopen

/-- A call that was submitted is accounted for, but not awaited yet. -/
lemma Accounted.submitted (h : Accounted (fun _ => False) t) (job : TimedJob α)
    (events : List Event) :
    Accounted (· = t.pool.size) (t.update (t.pool.submitted job) events) where
  nodup_awaited := h.nodup_awaited
  mem_awaited n := by
    show n ∈ t.awaited ↔ ((t.pool.submitted job).openJob? n).isSome = true ∧ ¬ n = t.pool.size
    rw [h.mem_awaited, Pool.openJob?_submitted]
    by_cases hn : n = t.pool.size
    · simp [hn, Pool.openJob?_size]
    · simp [hn]
  nodup_ran := h.nodup_ran
  mem_ran n := by
    show n ∈ t.ran ↔ ((t.pool.submitted job).outcome? n).isSome = true
    rw [h.mem_ran, Pool.outcome?_submitted]
  own := h.own.submitted job

/-- A call that is submitted may finish at once, before a drain would wait for it. -/
lemma submit_run_of_not_closed (hclosed : t.pool.closed = false) (ending : α)
    (delay : Option Nat) :
    ∃ done, (submit ending delay).run t = (.ok done,
      (t.update (t.pool.submitted ⟨ending, delay.map (t.ticks + ·)⟩)
        t.pool.announcement).settle.await t.pool.size) := by
  rw [Action.run, submit, Pool.submit_of_not_closed hclosed]
  exact ⟨_, rfl⟩

/-- A pool that is not closed takes a call, which is awaited unless it finishes at once. -/
lemma submit_run (h : t.Steady) (hclosed : t.pool.closed = false) (ending : α)
    (delay : Option Nat) :
    ∃ done t', (submit ending delay).run t = (.ok done, t') ∧ t'.Steady ∧
      Idles (t.update (t.pool.submitted ⟨ending, delay.map (t.ticks + ·)⟩) t.pool.announcement)
        t' := by
  generalize hjob : TimedJob.mk ending (delay.map (t.ticks + ·)) = job
  obtain ⟨hafter, hidles, hticks, hpunctual⟩ :=
    settle_run (h.accounted.submitted job t.pool.announcement)
  have hsize : t.pool.size <
      (t.update (t.pool.submitted job) t.pool.announcement).settle.pool.size := by
    rw [hidles.pool.size_eq]
    simp [update]
  obtain ⟨done, hrun⟩ := submit_run_of_not_closed hclosed ending delay
  rw [hjob] at hrun
  exact ⟨done, _, hrun, ⟨hafter.await hsize, hpunctual.await _⟩, hidles.trans (idles_await _ _)⟩

/-- A pool that is not closed starts. -/
lemma start_run (hclosed : t.pool.closed = false) :
    start.run t = (.ok (), t.update { t.pool with started := true } t.pool.announcement) := by
  rw [Action.run, start, Pool.start_of_not_closed hclosed]

/-! ### Operations -/

variable (α) in
/-- What may be done to a pool on a clock. -/
inductive Operation where
  /-- The pool is started. -/
  | start
  /-- A call is submitted that ends in a given way after a number of ticks, or never. -/
  | submit (ending : α) (delay : Option Nat)
  /-- The pool is drained. -/
  | drain (timeout : Option Float)
  /-- A block of which the pool is the context begins. -/
  | enter
  /-- A block of which the pool is the context ends. -/
  | exit
  /-- Time passes. -/
  | tick (seconds : Float)

namespace Operation

/-- Whether an operation needs a pool that is not closed. -/
def opens : Operation α → Bool
  | start | submit .. | enter => true
  | _ => false

/-- Whether an operation closes the pool. -/
def closes : Operation α → Bool
  | drain _ | exit => true
  | _ => false

/-- How the call ends that an operation submits. -/
def ending? : Operation α → Option α
  | submit ending _ => some ending
  | _ => none

/-- The job of the call that an operation submits at a tick. -/
def job? (tick : Nat) : Operation α → Option (TimedJob α)
  | submit ending delay => some ⟨ending, delay.map (tick + ·)⟩
  | _ => none

@[simp] lemma map_ending_job? (tick : Nat) (op : Operation α) :
    (op.job? tick).toList.map TimedJob.ending = op.ending?.toList := by
  cases op <;> rfl

lemma opens_of_closes {op : Operation α} (h : op.closes = true) : op.opens = false := by
  cases op <;> first | rfl | simp [closes] at h

lemma ending?_of_closes {op : Operation α} (h : op.closes = true) : op.ending? = none := by
  cases op <;> first | rfl | simp [closes] at h

end Operation

/-- Carries out an operation.  The answer of a submission says whether the call has finished, and
that of a drain whether all calls have. -/
def perform : Operation α → Action (Ticking α) (Option Bool)
  | .start | .enter => do Ticking.start; return none
  | .submit ending delay => do return some (← Ticking.submit ending delay)
  | .drain timeout => do return some (← Ticking.drain timeout)
  | .exit => do discard (Ticking.drain none); return none
  | .tick seconds => do modify (Ticking.tick seconds); return none

/-- What a log says of the start of the pool. -/
def starts (log : List Event) : List Event :=
  log.filter fun e => e.name = "inserter_runtime_started"

@[simp] lemma starts_append (log log' : List Event) :
    starts (log ++ log') = starts log ++ starts log' := by
  simp [starts]

@[simp] lemma starts_announcement (p : Pool (TimedJob α) α) :
    starts p.announcement = p.announcement := by
  unfold Pool.announcement
  split <;> simp [starts, Event.name]

/-- What an operation has made of a state. -/
structure Performs (op : Operation α) (t t' : Ticking α) : Prop where
  jobs_eq : t'.pool.jobs =
    t.pool.jobs ++ if t.pool.closed then [] else (op.job? t.ticks).toList
  outcome_kept : ∀ n e, t.pool.outcome? n = some e → t'.pool.outcome? n = some e
  closed_eq : t'.pool.closed = (t.pool.closed || op.closes)
  started_eq : t'.pool.started = (t.pool.started || (!t.pool.closed && op.opens))
  workers_eq : t'.pool.workers = t.pool.workers
  ticks_le : t.ticks ≤ t'.ticks
  starts_eq : starts t'.log = starts t.log ++ if t'.pool.started then t.pool.announcement else []

namespace Performs

variable {op : Operation α}

/-- Time that passes after an operation changes nothing of what the operation did. -/
lemma idles (h : Performs op t t') (hidles : Idles t' t'') : Performs op t t'' where
  jobs_eq := by rw [hidles.pool.jobs_eq, List.append_nil, h.jobs_eq]
  outcome_kept n e hn := hidles.pool.outcome_kept n e (h.outcome_kept n e hn)
  closed_eq := hidles.pool.closed_eq.trans h.closed_eq
  started_eq := hidles.started_eq.trans h.started_eq
  workers_eq := hidles.workers_eq.trans h.workers_eq
  ticks_le := h.ticks_le.trans hidles.ticks_le
  starts_eq := by rw [hidles.log_eq, hidles.started_eq, h.starts_eq]

/-- An operation that is refused changes nothing. -/
lemma of_refused (hclosed : t.pool.closed = true) : Performs op t t where
  jobs_eq := by simp [hclosed]
  outcome_kept _ _ hn := hn
  closed_eq := by simp [hclosed]
  started_eq := by simp [hclosed]
  workers_eq := rfl
  ticks_le := le_rfl
  starts_eq := by simp

lemma of_none (hop : op.opens = false) (hjob : op.job? t.ticks = none)
    (hcloses : op.closes = false) : Performs op t t where
  jobs_eq := by simp [hjob]
  outcome_kept _ _ hn := hn
  closed_eq := by simp [hcloses]
  started_eq := by simp [hop]
  workers_eq := rfl
  ticks_le := le_rfl
  starts_eq := by simp

lemma of_start (hop : op.opens = true) (hjob : op.job? t.ticks = none)
    (hcloses : op.closes = false) (hclosed : t.pool.closed = false) :
    Performs op t (t.update { t.pool with started := true } t.pool.announcement) where
  jobs_eq := by simp [hjob, update, Pool.jobs]
  outcome_kept _ _ hn := hn
  closed_eq := by simp [hcloses, update]
  started_eq := by simp [hop, hclosed, update]
  workers_eq := rfl
  ticks_le := le_rfl
  starts_eq := by simp [update]

lemma of_submit {job : TimedJob α} (hop : op.opens = true) (hjob : op.job? t.ticks = some job)
    (hcloses : op.closes = false) (hclosed : t.pool.closed = false) :
    Performs op t (t.update (t.pool.submitted job) t.pool.announcement) where
  jobs_eq := by simp [hjob, hclosed, update]
  outcome_kept n _ hn := (Pool.outcome?_submitted _ _ n).trans hn
  closed_eq := by simp [hcloses, update]
  started_eq := by simp [hop, hclosed, update, Pool.submitted]
  workers_eq := rfl
  ticks_le := le_rfl
  starts_eq := by simp [update, Pool.submitted]

lemma of_close (hop : op.opens = false) (hjob : op.job? t.ticks = none)
    (hcloses : op.closes = true) : Performs op t { t with pool := t.pool.close } where
  jobs_eq := by simp [hjob, Pool.close, Pool.jobs]
  outcome_kept _ _ hn := hn
  closed_eq := by simp [hcloses, Pool.close]
  started_eq := by simp [hop, Pool.close]
  workers_eq := rfl
  ticks_le := le_rfl
  starts_eq := by
    show starts t.log = starts t.log ++ if t.pool.started then t.pool.announcement else []
    simp

end Performs

/-- After the pool is closed, it refuses to start and takes no call. -/
theorem perform_run_of_closed (h : t.pool.closed = true) {op : Operation α}
    (hop : op.opens = true) : (perform op).run t = (.error .drained, t) := by
  have hstart : Ticking.start.run t = (.error .drained, t) := by
    rw [Action.run, Ticking.start, Pool.start_of_closed h]
  cases op with
  | start => exact Action.run_bind_of_error hstart
  | enter => exact Action.run_bind_of_error hstart
  | submit ending delay =>
      refine Action.run_bind_of_error ?_
      rw [Action.run, Ticking.submit, Pool.submit_of_closed h]
  | drain timeout => simp [Operation.opens] at hop
  | exit => simp [Operation.opens] at hop
  | tick seconds => simp [Operation.opens] at hop

lemma Steady.update (h : t.Steady) (p : Pool (TimedJob α) α) (hcalls : p.calls = t.pool.calls)
    (events : List Event) : (t.update p events).Steady := by
  obtain ⟨workers, drainTimeout, started, closed, calls⟩ := p
  subst hcalls
  exact ⟨{ h.accounted with own := h.accounted.own }, h.punctual⟩

/-- What a drain has done, whatever it tells the operator. -/
lemma drain_performs (h : t.Steady) (op : Operation α) (hop : op.opens = false)
    (hjob : op.job? t.ticks = none) (hcloses : op.closes = true) (timeout : Option Float) :
    ∃ done t', (drain timeout).run t = (.ok done, t') ∧ t'.Steady ∧ Performs op t t' := by
  obtain ⟨done, t', events, hrun, hsteady, hidles, hevents⟩ := drain_run h timeout
  have hstarts : starts events = [] := by
    refine List.filter_eq_nil_iff.2 fun e he => ?_
    obtain rfl | ⟨n, seconds, rfl⟩ := hevents e he <;> simp [Event.name]
  have hperforms := (Performs.of_close hop hjob hcloses).idles hidles
  refine ⟨done, _, hrun, hsteady.update _ rfl events, { hperforms with starts_eq := ?_ }⟩
  show starts (t'.log ++ events) = _
  rw [starts_append, hstarts, List.append_nil]
  exact hperforms.starts_eq

/-- An operation for which it is not too late succeeds, and keeps the calls accounted for. -/
theorem perform_performs (h : t.Steady) (op : Operation α)
    (hop : t.pool.closed = false ∨ op.opens = false) :
    ∃ answer t', (perform op).run t = (.ok answer, t') ∧ t'.Steady ∧ Performs op t t' := by
  cases op with
  | start =>
      have hclosed := hop.resolve_right (by simp [Operation.opens])
      exact ⟨none, _, Action.run_bind_of_ok (start_run hclosed),
        h.update { t.pool with started := true } rfl _, .of_start rfl rfl rfl hclosed⟩
  | enter =>
      have hclosed := hop.resolve_right (by simp [Operation.opens])
      exact ⟨none, _, Action.run_bind_of_ok (start_run hclosed),
        h.update { t.pool with started := true } rfl _, .of_start rfl rfl rfl hclosed⟩
  | submit ending delay =>
      have hclosed := hop.resolve_right (by simp [Operation.opens])
      obtain ⟨done, t', hrun, hsteady, hidles⟩ := submit_run h hclosed ending delay
      exact ⟨some done, t', Action.run_bind_of_ok hrun, hsteady,
        (Performs.of_submit rfl rfl rfl hclosed).idles hidles⟩
  | drain timeout =>
      obtain ⟨done, t', hrun, hsteady, hperforms⟩ :=
        drain_performs h (.drain timeout) rfl rfl rfl timeout
      exact ⟨some done, t', Action.run_bind_of_ok hrun, hsteady, hperforms⟩
  | exit =>
      obtain ⟨done, t', hrun, hsteady, hperforms⟩ := drain_performs h .exit rfl rfl rfl none
      refine ⟨none, t', Action.run_bind_of_ok (a := ()) ?_, hsteady, hperforms⟩
      rw [Action.run_discard, hrun]
      rfl
  | tick seconds =>
      obtain ⟨hsteady, hidles⟩ := pass_run h (t.clock + seconds)
      exact ⟨none, _, rfl, hsteady, (Performs.of_none rfl rfl rfl).idles hidles⟩

/-- Every operation keeps the calls accounted for, also one that is refused. -/
lemma perform_keeps (h : t.Steady) (op : Operation α) :
    ((perform op).run t).2.Steady ∧ Performs op t ((perform op).run t).2 := by
  by_cases hop : t.pool.closed = false ∨ op.opens = false
  · obtain ⟨answer, t', hrun, hsteady, hperforms⟩ := perform_performs h op hop
    rw [hrun]
    exact ⟨hsteady, hperforms⟩
  · simp only [not_or, Bool.not_eq_false] at hop
    rw [perform_run_of_closed hop.1 hop.2]
    exact ⟨h, .of_refused hop.1⟩

/-! ### Sequences of operations -/

/-- The state after operations that are carried out one after the other, whatever the answers. -/
def after (ops : List (Operation α)) (t : Ticking α) : Ticking α :=
  ops.foldl (fun t op => ((perform op).run t).2) t

lemma after_cons (op : Operation α) (ops : List (Operation α)) (t : Ticking α) :
    after (op :: ops) t = after ops ((perform op).run t).2 := rfl

lemma after_append (ops later : List (Operation α)) (t : Ticking α) :
    after (ops ++ later) t = after later (after ops t) := List.foldl_append

/-- A later state of a pool. -/
structure Later (t t' : Ticking α) : Prop where
  started_kept : t.pool.started = true → t'.pool.started = true
  closed_kept : t.pool.closed = true → t'.pool.closed = true
  jobs_kept : t.pool.jobs <+: t'.pool.jobs
  outcome_kept : ∀ n e, t.pool.outcome? n = some e → t'.pool.outcome? n = some e
  workers_eq : t'.pool.workers = t.pool.workers

namespace Later

lemma refl (t : Ticking α) : Later t t :=
  ⟨id, id, List.prefix_refl _, fun _ _ h => h, rfl⟩

lemma trans (h : Later t t') (h' : Later t' t'') : Later t t'' where
  started_kept hs := h'.started_kept (h.started_kept hs)
  closed_kept hc := h'.closed_kept (h.closed_kept hc)
  jobs_kept := h.jobs_kept.trans h'.jobs_kept
  outcome_kept n e hn := h'.outcome_kept n e (h.outcome_kept n e hn)
  workers_eq := h'.workers_eq.trans h.workers_eq

end Later

lemma Performs.later {op : Operation α} (h : Performs op t t') : Later t t' where
  started_kept hs := by rw [h.started_eq, hs, Bool.true_or]
  closed_kept hc := by rw [h.closed_eq, hc, Bool.true_or]
  jobs_kept := by
    rw [h.jobs_eq]
    exact List.prefix_append _ _
  outcome_kept := h.outcome_kept
  workers_eq := h.workers_eq

lemma after_keeps (ops : List (Operation α)) (h : t.Steady) :
    (after ops t).Steady ∧ Later t (after ops t) := by
  induction ops generalizing t with
  | nil => exact ⟨h, .refl t⟩
  | cons op rest ih =>
      obtain ⟨hsteady, hperforms⟩ := perform_keeps h op
      obtain ⟨hafter, hlater⟩ := ih hsteady
      exact ⟨hafter, hperforms.later.trans hlater⟩

/-- A pool is closed by the first operation that closes it. -/
lemma closed_after (ops : List (Operation α)) (h : t.Steady) :
    (after ops t).pool.closed = (t.pool.closed || ops.any Operation.closes) := by
  induction ops generalizing t with
  | nil => simp [after]
  | cons op rest ih =>
      obtain ⟨hsteady, hperforms⟩ := perform_keeps h op
      rw [after_cons, ih hsteady, hperforms.closed_eq, List.any_cons, Bool.or_assoc]

/-- A pool is started by an operation that needs it, unless it is closed before. -/
lemma started_after (ops : List (Operation α)) (h : t.Steady) :
    (after ops t).pool.started = (t.pool.started ||
      (!t.pool.closed && (ops.takeWhile fun op => !op.closes).any Operation.opens)) := by
  induction ops generalizing t with
  | nil => simp [after]
  | cons op rest ih =>
      obtain ⟨hsteady, hperforms⟩ := perform_keeps h op
      rw [after_cons, ih hsteady, hperforms.started_eq, hperforms.closed_eq, List.takeWhile_cons]
      cases hcloses : op.closes with
      | true => simp [Operation.opens_of_closes hcloses]
      | false => cases t.pool.closed <;> simp [Bool.or_assoc]

/-- The calls of a pool are those that were submitted before it was closed, in that order. -/
lemma endings_after (ops : List (Operation α)) (h : t.Steady) :
    (after ops t).pool.jobs.map TimedJob.ending = t.pool.jobs.map TimedJob.ending ++
      if t.pool.closed then []
      else (ops.takeWhile fun op => !op.closes).filterMap Operation.ending? := by
  induction ops generalizing t with
  | nil => simp [after]
  | cons op rest ih =>
      obtain ⟨hsteady, hperforms⟩ := perform_keeps h op
      rw [after_cons, ih hsteady, hperforms.jobs_eq, hperforms.closed_eq, List.takeWhile_cons]
      cases hclosed : t.pool.closed with
      | true => simp
      | false =>
          cases hcloses : op.closes with
          | true => simp [Operation.ending?_of_closes hcloses]
          | false => cases hending : op.ending? <;> simp [hending]

/-- The operator is told once that the pool starts. -/
lemma starts_after (ops : List (Operation α)) (h : t.Steady) :
    starts (after ops t).log =
      starts t.log ++ if (after ops t).pool.started then t.pool.announcement else [] := by
  induction ops generalizing t with
  | nil =>
      show starts t.log = starts t.log ++ if t.pool.started then t.pool.announcement else []
      simp
  | cons op rest ih =>
      obtain ⟨hsteady, hperforms⟩ := perform_keeps h op
      have hlater := (after_keeps rest hsteady).2
      rw [after_cons, ih hsteady, hperforms.starts_eq, List.append_assoc]
      congr 1
      -- The operation either starts the pool, after which there is nothing more to announce, or
      -- leaves it to a later one.
      cases hstarted : ((perform op).run t).2.pool.started with
      | true => simp [Pool.announcement, hstarted, hlater.started_kept hstarted]
      | false =>
          have hbefore : t.pool.started = false := by
            cases hs : t.pool.started with
            | false => rfl
            | true => exact absurd (hperforms.later.started_kept hs) (by simp [hstarted])
          simp [Pool.announcement, hstarted, hbefore, hperforms.workers_eq]

/-- A call that is submitted to a pool that is not closed is there at every later time, open until
it is due and with its own ending from then on. -/
lemma taken_after (h : t.Steady) (hclosed : t.pool.closed = false) (ending : α)
    (delay : Option Nat) (later : List (Operation α)) :
    (∃ done, ((perform (.submit ending delay)).run t).1 = .ok (some done)) ∧
      ∃ job, job = ⟨ending, delay.map (t.ticks + ·)⟩ ∧
        (after (.submit ending delay :: later) t).pool.calls[t.pool.size]? =
          some ⟨job, job.endingAt (after (.submit ending delay :: later) t).ticks⟩ := by
  obtain ⟨done, t', hrun, hsteady, hidles⟩ := submit_run h hclosed ending delay
  have hperform : (perform (.submit ending delay)).run t = (.ok (some done), t') :=
    Action.run_bind_of_ok hrun
  refine ⟨⟨done, by rw [hperform]⟩, _, rfl, ?_⟩
  rw [after_cons, hperform]
  obtain ⟨hafter, hlater⟩ := after_keeps later hsteady
  generalize after later t' = q at hafter hlater
  generalize TimedJob.mk ending (delay.map (t.ticks + ·)) = job at hidles
  have hjob : t'.pool.jobs[t.pool.size]? = some job := by
    rw [hidles.pool.jobs_eq, List.append_nil]
    simp [update, ← Pool.length_jobs]
  have hjob : q.pool.jobs[t.pool.size]? = some job := by
    obtain ⟨js, hjs⟩ := hlater.jobs_kept
    rw [← hjs, List.getElem?_append_left (List.getElem?_eq_some_iff.1 hjob).1, hjob]
  obtain ⟨call, hcall, rfl⟩ : ∃ call, q.pool.calls[t.pool.size]? = some call ∧ call.job = job := by
    simpa [Pool.jobs] using hjob
  rw [hcall, ← hafter.outcome_eq hcall]

/-- What a sequence of operations has made of a new pool.  It is the state `after ops t`. -/
structure Life (workers : Int) (t : Ticking α) (ops : List (Operation α)) : Prop where
  closed_eq : (after ops t).pool.closed = ops.any Operation.closes
  started_eq : (after ops t).pool.started =
    (ops.takeWhile fun op => !op.closes).any Operation.opens
  stays : ∀ later, Later (after ops t) (after (ops ++ later) t)
  announced : starts (after ops t).log =
    if (after ops t).pool.started then [.poolStarted workers] else []
  refuses : (after ops t).pool.closed = true → ∀ op : Operation α, op.opens = true →
    ∃ f, f.className = "RuntimeError" ∧ (perform op).run (after ops t) = (.error f, after ops t)
  takes : ∀ before ending delay later, ops = before ++ .submit ending delay :: later →
    before.any Operation.closes = false →
    (∃ done, ((perform (.submit ending delay)).run (after before t)).1 = .ok (some done)) ∧
      ∃ job, job = ⟨ending, delay.map ((after before t).ticks + ·)⟩ ∧
        (after ops t).pool.calls[(after before t).pool.size]? =
          some ⟨job, job.endingAt (after ops t).ticks⟩
  endings_eq : (after ops t).pool.jobs.map TimedJob.ending =
    (ops.takeWhile fun op => !op.closes).filterMap Operation.ending?
  nodup_awaited : (after ops t).awaited.Nodup
  mem_awaited : ∀ n, n ∈ (after ops t).awaited ↔
    n < (after ops t).pool.size ∧ (after ops t).pool.outcome? n = none
  nodup_ran : (after ops t).ran.Nodup
  mem_ran : ∀ n, n ∈ (after ops t).ran ↔ ((after ops t).pool.outcome? n).isSome = true

/-- A new pool has no calls. -/
lemma steady_new (workers : Int) (timeout : Float) (wake : Nat → Float → Float) :
    Steady ({ pool := ⟨workers, timeout, false, false, []⟩, wake := wake } : Ticking α) where
  accounted :=
    { nodup_awaited := List.nodup_nil
      mem_awaited := fun n => by simp [Pool.openJob?]
      nodup_ran := List.nodup_nil
      mem_ran := fun n => by simp [Pool.outcome?]
      own := fun n job e _ hcall => by simp at hcall }
  punctual := fun n job hopen => by simp [Pool.openJob?] at hopen

/-- Whatever is done to a new pool, whenever its calls finish and however time passes, the pool
starts at most once and says so, takes calls until it is closed and none after that, waits for the
calls that have not finished and for no other, and keeps for each call its own ending. -/
theorem lives (workers : Int) (timeout : Float) (hworkers : 1 ≤ workers) :
    ∃ pool, Pool.make workers timeout = .ok pool ∧
      ∀ (wake : Nat → Float → Float) (ops : List (Operation α)),
        Life workers { pool := pool, wake := wake } ops := by
  refine ⟨⟨workers, timeout, false, false, []⟩, ?_, fun wake ops => ?_⟩
  · rw [Pool.make, if_neg (by omega)]
  set t : Ticking α := { pool := ⟨workers, timeout, false, false, []⟩, wake := wake }
  have hnew : t.Steady := steady_new workers timeout wake
  have hsteady : (after ops t).Steady := (after_keeps ops hnew).1
  exact {
    closed_eq := by simpa [t] using closed_after ops hnew
    started_eq := by simpa [t] using started_after ops hnew
    stays := fun later => by
      rw [after_append]
      exact (after_keeps later hsteady).2
    announced := by simpa [t, starts, Pool.announcement] using starts_after ops hnew
    refuses := fun hclosed op hop => ⟨_, rfl, perform_run_of_closed hclosed hop⟩
    takes := fun before ending delay later hops hbefore => by
      have hclosed : (after before t).pool.closed = false := by
        simpa [t, hbefore] using closed_after before hnew
      rw [hops, after_append]
      exact taken_after (after_keeps before hnew).1 hclosed ending delay later
    endings_eq := by simpa [t, Pool.jobs] using endings_after ops hnew
    nodup_awaited := hsteady.accounted.nodup_awaited
    mem_awaited := fun n => by
      rw [hsteady.accounted.mem_awaited, Pool.isSome_openJob?_iff]
      simp
    nodup_ran := hsteady.accounted.nodup_ran
    mem_ran := hsteady.accounted.mem_ran }

/-- A pool of two workers that is left after one call and one tick. -/
theorem lives_exit : ∃ pool, Pool.make 2 10 = .ok pool ∧
    let ops : List (Operation Nat) := [.submit 7 (some 1), .tick 0.5, .exit, .submit 8 none]
    let t := after ops { pool := pool }
    t.pool.started = true ∧ t.pool.closed = true ∧ starts t.log = [.poolStarted 2] ∧
      t.pool.jobs.map TimedJob.ending = [7] := by
  obtain ⟨pool, hpool, hlives⟩ := lives (α := Nat) 2 10 (by decide)
  have h := hlives (fun _ now => now + sleepSeconds)
    [.submit 7 (some 1), .tick 0.5, .exit, .submit 8 none]
  have hstarted := h.started_eq.trans (show _ = true by rfl)
  have hannounced := h.announced
  rw [hstarted] at hannounced
  exact ⟨pool, hpool, hstarted, h.closed_eq.trans rfl, hannounced, h.endings_eq.trans rfl⟩

end Ticking

end TableFeed
