import TableFeed.Proofs.Pool.Lifecycle

/-!
# How long a drain waits

A drain looks at the clock and at the calls, sleeps, and looks again.  It goes on only while a call
has not finished and the time is not up, so it sleeps the least number of times after which one of
the two fails.  Which of them it is does not decide the answer: the calls are counted after the last
sleep, and a call that finishes in the sleep that uses up the time has finished.

How many calls are left after a number of sleeps and what the clock shows then is known beforehand
(`Ticking.openAfter`, `Ticking.clockAfter`), since a call finishes in the sleep at the end of which
it is due and what the clock shows after a sleep is given (`Ticking.wake`).

The main results are

* `stepWhile_eq_some_iff`: steps that are taken while a condition holds end in the first state in
  which it does not;
* `Ticking.drain_waits`: what a drain answers, tells and leaves behind, whatever was done to the pool
  before.
-/

namespace TableFeed

/-! ### Steps while a condition holds -/

section Steps

variable {ω : Type} {going : ω → Bool} {step : ω → ω} {w w' : ω}

/-- As long as the condition holds, a step may as well have been taken before. -/
lemma stepWhile_iterate (n : Nat) (h : ∀ m < n, going (step^[m] w) = true) :
    stepWhile going step w = stepWhile going step (step^[n] w) := by
  induction n generalizing w with
  | zero => rfl
  | succ n ih =>
      have hgoes : going w = true := h 0 (Nat.succ_pos n)
      have hlater : ∀ m < n, going (step^[m] (step w)) = true :=
        fun m hm => h (m + 1) (Nat.succ_lt_succ hm)
      rw [stepWhile_eq, if_pos hgoes, ih hlater, Function.iterate_succ_apply]

/-- The steps come to an end in the first state in which the condition does not hold, and only
there. -/
lemma stepWhile_eq_some_iff :
    stepWhile going step w = some w' ↔
      ∃ n, IsLeast {n | going (step^[n] w) = false} n ∧ step^[n] w = w' := by
  constructor
  · refine stepWhile_induction
      (motive := fun w w' => ∃ n, IsLeast {n | going (step^[n] w) = false} n ∧ step^[n] w = w')
      (fun w hstops => ⟨0, ⟨hstops, fun m _ => Nat.zero_le m⟩, rfl⟩) ?_
    rintro w w' hgoes ⟨n, ⟨hstops, hleast⟩, hw'⟩
    refine ⟨n + 1, ⟨hstops, fun m hm => ?_⟩, hw'⟩
    cases m with
    | zero => exact absurd (hgoes.symm.trans hm) (by simp)
    | succ m => exact Nat.succ_le_succ (hleast hm)
  · rintro ⟨n, ⟨hstops, hleast⟩, rfl⟩
    have hgoes : ∀ m < n, going (step^[m] w) = true := by
      intro m hm
      by_contra h
      exact absurd (hleast (Bool.eq_false_of_not_eq_true h)) (Nat.not_le.2 hm)
    have hstops : ¬ going (step^[n] w) = true := by simpa using hstops
    rw [stepWhile_iterate n hgoes, stepWhile_eq, if_neg hstops]

/-- The steps come to an end if the condition fails at all. -/
lemma isSome_stepWhile_iff :
    (stepWhile going step w).isSome = true ↔ ∃ n, going (step^[n] w) = false := by
  rw [Option.isSome_iff_exists]
  constructor
  · rintro ⟨w', h⟩
    obtain ⟨n, ⟨hstops, -⟩, -⟩ := stepWhile_eq_some_iff.1 h
    exact ⟨n, hstops⟩
  · intro h
    exact ⟨_, stepWhile_eq_some_iff.2 ⟨Nat.find h, ⟨Nat.find_spec h, fun m hm => Nat.find_min' h hm⟩,
      rfl⟩⟩

end Steps

namespace Waiting

variable {ω κ α : Type} (v : Waiting ω κ α) (timeout : Option Float) {w w' : ω}

/-- A pool that was never started is drained at once. -/
lemma drain_of_not_started (h : (v.pool (v.setPool (v.pool w).close w)).started = false) :
    v.drain timeout w = (true, [], v.setPool (v.pool w).close w) := by
  rw [drain]
  simp [h]

/-- Where a drain ends, it counts the calls once more. -/
lemma drain_of_ends {seconds : Float}
    (hstarted : (v.pool (v.setPool (v.pool w).close w)).started = true)
    (hseconds : timeout.getD (v.pool (v.setPool (v.pool w).close w)).drainTimeout = seconds)
    (hends : stepWhile (v.going (v.clock (v.setPool (v.pool w).close w) + seconds)) v.sleep
      (v.setPool (v.pool w).close w) = some w') :
    v.drain timeout w = (decide (v.pending w' = 0),
      [if v.pending w' = 0 then .poolDrained else .poolAbandoned (v.pending w') seconds], w') := by
  subst hseconds
  rw [drain]
  simp only [hstarted, Bool.not_true, Bool.false_eq_true, if_false, hends, Option.getD_some]
  by_cases hpending : v.pending w' = 0 <;> simp [hpending]

end Waiting

/-! ### Counting the calls that are open -/

namespace Pool

variable {κ α : Type} {p : Pool κ α}

lemma nodup_unfinished : p.unfinished.Nodup := by
  have hnumbers : (p.calls.zipIdx.map Prod.snd).Nodup := by
    rw [List.zipIdx_map_snd]
    exact List.nodup_range'
  exact hnumbers.sublist (List.filter_sublist.map _)

lemma length_unfinished : p.unfinished.length = p.pending := by
  have hcalls : p.calls = p.calls.zipIdx.map Prod.fst := (List.zipIdx_map_fst 0 p.calls).symm
  rw [unfinished, List.length_map, ← List.countP_eq_length_filter, pending]
  conv_rhs => rw [hcalls, List.countP_map]
  rfl

end Pool

namespace Ticking

variable {α : Type} {t : Ticking α}

/-- The calls that a drain waits for are those that have not finished. -/
lemma Steady.length_awaited (h : t.Steady) : t.awaited.length = t.pool.pending := by
  have hperm : t.awaited.Perm t.pool.unfinished := by
    refine (List.perm_ext_iff_of_nodup h.accounted.nodup_awaited Pool.nodup_unfinished).2 fun n => ?_
    rw [h.accounted.mem_awaited, Pool.mem_unfinished]
    simp
  rw [hperm.length_eq, Pool.length_unfinished]

/-- The calls that have not finished are those that are not due. -/
lemma Steady.pending_eq (h : t.Steady) :
    t.pool.pending = t.pool.jobs.countP fun job => !job.due.any (· ≤ t.ticks) := by
  rw [Pool.pending, Pool.jobs, List.countP_map]
  refine List.countP_congr fun call hcall => ?_
  obtain ⟨n, hn⟩ := List.mem_iff_getElem?.1 hcall
  rw [h.outcome_eq hn, TimedJob.endingAt]
  cases hdue : call.job.due.any (· ≤ t.ticks) <;> simp [hdue]

/-! ### The sleeps of a drain -/

/-- How many calls have not finished `n` sleeps from now: those that are not due by then. -/
def openAfter (t : Ticking α) (n : Nat) : Nat :=
  t.pool.jobs.countP fun job => !job.due.any (· ≤ t.ticks + n)

/-- What the clock shows `n` sleeps from now. -/
def clockAfter (t : Ticking α) : Nat → Float
  | 0 => t.clock
  | n + 1 => t.wake (t.ticks + n) (t.clockAfter n)

/-- `n` sleeps from now there is nothing to wait for: no call is left, or the time is up that a drain
has which begins now. -/
def Over (seconds : Float) (t : Ticking α) (n : Nat) : Prop :=
  t.openAfter n = 0 ∨ ¬ t.clockAfter n < t.clock + seconds

instance (seconds : Float) (t : Ticking α) (n : Nat) : Decidable (t.Over seconds n) :=
  inferInstanceAs (Decidable (_ ∨ _))

/-- What does not change when one call finishes does not change when several do. -/
lemma settle_keeps {β : Type} (f : Ticking α → β) (hf : ∀ t n e, f (finish n e t) = f t)
    (t : Ticking α) : f t.settle = f t := by
  have hfold : ∀ (ns : List Nat) (x : Ticking α), f (ns.foldl settleCall x) = f x := by
    intro ns
    induction ns with
    | nil => exact fun x => rfl
    | cons n rest ih =>
        intro x
        rw [List.foldl_cons, ih]
        obtain ⟨job, -, -, heq⟩ | ⟨heq, -⟩ := settleCall_cases x n
        · rw [heq, hf]
        · rw [heq]
  exact hfold _ t

/-- What a number of sleeps has made of a state. -/
structure Slept (t : Ticking α) (n : Nat) (t' : Ticking α) : Prop where
  steady : t'.Steady
  idles : Idles t t'
  ticks_eq : t'.ticks = t.ticks + n
  wake_eq : t'.wake = t.wake
  clock_eq : t'.clock = t.clockAfter n

namespace Slept

variable {t' : Ticking α} {n : Nat}

lemma zero (h : t.Steady) : Slept t 0 t := ⟨h, .refl t, rfl, rfl, rfl⟩

/-- One more sleep. -/
lemma succ (h : Slept t n t') : Slept t (n + 1) (waiting.sleep t') := by
  obtain ⟨hsteady, hidles⟩ := pass_run h.steady (t'.wake t'.ticks t'.clock)
  have hticks : (waiting.sleep t').ticks = t'.ticks + 1 :=
    settle_keeps Ticking.ticks (fun _ _ _ => rfl) _
  have hwake : (waiting.sleep t').wake = t'.wake := settle_keeps Ticking.wake (fun _ _ _ => rfl) _
  have hclock : (waiting.sleep t').clock = t'.wake t'.ticks t'.clock :=
    settle_keeps Ticking.clock (fun _ _ _ => rfl) _
  refine ⟨hsteady, h.idles.trans hidles, ?_, hwake.trans h.wake_eq, ?_⟩
  · rw [hticks, h.ticks_eq]
    rfl
  · rw [hclock, h.wake_eq, h.ticks_eq, h.clock_eq, clockAfter]

lemma iterate (h : t.Steady) (n : Nat) : Slept t n (waiting.sleep^[n] t) := by
  induction n with
  | zero => exact .zero h
  | succ n ih =>
      rw [Function.iterate_succ_apply']
      exact ih.succ

/-- The calls that are left are those that are not due. -/
lemma pending_eq (h : Slept t n t') : t'.pool.pending = t.openAfter n := by
  have hjobs : t'.pool.jobs = t.pool.jobs := by simpa using h.idles.pool.jobs_eq
  rw [h.steady.pending_eq, openAfter, hjobs, h.ticks_eq]

/-- A drain stops where there is nothing to wait for. -/
lemma going_eq_false_iff (h : Slept t n t') (seconds : Float) :
    waiting.going (t.clock + seconds) t' = false ↔ t.Over seconds n := by
  have hpending : waiting.pending t' = t.openAfter n := h.steady.length_awaited.trans h.pending_eq
  have hclock : waiting.clock t' = t.clockAfter n := h.clock_eq
  rw [Waiting.going, hpending, hclock, Over]
  by_cases hup : t.clockAfter n < t.clock + seconds <;> simp [hup]

end Slept

/-! ### Drains -/

/-- What a drain of a pool that was started has made of it, and has told, after `n` sleeps. -/
structure Drained (seconds : Float) (t : Ticking α) (n : Nat) (t' : Ticking α) : Prop where
  jobs_eq : t'.pool.jobs = t.pool.jobs
  outcome_eq : ∀ call ∈ t'.pool.calls, call.outcome = call.job.endingAt (t.ticks + n)
  closed_eq : t'.pool.closed = true
  ticks_eq : t'.ticks = t.ticks + n
  clock_eq : t'.clock = t.clockAfter n
  pending_eq : t'.pool.pending = t.openAfter n
  log_eq : t'.log = t.log ++
    [if t.openAfter n = 0 then .poolDrained else .poolAbandoned (t.openAfter n) seconds]

/-- The state with its pool closed. -/
def close (t : Ticking α) : Ticking α := { t with pool := t.pool.close }

lemma Steady.close (h : t.Steady) : t.close.Steady :=
  ⟨{ h.accounted with own := h.accounted.own }, h.punctual⟩

/-- How a drain with a timeout goes, if it waits for a number of seconds at most. -/
structure Waits (timeout : Option Float) (seconds : Float) (t : Ticking α) : Prop where
  /-- A pool that was never started is drained at once. -/
  unstarted : t.pool.started = false → (drain timeout).run t = (.ok true, t.close)
  /-- After every number of sleeps the calls that have not finished are those that are not due. -/
  slept : ∀ n, (waiting.sleep^[n] t.close).pool.pending = t.openAfter n ∧
    (waiting.sleep^[n] t.close).clock = t.clockAfter n
  /-- The wait comes to an end if there is nothing to wait for at some time. -/
  returns_iff :
    (stepWhile (waiting.going (t.clock + seconds)) waiting.sleep t.close).isSome = true ↔
      ∃ n, t.Over seconds n
  /-- It lasts until then and no longer, and the answer is whether no call is left. -/
  drained : t.pool.started = true → ∀ n, IsLeast {n | t.Over seconds n} n →
    ∃ t', (drain timeout).run t = (.ok (decide (t.openAfter n = 0)), t') ∧ t.Drained seconds n t'

/-- Closing the pool changes nothing of what is waited for. -/
lemma clockAfter_close (t : Ticking α) (n : Nat) : t.close.clockAfter n = t.clockAfter n := by
  induction n with
  | zero => rfl
  | succ n ih => exact congrArg (t.wake (t.ticks + n)) ih

lemma over_close {seconds : Float} {n : Nat} : t.close.Over seconds n ↔ t.Over seconds n := by
  rw [Over, Over, clockAfter_close]
  rfl

lemma drain_run_of_eq {timeout : Option Float} {done : Bool} {events : List Event}
    {t' : Ticking α} (h : waiting.drain timeout t = (done, events, t')) :
    (drain timeout).run t = (.ok done, t'.update t'.pool events) := by
  simp only [drain, Action.run, h]

/-- A drain sleeps until there is nothing to wait for. -/
lemma Steady.waits (h : t.Steady) (timeout : Option Float) :
    t.Waits timeout (timeout.getD t.pool.drainTimeout) := by
  have hslept : ∀ n, Slept t.close n (waiting.sleep^[n] t.close) := Slept.iterate h.close
  have hclock : ∀ n, (waiting.sleep^[n] t.close).clock = t.clockAfter n := fun n =>
    (hslept n).clock_eq.trans (t.clockAfter_close n)
  have hover : ∀ seconds n, waiting.going (t.clock + seconds) (waiting.sleep^[n] t.close) = false ↔
      t.Over seconds n := fun seconds n => ((hslept n).going_eq_false_iff seconds).trans over_close
  refine ⟨fun hstarted => ?_, fun n => ⟨(hslept n).pending_eq, hclock n⟩, ?_,
    fun hstarted n hn => ?_⟩
  · rw [drain_run_of_eq (waiting.drain_of_not_started timeout hstarted)]
    simp [Ticking.update, waiting, Ticking.close]
  · rw [isSome_stepWhile_iff]
    exact exists_congr (hover _)
  · generalize hseconds : timeout.getD t.pool.drainTimeout = seconds at hn ⊢
    have hleast : IsLeast {n | waiting.going (t.clock + seconds) (waiting.sleep^[n] t.close) = false}
        n := by
      simpa only [hover] using hn
    have hends := stepWhile_eq_some_iff.2 ⟨n, hleast, rfl⟩
    have hdrain := waiting.drain_of_ends timeout hstarted hseconds hends
    have hslept := hslept n
    have hclock := hclock n
    generalize waiting.sleep^[n] t.close = t' at hslept hends hdrain hclock
    have hpending : waiting.pending t' = t.openAfter n :=
      hslept.steady.length_awaited.trans hslept.pending_eq
    rw [hpending] at hdrain
    refine ⟨_, drain_run_of_eq hdrain, ?_⟩
    exact {
      jobs_eq := hslept.idles.pool.jobs_eq.trans (List.append_nil _)
      outcome_eq := fun call hcall => by
        obtain ⟨m, hm⟩ := List.mem_iff_getElem?.1 hcall
        rw [hslept.steady.outcome_eq hm, hslept.ticks_eq]
        rfl
      closed_eq := hslept.idles.pool.closed_eq
      ticks_eq := hslept.ticks_eq
      clock_eq := hclock
      pending_eq := hslept.pending_eq
      log_eq := by
        show t'.log ++ _ = t.log ++ _
        rw [hslept.idles.log_eq]
        rfl }

/-! ### Pools in use -/

lemma drainTimeout_settle (t : Ticking α) :
    t.settle.pool.drainTimeout = t.pool.drainTimeout :=
  settle_keeps (fun t => t.pool.drainTimeout) (fun _ _ _ => rfl) t

/-- A drain does not change how long later ones may take. -/
lemma drainTimeout_drain (timeout : Option Float) (t : Ticking α) :
    ((drain timeout).run t).2.pool.drainTimeout = t.pool.drainTimeout := by
  have hsleep : ∀ x : Ticking α, x.pool.drainTimeout = t.pool.drainTimeout →
      (waiting.sleep x).pool.drainTimeout = t.pool.drainTimeout :=
    fun x hx => (drainTimeout_settle _).trans hx
  exact waiting.drain_keeps_of_closed (I := fun x => x.pool.drainTimeout = t.pool.drainTimeout)
    hsleep timeout rfl

/-- No operation changes how long a drain may take by default. -/
lemma drainTimeout_perform (op : Operation α) (t : Ticking α) :
    ((perform op).run t).2.pool.drainTimeout = t.pool.drainTimeout := by
  by_cases hrefused : t.pool.closed = true ∧ op.opens = true
  · rw [perform_run_of_closed hrefused.1 hrefused.2]
  have hopen : op.opens = true → t.pool.closed = false :=
    fun hop => Bool.eq_false_of_not_eq_true fun hclosed => hrefused ⟨hclosed, hop⟩
  cases op with
  | start => rw [perform, Action.run_bind_of_ok (start_run (hopen rfl))]; rfl
  | enter => rw [perform, Action.run_bind_of_ok (start_run (hopen rfl))]; rfl
  | submit ending delay =>
      obtain ⟨done, hrun⟩ := submit_run_of_not_closed (hopen rfl) ending delay
      rw [perform, Action.run_bind_of_ok hrun]
      show (Ticking.await _ _).pool.drainTimeout = _
      rw [pool_await, drainTimeout_settle]
      rfl
  | drain timeout =>
      have hdrain : (drain timeout).run t = (.ok (waiting.drain timeout t).1, _) := rfl
      rw [perform, Action.run_bind_of_ok hdrain]
      exact drainTimeout_drain timeout t
  | exit =>
      have hdrain : (discard (drain none) : Action (Ticking α) Unit).run t = (.ok (), _) := rfl
      rw [perform, Action.run_bind_of_ok hdrain]
      exact drainTimeout_drain none t
  | tick seconds => exact drainTimeout_settle _

lemma drainTimeout_after (ops : List (Operation α)) (t : Ticking α) :
    (after ops t).pool.drainTimeout = t.pool.drainTimeout := by
  induction ops generalizing t with
  | nil => rfl
  | cons op rest ih => rw [after_cons, ih, drainTimeout_perform]

/-- Whatever was done to a new pool and however time passes, a drain sleeps until no call is left or
its time is up, and no longer, and its answer and what it tells the operator are about the calls that
are left then. -/
theorem drain_waits (workers : Int) (drainTimeout : Float) (hworkers : 1 ≤ workers) :
    ∃ pool, Pool.make workers drainTimeout = .ok pool ∧
      ∀ (wake : Nat → Float → Float) (ops : List (Operation α)) (timeout : Option Float),
        (after ops { pool := pool, wake := wake }).Waits timeout (timeout.getD drainTimeout) := by
  refine ⟨⟨workers, drainTimeout, false, false, []⟩, ?_, fun wake ops timeout => ?_⟩
  · rw [Pool.make, if_neg (by omega)]
  · have hsteady := (after_keeps ops (steady_new (α := α) workers drainTimeout wake)).1
    have hwaits := hsteady.waits timeout
    rwa [drainTimeout_after] at hwaits

/-- Two sleeps use up a tenth of a second.  A call that finishes in the second one has finished in time,
and one that never finishes is left behind. -/
theorem drain_waits_two_sleeps : ∃ pool, Pool.make 2 10 = .ok pool ∧
    (∃ t', (drain (some 0.1)).run (after [.submit 7 (some 2)] ({ pool := pool } : Ticking Nat)) =
      (.ok true, t') ∧ t'.ticks = 2 ∧ t'.log = [.poolStarted 2, .poolDrained]) ∧
    ∃ t', (drain (some 0.1)).run (after [.submit 7 none] ({ pool := pool } : Ticking Nat)) =
      (.ok false, t') ∧ t'.ticks = 2 ∧ t'.log = [.poolStarted 2, .poolAbandoned 1 0.1] := by
  obtain ⟨pool, hpool, hwaits⟩ := drain_waits (α := Nat) 2 10 (by decide)
  obtain rfl : pool = ⟨2, 10, false, false, []⟩ := (Except.ok.inj hpool).symm
  have hleast : ∀ t : Ticking Nat, ¬ t.Over 0.1 0 → ¬ t.Over 0.1 1 → t.Over 0.1 2 →
      IsLeast {n | t.Over 0.1 n} 2 := by
    intro t hzero hone htwo
    refine ⟨htwo, fun n hn => ?_⟩
    by_contra hlt
    obtain rfl | rfl : n = 0 ∨ n = 1 := by omega
    · exact hzero hn
    · exact hone hn
  have hwaits := hwaits fun _ now => now + sleepSeconds
  obtain ⟨t₁, hrun₁, hdrained₁⟩ := (hwaits [.submit 7 (some 2)] (some 0.1)).drained rfl 2
    (hleast _ (by decide) (by decide) (by decide))
  obtain ⟨t₂, hrun₂, hdrained₂⟩ := (hwaits [.submit 7 none] (some 0.1)).drained rfl 2
    (hleast _ (by decide) (by decide) (by decide))
  exact ⟨_, hpool, ⟨t₁, hrun₁, hdrained₁.ticks_eq, hdrained₁.log_eq⟩, t₂, hrun₂, hdrained₂.ticks_eq,
    hdrained₂.log_eq⟩

end Ticking

end TableFeed
