import TableFeed.Insert.Upload
import TableFeed.Proofs.Insert.Steps

/-!
# How an upload ends

An upload submits all its batches and waits.  `World.Uploaded` lists its three endings: the wait
was interrupted, a call has failed, or every call has ended well; each is described by the outcomes
that the pool holds for the calls of the upload.  `World.upload_run` shows that there are no others,
whatever the schedule does.
-/

namespace TableFeed.World

variable {σ : Type} (c : Client σ) (s : Schedule) (table : TableName) {w w' : World σ}

/-! ### Submitting -/

/-- On a pool that is not closed a batch gets the next number. -/
lemma submit_run (h : w.pool.closed = false) (b : Batch) :
    ∃ w', (submit c s ⟨table, b⟩).run w = (.ok w.pool.size, w') ∧ Reaches c table w w' ∧
      Grows [⟨table, b⟩] 0 w w' := by
  obtain ⟨events, hsubmit, hevents⟩ := Pool.submit_eq h (⟨table, b⟩ : Job)
  let w₁ := ({ w with pool := w.pool.submitted ⟨table, b⟩ } : World σ).tell events
  have hadds : Event.Adds w.log w₁.log :=
    ⟨events, rfl, fun e he => hevents e he ▸ .poolStarted _⟩
  have hgrows : Grows [⟨table, b⟩] 0 w w₁ := ⟨.submitted _ _, rfl, rfl, hadds⟩
  have hreaches : Reaches c table w w₁ := .tail (.single (.submit b w h)) (.aside _ _ rfl rfl)
  refine ⟨runCalls c (s.onSubmit w.pool.size w₁.pool.unfinished) w₁, ?_,
    hreaches.trans (Reaches.runCalls _ _), hgrows.trans (.runCalls _ _)⟩
  show submit c s ⟨table, b⟩ w = _
  unfold submit
  rw [hsubmit]

/-- The batches of an upload get numbers one after the other.  If there are none, it does not matter
whether the pool is closed. -/
lemma submitAll_run (batches : List Batch) (h : w.pool.closed = false ∨ batches = []) :
    ∃ w', (submitAll c s table batches).run w = (.ok (batches.zipIdx w.pool.size), w') ∧
      Reaches c table w w' ∧ Grows (batches.map (Job.mk table)) 0 w w' := by
  induction batches generalizing w with
  | nil => exact ⟨w, rfl, .refl, .refl w⟩
  | cons b rest ih =>
      have hopen : w.pool.closed = false := h.resolve_right (by simp)
      obtain ⟨w₁, hsubmit, hreaches₁, hgrows₁⟩ := submit_run c s table hopen b
      have hsize : w₁.pool.size = w.pool.size + 1 := hgrows₁.pool.size_eq
      obtain ⟨w₂, hrest, hreaches₂, hgrows₂⟩ := ih (.inl (hgrows₁.pool.closed_eq.trans hopen))
      refine ⟨w₂, ?_, hreaches₁.trans hreaches₂, hgrows₁.trans hgrows₂⟩
      rw [submitAll, Action.run_bind_of_ok hsubmit, Action.run_bind_of_ok hrest, hsize]
      rfl

/-! ### Waiting -/

/-- The state after the calls that run at the start of a wait. -/
def begun (w : World σ) : World σ :=
  runCalls c (s.onWait w.waits w.pool.unfinished) { w with waits := w.waits + 1 }

/-- The state after the calls that run in a wait that goes on. -/
def continued (w : World σ) : World σ :=
  runCalls c (s.duringWait w.waits (begun c s w).pool.unfinished) (begun c s w)

/-- A wait ends in the first of three states for which there is a reason. -/
lemma await_eq (calls : List Nat) (w : World σ) :
    (await c s calls).run w =
      if s.interrupts w.waits then (.ok true, begun c s w)
      else if calls.any (begun c s w).failed then (.ok false, begun c s w)
      else if calls.any (continued c s w).failed then (.ok false, continued c s w)
      else (.ok false, runCalls c calls (continued c s w)) := by
  show await c s calls w = _
  unfold await continued begun
  dsimp only
  split
  · rfl
  · split
    · rfl
    · split <;> rfl

lemma begun_run (w : World σ) : Reaches c table w (begun c s w) ∧ Grows [] 1 w (begun c s w) := by
  let w₁ : World σ := { w with waits := w.waits + 1 }
  have hreaches : Reaches c table w w₁ := .single (.aside w w₁ rfl rfl)
  have hgrows : Grows [] 1 w w₁ := ⟨.refl _, rfl, rfl, .refl _⟩
  exact ⟨hreaches.trans (Reaches.runCalls _ _), hgrows.trans (.runCalls _ _)⟩

lemma continued_run (w : World σ) :
    Reaches c table w (continued c s w) ∧ Grows [] 1 w (continued c s w) := by
  obtain ⟨hreaches, hgrows⟩ := begun_run c s table w
  exact ⟨hreaches.trans (Reaches.runCalls _ _), hgrows.trans (.runCalls _ _)⟩

/-- A wait ends with the user's word on it.  If it was not interrupted, then some call has failed
or all have finished. -/
lemma await_run {calls : List Nat} (hcalls : ∀ n ∈ calls, n < w.pool.size) :
    ∃ w', (await c s calls).run w = (.ok (s.interrupts w.waits), w') ∧ Reaches c table w w' ∧
      Grows [] 1 w w' ∧ (s.interrupts w.waits = false →
        calls.any w'.failed = true ∨ ∀ n ∈ calls, (w'.pool.outcome? n).isSome) := by
  obtain ⟨hreaches₁, hgrows₁⟩ := begun_run c s table w
  obtain ⟨hreaches₂, hgrows₂⟩ := continued_run c s table w
  cases hinterrupt : s.interrupts w.waits with
  | true => exact ⟨begun c s w, by rw [await_eq, if_pos hinterrupt], hreaches₁, hgrows₁, by simp⟩
  | false =>
      rw [await_eq, if_neg (by simp [hinterrupt])]
      by_cases hfailed₁ : calls.any (begun c s w).failed = true
      · exact ⟨_, if_pos hfailed₁, hreaches₁, hgrows₁, fun _ => .inl hfailed₁⟩
      · rw [if_neg hfailed₁]
        by_cases hfailed₂ : calls.any (continued c s w).failed = true
        · exact ⟨_, if_pos hfailed₂, hreaches₂, hgrows₂, fun _ => .inl hfailed₂⟩
        · -- nothing has failed, so the wait goes on until all calls have finished
          have hsize : (continued c s w).pool.size = w.pool.size := by
            simpa using hgrows₂.pool.size_eq
          exact ⟨_, if_neg hfailed₂, hreaches₂.trans (Reaches.runCalls _ _),
            hgrows₂.trans (.runCalls _ _),
            fun _ => .inr (finished_runCalls fun n hn => hsize ▸ hcalls n hn)⟩

/-! ### The endings -/

/-- How an upload ends whose calls have given numbers, and whose wait has the number `k`, in the
state that it leaves. -/
inductive Uploaded (s : Schedule) (table : TableName) (calls : List (Batch × Nat)) (k : Nat)
    (w : World σ) : Except Failure (List (List Rejection)) → Prop where
  /-- The wait was interrupted. -/
  | interrupted (hinterrupt : s.interrupts k = true) : Uploaded s table calls k w
      (.error (.interrupted (.inserting table.spec) (w.outstanding calls)))
  /-- A call has failed. -/
  | failed {b : Batch} {f : Failure} (hinterrupt : s.interrupts k = false)
      (hfirst : w.firstFailed? calls = some (b, f)) :
      Uploaded s table calls k w (.error (.transport table b.start f))
  /-- Every call has ended well. -/
  | done (hinterrupt : s.interrupts k = false)
      (hdone : ∀ x ∈ calls, ∃ report, w.pool.outcome? x.2 = some (.ok report)) :
      Uploaded s table calls k w (.ok (calls.map fun x => w.reportOf x.2))

/-- If no call was the first to fail, then none has failed. -/
lemma not_failed_of_firstFailed?_eq_none {calls : List (Batch × Nat)}
    (h : w.firstFailed? calls = none) {x : Batch × Nat} (hx : x ∈ calls) :
    w.failed x.2 = false := by
  have hnone := List.findSome?_eq_none_iff.1 h x hx
  unfold failed
  rcases hout : w.pool.outcome? x.2 with _ | ⟨f | report⟩
  · rfl
  · simp [hout] at hnone
  · rfl

/-- The first call that has failed comes after calls that have not. -/
lemma split_of_firstFailed? {calls : List (Batch × Nat)} {b : Batch} {f : Failure}
    (h : w.firstFailed? calls = some (b, f)) :
    ∃ earlier n later, calls = earlier ++ (b, n) :: later ∧
      (∀ x ∈ earlier, ∀ f, w.pool.outcome? x.2 ≠ some (.error f)) ∧
      w.pool.outcome? n = some (.error f) := by
  obtain ⟨earlier, ⟨b', n⟩, later, rfl, hfound, hearlier⟩ := List.findSome?_eq_some_iff.1 h
  dsimp only at hfound
  split at hfound
  · next houtcome =>
      obtain ⟨rfl, rfl⟩ := Prod.mk.inj (Option.some.inj hfound)
      have hnone : w.firstFailed? earlier = none := List.findSome?_eq_none_iff.2 hearlier
      refine ⟨earlier, n, later, rfl, fun x hx f' hf' => ?_, houtcome⟩
      have hnot := not_failed_of_firstFailed?_eq_none hnone hx
      simp [failed, hf'] at hnot
  · simp at hfound

lemma exists_of_firstFailed? {calls : List (Batch × Nat)} {b : Batch} {f : Failure}
    (h : w.firstFailed? calls = some (b, f)) :
    ∃ n, (b, n) ∈ calls ∧ w.pool.outcome? n = some (.error f) := by
  obtain ⟨earlier, n, later, rfl, -, houtcome⟩ := split_of_firstFailed? h
  exact ⟨n, by simp, houtcome⟩

/-- A call that has finished and not failed has ended with a report. -/
lemma exists_report {n : Nat} (hsome : (w.pool.outcome? n).isSome) (hfailed : w.failed n = false) :
    ∃ report, w.pool.outcome? n = some (.ok report) := by
  obtain ⟨e, he⟩ := Option.isSome_iff_exists.1 hsome
  rcases e with f | report
  · simp [failed, he] at hfailed
  · exact ⟨report, he⟩

/-- A call of the pool is open as long as it has no outcome. -/
lemma isOpen_eq {n : Nat} (hn : n < w.pool.size) : w.isOpen n = (w.pool.outcome? n).isNone := by
  rw [Bool.eq_iff_iff, isOpen, Pool.isSome_openJob?_iff, Option.isNone_iff_eq_none]
  exact and_iff_right hn

/-- The numbers that batches get lie below the size that the pool has afterwards. -/
lemma lt_size_of_mem_zipIdx {batches : List Batch}
    (h : w.pool.Extends (batches.map (Job.mk table)) w'.pool) {n : Nat}
    (hn : n ∈ (batches.zipIdx w.pool.size).map Prod.snd) : n < w'.pool.size := by
  obtain ⟨⟨b, m⟩, hx, rfl⟩ := List.mem_map.1 hn
  have hlt := List.snd_lt_of_mem_zipIdx hx
  rw [h.size_eq, List.length_map]
  omega

/-- The jobs of batches that were submitted have the numbers that the batches got. -/
lemma job_of_mem_zipIdx {batches : List Batch}
    (h : w.pool.Extends (batches.map (Job.mk table)) w'.pool) {b : Batch} {n : Nat}
    (hx : (b, n) ∈ batches.zipIdx w.pool.size) : w'.pool.jobs[n]? = some ⟨table, b⟩ := by
  obtain ⟨hle, hb⟩ := List.mk_mem_zipIdx_iff_le_and_getElem?_sub.1 hx
  have hjob : w'.pool.jobs[w.pool.size + (n - w.pool.size)]? = _ := h.getElem?_jobs _
  rw [Nat.add_sub_cancel' hle, List.getElem?_map, hb] at hjob
  exact hjob

/-- If the calls of the pool have ended only in some ways, then so have those of the batches. -/
lemma ends_of_mem_zipIdx {batches : List Batch} {P : Job → Ending → Prop} {base : Nat}
    (h : w.pool.Extends (batches.map (Job.mk table)) w'.pool) (hends : w'.pool.EndsAs P base)
    (hbase : base ≤ w.pool.size) {b : Batch} {n : Nat} (hx : (b, n) ∈ batches.zipIdx w.pool.size)
    {e : Ending} (he : w'.pool.outcome? n = some e) : P ⟨table, b⟩ e := by
  obtain ⟨job, hcall⟩ := Pool.outcome?_eq_some.1 he
  have hjob := job_of_mem_zipIdx table h hx
  rw [Pool.jobs, List.getElem?_map, hcall] at hjob
  obtain rfl := Option.some.inj hjob
  exact hends n _ e (hbase.trans (List.le_snd_of_mem_zipIdx hx)) hcall

/-- What an upload comes to after its wait. -/
def uploaded (table : TableName) (calls : List (Batch × Nat)) (interrupted : Bool) (w : World σ) :
    Except Failure (List (List Rejection)) × World σ :=
  if interrupted then (.error (.interrupted (.inserting table.spec) (w.outstanding calls)), w)
  else match w.firstFailed? calls with
    | some (b, f) => (.error (.transport table b.start f), Logged.note (.batchFailed table b.start
        b.rows.length f.message f.className (calls.countP fun x => w.isOpen x.2)) w)
    | none => (.ok (calls.map fun x => w.reportOf x.2), w)

lemma pool_uploaded (table : TableName) (calls : List (Batch × Nat)) (interrupted : Bool)
    (w : World σ) : (uploaded table calls interrupted w).2.pool = w.pool := by
  unfold uploaded
  split
  · rfl
  · split <;> rfl

lemma upload_eq {batches : List Batch} {calls : List (Batch × Nat)} {interrupted : Bool}
    {w₁ w₂ : World σ} (hsubmit : (submitAll c s table batches).run w = (.ok calls, w₁))
    (hawait : (await c s (calls.map Prod.snd)).run w₁ = (.ok interrupted, w₂)) :
    (upload c s table batches).run w = uploaded table calls interrupted w₂ := by
  rw [upload, Action.run_bind_of_ok hsubmit, Action.run_bind_of_ok hawait,
    Action.run_bind_of_ok (Action.run_get w₂), uploaded]
  cases interrupted with
  | true => rfl
  | false =>
      rcases w₂.firstFailed? calls with _ | ⟨b, f⟩ <;> rfl

/-- An upload of batches has submitted them all when it gets to `w₁`, and its wait has returned when
it gets to `w₂`. -/
structure Awaited (batches : List Batch) (w w₁ w₂ : World σ) : Prop where
  submit_eq : (submitAll c s table batches).run w = (.ok (batches.zipIdx w.pool.size), w₁)
  submitted : Grows (batches.map (Job.mk table)) 0 w w₁
  await_eq : (await c s ((batches.zipIdx w.pool.size).map Prod.snd)).run w₁ =
    (.ok (s.interrupts w.waits), w₂)
  waited : Grows [] 1 w₁ w₂
  reaches : Reaches c table w w₂
  returned : s.interrupts w.waits = false →
    ((batches.zipIdx w.pool.size).map Prod.snd).any w₂.failed = true ∨
      ∀ n ∈ (batches.zipIdx w.pool.size).map Prod.snd, (w₂.pool.outcome? n).isSome

/-- On a pool that is not closed an upload gets through its wait.  So does an upload of nothing on any
pool. -/
lemma exists_awaited (batches : List Batch) (h : w.pool.closed = false ∨ batches = []) :
    ∃ w₁ w₂, Awaited c s table batches w w₁ w₂ := by
  obtain ⟨w₁, hsubmit, hreaches₁, hgrows₁⟩ := submitAll_run c s table batches h
  obtain ⟨w₂, hawait, hreaches₂, hgrows₂, hreturned⟩ := await_run c s table
    fun n hn => lt_size_of_mem_zipIdx table hgrows₁.pool hn
  rw [hgrows₁.waits_eq, Nat.add_zero] at hawait hreturned
  exact ⟨w₁, w₂, hsubmit, hgrows₁, hawait, hgrows₂, hreaches₁.trans hreaches₂, hreturned⟩

namespace Awaited

variable {c s table} {batches : List Batch} {w₁ w₂ : World σ}

lemma upload_eq (h : Awaited c s table batches w w₁ w₂) : (upload c s table batches).run w =
    uploaded table (batches.zipIdx w.pool.size) (s.interrupts w.waits) w₂ :=
  World.upload_eq c s table h.submit_eq h.await_eq

lemma grows (h : Awaited c s table batches w w₁ w₂) :
    Grows (batches.map (Job.mk table)) 1 w w₂ := by
  simpa using h.submitted.trans h.waited

/-- If the wait was not interrupted and no call has failed, then all have ended with a report. -/
lemma exists_report (h : Awaited c s table batches w w₁ w₂) (hinterrupt : s.interrupts w.waits = false)
    (hnone : w₂.firstFailed? (batches.zipIdx w.pool.size) = none) :
    ∀ x ∈ batches.zipIdx w.pool.size, ∃ report, w₂.pool.outcome? x.2 = some (.ok report) := by
  have hnot : ∀ x ∈ batches.zipIdx w.pool.size, w₂.failed x.2 = false := fun x hx =>
    not_failed_of_firstFailed?_eq_none hnone hx
  -- the wait did not end early, so it has ended with all calls finished
  have hfinished : ∀ x ∈ batches.zipIdx w.pool.size, (w₂.pool.outcome? x.2).isSome := by
    rcases h.returned hinterrupt with hany | hall
    · obtain ⟨n, hn, hfailed⟩ := List.any_eq_true.1 hany
      obtain ⟨x, hx, rfl⟩ := List.mem_map.1 hn
      rw [hnot x hx] at hfailed
      simp at hfailed
    · exact fun x hx => hall x.2 (List.mem_map_of_mem hx)
  exact fun x hx => World.exists_report (hfinished x hx) (hnot x hx)

end Awaited

/-- An upload on a pool that is not closed submits its batches in order, waits once, and ends in one
of the three ways.  So does an upload of nothing on any pool. -/
theorem upload_run (batches : List Batch) (h : w.pool.closed = false ∨ batches = []) :
    ∃ r w', (upload c s table batches).run w = (r, w') ∧ Reaches c table w w' ∧
      Grows (batches.map (Job.mk table)) 1 w w' ∧
      Uploaded s table (batches.zipIdx w.pool.size) w.waits w' r := by
  obtain ⟨w₁, w₂, hawaited⟩ := exists_awaited c s table batches h
  rw [hawaited.upload_eq, uploaded]
  cases hinterrupt : s.interrupts w.waits with
  | true => exact ⟨_, w₂, rfl, hawaited.reaches, hawaited.grows, .interrupted hinterrupt⟩
  | false =>
      simp only [Bool.false_eq_true, if_false]
      rcases hfirst : w₂.firstFailed? (batches.zipIdx w.pool.size) with _ | ⟨b, f⟩
      · exact ⟨_, w₂, rfl, hawaited.reaches, hawaited.grows,
          .done hinterrupt (hawaited.exists_report hinterrupt hfirst)⟩
      · refine ⟨_, _, rfl, hawaited.reaches.trans (Reaches.aside rfl rfl), ?_,
          .failed hinterrupt hfirst⟩
        have haside : Grows [] 0 w₂ (Logged.note (.batchFailed table b.start b.rows.length f.message
            f.className ((batches.zipIdx w.pool.size).countP fun x => w₂.isOpen x.2)) w₂) :=
          ⟨.refl _, rfl, rfl, .one (.batchFailed _ _ _ _ _ _) _⟩
        simpa using hawaited.grows.trans haside

end TableFeed.World
