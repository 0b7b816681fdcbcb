import TableFeed.Proofs.Insert.Upload

/-!
# Calls that finish in turn

A schedule may let calls finish in any order, but it lets them finish one after the other, and a call
that has finished stays so.  Hence the calls that finish between two states of a load have an order,
and in this order their jobs may as well be run on the remote store without a pool
(`World.Reaches.inTurn`).  An upload, on the other hand, tells the reports in the order of its
batches, whatever that order was.

The main result is `World.upload_resolves`: an upload submits each batch once, in order and before it
waits, and what it comes to depends on nothing but the outcomes of its own calls when the wait
returns.
-/

namespace TableFeed

variable {σ : Type} {c : Client σ} {s : Schedule} {table : TableName}

/-! ### Jobs without a pool -/

/-- Runs jobs one after the other on a remote store. -/
def Client.inTurn (c : Client σ) : List Job → σ → List Ending × σ
  | [], st => ([], st)
  | job :: rest, st =>
    let (ending, st) := (c.insert job.table job.batch).run st
    let (endings, st) := c.inTurn rest st
    (ending :: endings, st)

lemma Client.inTurn_cons (c : Client σ) (job : Job) (rest : List Job) (st : σ) :
    c.inTurn (job :: rest) st =
      (((c.insert job.table job.batch).run st).1 ::
          (c.inTurn rest ((c.insert job.table job.batch).run st).2).1,
        (c.inTurn rest ((c.insert job.table job.batch).run st).2).2) :=
  rfl

/-- A job that comes last runs where the others have led the store. -/
lemma Client.inTurn_concat {jobs : List Job} {endings : List Ending} {st st' : σ}
    (h : c.inTurn jobs st = (endings, st')) (job : Job) :
    c.inTurn (jobs ++ [job]) st = (endings ++ [((c.insert job.table job.batch).run st').1],
      ((c.insert job.table job.batch).run st').2) := by
  induction jobs generalizing st endings with
  | nil =>
      obtain ⟨rfl, rfl⟩ := Prod.mk.inj h
      rfl
  | cons first rest ih =>
      rw [Client.inTurn_cons] at h
      obtain ⟨rfl, hst⟩ := Prod.mk.inj h
      rw [List.cons_append, Client.inTurn_cons, ih (Prod.ext rfl hst)]
      rfl

/-- If the ending of a call depends on its job only, then so do the endings of jobs in turn. -/
lemma Client.fst_inTurn {f : Job → Ending} (h : World.Client.Ends c fun job e => e = f job)
    (jobs : List Job) (st : σ) : (c.inTurn jobs st).1 = jobs.map f := by
  induction jobs generalizing st with
  | nil => rfl
  | cons job rest ih =>
      rw [Client.inTurn_cons, List.map_cons, ih, h job st]

namespace World

variable {w w' : World σ}

/-! ### Calls of a pool -/

/-- The calls that have finished between two states, in an order in which their jobs lead the remote
store from the one state to the other and end as the calls have. -/
structure InTurn (c : Client σ) (w w' : World σ) (order : List Nat) (jobs : List Job)
    (endings : List Ending) : Prop where
  nodup : order.Nodup
  mem_iff : ∀ n, n ∈ order ↔ w.pool.outcome? n = none ∧ (w'.pool.outcome? n).isSome
  kept : ∀ n e, w.pool.outcome? n = some e → w'.pool.outcome? n = some e
  jobs_eq : order.map (w'.pool.jobs[·]?) = jobs.map some
  endings_eq : order.map w'.pool.outcome? = endings.map some
  inTurn_eq : c.inTurn jobs w.remote = (endings, w'.remote)

namespace InTurn

variable {order : List Nat} {jobs : List Job} {endings : List Ending}

lemma refl (w : World σ) : InTurn c w w [] [] [] := by
  refine ⟨.nil, fun n => ?_, fun _ _ h => h, rfl, rfl, rfl⟩
  rcases w.pool.outcome? n with _ | e <;> simp

/-- A call that runs is the last one to have finished. -/
lemma call (h : InTurn c w w' order jobs endings) {n : Nat} {job : Job}
    (hopen : w'.pool.openJob? n = some job) :
    InTurn c w (runCall c n w') (order ++ [n]) (jobs ++ [job])
      (endings ++ [(answerTo c job w').1]) := by
  obtain ⟨log, hrun, -⟩ := runCall_of_open (c := c) hopen
  have hunfinished : w'.pool.outcome? n = none :=
    (Pool.isSome_openJob?_iff.1 (Option.isSome_of_eq_some hopen)).2
  have hnew : n ∉ order := by
    intro hn
    have hsome := ((h.mem_iff n).1 hn).2
    simp [hunfinished] at hsome
  have houtcome := fun m => Pool.outcome?_finish hopen m (answerTo c job w').1
  rw [hrun]
  refine ⟨?_, fun m => ?_, fun m e hm => ?_, ?_, ?_, ?_⟩
  · exact List.concat_eq_append ▸ h.nodup.concat hnew
  · rw [List.mem_append, List.mem_singleton, h.mem_iff, houtcome]
    by_cases hm : n = m
    · subst hm
      -- what had finished at the start would have finished by now
      have hstart : w.pool.outcome? n = none := by
        by_contra hsome
        obtain ⟨e, he⟩ := Option.ne_none_iff_exists'.1 hsome
        simp [h.kept n e he] at hunfinished
      simp [hstart]
    · simp [hm, Ne.symm hm]
  · exact Pool.outcome?_finish_of_some (h.kept m e hm)
  · have hjob : w'.pool.jobs[n]? = some job := by
      rw [Pool.jobs, List.getElem?_map, Pool.openJob?_eq_some.1 hopen, Option.map_some]
    simp [h.jobs_eq, hjob]
  · have hsame : order.map (w'.pool.finish n (answerTo c job w').1).outcome? =
        order.map w'.pool.outcome? := by
      refine List.map_congr_left fun m hm => ?_
      have hne : n ≠ m := fun hnm => hnew (hnm.symm ▸ hm)
      rw [houtcome, if_neg hne]
    rw [List.map_append, hsame, h.endings_eq, List.map_append]
    simp [houtcome]
  · exact Client.inTurn_concat h.inTurn_eq job

/-- The order is the same in a state that has the same remote store, the same outcomes, and the jobs
that there were. -/
lemma of_same (h : InTurn c w w' order jobs endings) {w'' : World σ}
    (hremote : w''.remote = w'.remote) (houtcome : w''.pool.outcome? = w'.pool.outcome?)
    (hjobs : w'.pool.jobs <+: w''.pool.jobs) : InTurn c w w'' order jobs endings := by
  refine ⟨h.nodup, houtcome ▸ h.mem_iff, houtcome ▸ h.kept, ?_, houtcome ▸ h.endings_eq,
    hremote ▸ h.inTurn_eq⟩
  rw [← h.jobs_eq]
  refine List.map_congr_left fun n hn => ?_
  obtain ⟨job, -, hjob⟩ : ∃ job ∈ jobs, some job = w'.pool.jobs[n]? :=
    List.mem_map.1 (h.jobs_eq ▸ List.mem_map_of_mem hn)
  obtain ⟨later, hlater⟩ := hjobs
  rw [← hlater, List.getElem?_append_left (List.getElem?_eq_some_iff.1 hjob.symm).1]

end InTurn

/-- The calls that a load lets finish have finished in some order. -/
theorem Reaches.inTurn (h : Reaches c table w w') :
    ∃ order jobs endings, InTurn c w w' order jobs endings := by
  refine h.keeps (I := fun w' => ∃ order jobs endings, InTurn c w w' order jobs endings) ?_
    ⟨_, _, _, .refl w⟩
  rintro w₁ w₂ hstep ⟨order, jobs, endings, hturn⟩
  cases hstep with
  | call n =>
      rcases hopen : w₁.pool.openJob? n with _ | job
      · rw [runCall_of_finished hopen]
        exact ⟨_, _, _, hturn⟩
      · exact ⟨_, _, _, hturn.call hopen⟩
  | submit b _ =>
      refine ⟨_, _, _, hturn.of_same rfl (funext fun n => Pool.outcome?_submitted _ _ n) ?_⟩
      rw [Pool.jobs_submitted]
      exact List.prefix_append _ _
  | aside _ _ hremote hcalls =>
      refine ⟨_, _, _, hturn.of_same hremote (funext fun n => ?_) ?_⟩
      · rw [Pool.outcome?, Pool.outcome?, hcalls]
      · rw [Pool.jobs, Pool.jobs, hcalls]

/-! ### What an upload comes to -/

/-- What an upload comes to, told by the outcomes of its calls when its wait has returned, which was
interrupted or not. -/
inductive Resolves (table : TableName) (calls : List (Batch × Nat)) (w : World σ) :
    Bool → Except Failure (List (List Rejection)) × World σ → Prop where
  /-- An interrupted upload tells the positions of the batches that are not finished. -/
  | interrupted : Resolves table calls w true (.error (.interrupted (.inserting table.spec)
      ((calls.filter fun x => (w.pool.outcome? x.2).isNone).flatMap fun x => x.1.positions)), w)
  /-- The first batch whose call has failed decides, and the operator is told of it. -/
  | failed {earlier later : List (Batch × Nat)} {b : Batch} {n : Nat} {f : Failure}
      (calls_eq : calls = earlier ++ (b, n) :: later)
      (not_earlier : ∀ x ∈ earlier, ∀ f, w.pool.outcome? x.2 ≠ some (.error f))
      (outcome_eq : w.pool.outcome? n = some (.error f)) :
      Resolves table calls w false (.error (.transport table b.start f),
        Logged.note (.batchFailed table b.start b.rows.length f.message f.className
          (calls.countP fun x => (w.pool.outcome? x.2).isNone)) w)
  /-- Every call has ended well, with an answer that may be missing. -/
  | done {answers : List (Option (List Rejection))}
      (outcomes_eq : calls.map (fun x => w.pool.outcome? x.2) = answers.map fun a => some (.ok a)) :
      Resolves table calls w false (.ok (answers.map (·.getD [])), w)

/-- Calls that have all ended with a report have a list of answers. -/
lemma exists_answers {calls : List (Batch × Nat)}
    (h : ∀ x ∈ calls, ∃ answer, w.pool.outcome? x.2 = some (.ok answer)) :
    ∃ answers : List (Option (List Rejection)),
      calls.map (fun x => w.pool.outcome? x.2) = answers.map (fun a => some (.ok a)) ∧
        calls.map (fun x => w.reportOf x.2) = answers.map (·.getD []) := by
  induction calls with
  | nil => exact ⟨[], rfl, rfl⟩
  | cons x rest ih =>
      obtain ⟨answer, hanswer⟩ := h x (by simp)
      obtain ⟨answers, houtcomes, hreports⟩ := ih fun y hy => h y (by simp [hy])
      refine ⟨answer :: answers, ?_, ?_⟩
      · rw [List.map_cons, List.map_cons, hanswer, houtcomes]
      · rw [List.map_cons, List.map_cons, hreports, reportOf, hanswer]

/-- An upload whose wait has returned comes to what the outcomes of its calls tell. -/
lemma Awaited.resolves {batches : List Batch} {w₁ w₂ : World σ}
    (h : Awaited c s table batches w w₁ w₂) :
    Resolves table (batches.zipIdx w.pool.size) w₂ (s.interrupts w.waits)
      ((upload c s table batches).run w) := by
  have hopen : ∀ x ∈ batches.zipIdx w.pool.size,
      w₂.isOpen x.2 = (w₂.pool.outcome? x.2).isNone := fun x hx =>
    isOpen_eq (lt_size_of_mem_zipIdx table h.grows.pool (List.mem_map_of_mem hx))
  rw [h.upload_eq, uploaded]
  cases hinterrupt : s.interrupts w.waits with
  | true =>
      rw [if_pos rfl, outstanding, List.filter_congr hopen]
      exact .interrupted
  | false =>
      simp only [Bool.false_eq_true, if_false]
      rcases hfirst : w₂.firstFailed? (batches.zipIdx w.pool.size) with _ | ⟨b, f⟩
      · obtain ⟨answers, houtcomes, hreports⟩ := exists_answers (h.exists_report hinterrupt hfirst)
        simp only [hreports]
        exact .done houtcomes
      · obtain ⟨earlier, n, later, hcalls, hearlier, houtcome⟩ := split_of_firstFailed? hfirst
        have hcount : (batches.zipIdx w.pool.size).countP (fun x => w₂.isOpen x.2) =
            (batches.zipIdx w.pool.size).countP fun x => (w₂.pool.outcome? x.2).isNone :=
          List.countP_congr fun x hx => by rw [hopen x hx]
        simp only [hcount]
        exact .failed hcalls hearlier houtcome

/-- If the ending of a call depends on its job only, then the answers to an upload are those that its
jobs end with anywhere. -/
lemma Awaited.map_eq {batches : List Batch} {w₁ w₂ : World σ}
    (h : Awaited c s table batches w w₁ w₂) {f : Job → Ending}
    (hf : Client.Ends c fun job e => e = f job) {answers : List (Option (List Rejection))}
    (hanswers : (batches.zipIdx w.pool.size).map (fun x => w₂.pool.outcome? x.2) =
      answers.map fun a => some (.ok a)) :
    (batches.map (Job.mk table)).map f = answers.map .ok := by
  have hends := h.reaches.endsAs hf (Pool.EndsAs.of_size w.pool)
  have hcalls : (batches.zipIdx w.pool.size).map (fun x => w₂.pool.outcome? x.2) =
      (batches.zipIdx w.pool.size).map fun x => some (f ⟨table, x.1⟩) := by
    refine List.map_congr_left fun x hx => ?_
    have hmem : w₂.pool.outcome? x.2 ∈ answers.map fun a => some (.ok a) :=
      hanswers ▸ List.mem_map_of_mem hx
    obtain ⟨a, -, ha⟩ := List.mem_map.1 hmem
    rw [← ha, ends_of_mem_zipIdx table h.grows.pool hends le_rfl hx ha.symm]
  have hjobs : batches.map (fun b => some (f ⟨table, b⟩)) =
      (batches.zipIdx w.pool.size).map fun x => some (f ⟨table, x.1⟩) := by
    conv_lhs => rw [← List.zipIdx_map_fst w.pool.size batches, List.map_map]
    rfl
  apply List.map_injective_iff.2 (Option.some_injective _)
  calc ((batches.map (Job.mk table)).map f).map some
      = batches.map fun b => some (f ⟨table, b⟩) := by rw [List.map_map, List.map_map]; rfl
    _ = answers.map fun a => some (.ok a) := by rw [hjobs, ← hcalls, hanswers]
    _ = (answers.map .ok).map some := by rw [List.map_map]; rfl

/-- On a pool that is not closed an upload submits each batch once, in order and before it waits, and
waits once.  What it comes to is told by the outcomes of its calls when the wait returns.  These are
what their jobs end with when they are run one after the other in the order in which the calls have
finished; if the endings depend on the jobs only, they may as well be run in the order of the
batches. -/
theorem upload_resolves (c : Client σ) (s : Schedule) (table : TableName) (batches : List Batch)
    (w : World σ) (hopen : w.pool.closed = false) :
    let calls := batches.zipIdx w.pool.size
    ∃ w₁ w₂ order jobs endings,
      (submitAll c s table batches).run w = (.ok calls, w₁) ∧
      w₁.pool.jobs = w.pool.jobs ++ batches.map (Job.mk table) ∧ w₁.waits = w.waits ∧
      (await c s (calls.map Prod.snd)).run w₁ = (.ok (s.interrupts w.waits), w₂) ∧
      w₂.pool.jobs = w₁.pool.jobs ∧ w₂.waits = w₁.waits + 1 ∧
      Resolves table calls w₂ (s.interrupts w.waits) ((upload c s table batches).run w) ∧
      InTurn c w w₂ order jobs endings ∧
      ∀ f : Job → Ending, Client.Ends c (fun job e => e = f job) → ∀ reports,
        ((upload c s table batches).run w).1 = .ok reports →
          ∀ st, ∃ answers : List (Option (List Rejection)),
            (c.inTurn (batches.map (Job.mk table)) st).1 = answers.map .ok ∧
              reports = answers.map (·.getD []) := by
  intro calls
  obtain ⟨w₁, w₂, hawaited⟩ := exists_awaited c s table batches (.inl hopen)
  obtain ⟨order, jobs, endings, hturn⟩ := hawaited.reaches.inTurn
  refine ⟨w₁, w₂, order, jobs, endings, hawaited.submit_eq, hawaited.submitted.pool.jobs_eq,
    hawaited.submitted.waits_eq, hawaited.await_eq, ?_, hawaited.waited.waits_eq,
    hawaited.resolves, hturn, ?_⟩
  · simpa using hawaited.waited.pool.jobs_eq
  · intro f hf reports hreports st
    have hresolves := hawaited.resolves
    generalize s.interrupts w.waits = interrupted, (upload c s table batches).run w = q
      at hreports hresolves
    cases hresolves with
    | interrupted => simp at hreports
    | failed => simp at hreports
    | @done answers houtcomes =>
        refine ⟨answers, ?_, (Except.ok.inj hreports).symm⟩
        rw [Client.fst_inTurn hf, hawaited.map_eq hf houtcomes]

/-- Two batches, of which the second one finishes first. -/
theorem upload_resolves_late :
    let c := Client.answering fun b => [⟨.int b.start, "bad", .null⟩]
    let s : Schedule := { idle with duringWait := fun _ _ => [1] }
    let table : TableName := ⟨"p", "d", "t"⟩
    let batches : List Batch := [⟨0, [.mapping []], none, 2⟩, ⟨1, [.mapping []], none, 2⟩]
    let w := (fresh ()).inner
    w.pool.closed = false ∧
      ((upload c s table batches).run w).1 =
        .ok [[⟨.int 0, "bad", .null⟩], [⟨.int 1, "bad", .null⟩]] ∧
      ∃ w₂ order jobs endings, w₂.pool.jobs = batches.map (Job.mk table) ∧
        Resolves table (batches.zipIdx 0) w₂ false ((upload c s table batches).run w) ∧
        InTurn c w w₂ order jobs endings := by
  intro c s table batches w
  obtain ⟨w₁, w₂, order, jobs, endings, -, hjobs₁, -, -, hjobs₂, -, hresolves, hturn, -⟩ :=
    upload_resolves c s table batches w rfl
  exact ⟨rfl, rfl, w₂, order, jobs, endings, hjobs₂.trans hjobs₁, hresolves, hturn⟩

end World

end TableFeed
