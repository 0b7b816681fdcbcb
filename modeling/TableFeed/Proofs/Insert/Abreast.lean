import TableFeed.Proofs.Insert.Unsent

/-!
# Two rounds abreast

The calls of all inserts share one pool, so that an insert may find calls there which an earlier one
has left unfinished.  These may finish at any time, and in any way.  Here two states are compared by
what belongs to one insert only: a `Mark` remembers where the insert began, and two states are
`Abreast` if, since their marks, the same calls were submitted, the same of them have finished, as
many waits have begun and the operator was told the same.  Nothing is said of the calls before the
marks, of the remote stores, or of the clients.

The main result is `World.round_abreast`: if two schedules agree on the calls since the marks, and the
calls of a round end alike, then so does the round, and it leaves states that are abreast.
-/

namespace TableFeed

/-! ### The calls since a number -/

namespace Call

variable {κ α : Type}

/-- The job of a call, and whether it has finished. -/
def progress (x : Call κ α) : κ × Bool := (x.job, x.outcome.isSome)

end Call

namespace Pool

variable {κ α : Type} {p q : Pool κ α}

/-- The numbers from a given one on, counted from there. -/
def own (first : Nat) (calls : List Nat) : List Nat := (calls.filter (first ≤ ·)).map (· - first)

/-- How far the calls from a number on have got. -/
def since (first : Nat) (p : Pool κ α) : List (κ × Bool) :=
  (p.calls.drop first).map Call.progress

lemma getElem?_since (first i : Nat) (p : Pool κ α) :
    (p.since first)[i]? = (p.calls[first + i]?).map Call.progress := by
  simp [since]

lemma length_since (first : Nat) (p : Pool κ α) : (p.since first).length = p.size - first := by
  simp [since, size]

lemma own_append (first : Nat) (xs ys : List Nat) :
    own first (xs ++ ys) = own first xs ++ own first ys := by
  simp [own]

/-- The unfinished calls from a number on are told by how far the calls have got. -/
lemma own_unfinished {first : Nat} (h : first ≤ p.size) :
    own first p.unfinished = ((p.since first).zipIdx.filter fun x => !x.1.2).map Prod.snd := by
  have hlength : (p.calls.take first).length = first := by simpa [size] using h
  have hsplit : p.unfinished =
      ((p.calls.take first).zipIdx.filter fun x => x.1.outcome.isNone).map Prod.snd ++
        (((p.calls.drop first).zipIdx first).filter fun x => x.1.outcome.isNone).map Prod.snd := by
    rw [unfinished, ← List.map_append, ← List.filter_append]
    conv_lhs => rw [← List.take_append_drop first p.calls]
    rw [List.zipIdx_append, hlength, Nat.zero_add]
  have hearlier : own first
      (((p.calls.take first).zipIdx.filter fun x => x.1.outcome.isNone).map Prod.snd) = [] := by
    rw [own, List.map_eq_nil_iff, List.filter_eq_nil_iff]
    intro n hn
    obtain ⟨x, hx, rfl⟩ := List.mem_map.1 hn
    have := List.snd_lt_of_mem_zipIdx (List.mem_of_mem_filter hx)
    simp only [decide_eq_true_eq]
    omega
  rw [hsplit, own_append, hearlier, List.nil_append, since, List.zipIdx_map,
    List.zipIdx_eq_map_add (i := first)]
  simp [own, List.filter_map, Function.comp_def, Call.progress]

lemma isSome_openJob?_since {first i : Nat} :
    (p.openJob? (first + i)).isSome = (p.since first)[i]?.any fun x => !x.2 := by
  rw [getElem?_since, openJob?]
  rcases p.calls[first + i]? with _ | ⟨job, _ | e⟩ <;> simp [Call.progress]

lemma since_submitted {first : Nat} (h : first ≤ p.size) (job : κ) :
    (p.submitted job).since first = p.since first ++ [(job, false)] := by
  rw [since, submitted, List.drop_append_of_le_length h, List.map_append]
  rfl

/-- What has been reached at a later time bounds what was reached before. -/
lemma EndsAs.of_extends {P : κ → α → Prop} {base : Nat} {js : List κ} (h : q.EndsAs P base)
    (hext : p.Extends js q) : p.EndsAs P base := by
  intro n job e hn hcall
  obtain ⟨job', hcall'⟩ := outcome?_eq_some.1
    (hext.outcome_kept n e (outcome?_eq_some.2 ⟨job, hcall⟩))
  have hlt : n < p.jobs.length := by
    rw [length_jobs]
    exact (List.getElem?_eq_some_iff.1 hcall).1
  have hjob : q.jobs[n]? = p.jobs[n]? := by rw [hext.jobs_eq, List.getElem?_append_left hlt]
  rw [jobs, jobs, List.getElem?_map, List.getElem?_map, hcall, hcall'] at hjob
  obtain rfl : job' = job := Option.some.inj hjob
  exact h n job' e hn hcall'

end Pool

/-! ### What the operator is told of an insert -/

/-- Whether an event is about the insert that is under way.  Rejected rows are announced by any call
that finishes, and the pool is started by whoever needs it first. -/
def Event.isOwn : Event → Bool
  | batchRejections .. | poolStarted .. => false
  | _ => true

/-- What a log says of the inserts as such. -/
def Event.own (log : List Event) : List Event := log.filter Event.isOwn

namespace Event

@[simp] lemma own_append (log log' : List Event) : own (log ++ log') = own log ++ own log' := by
  simp [own]

@[simp] lemma own_announcement {κ α : Type} (p : Pool κ α) : own p.announcement = [] := by
  unfold Pool.announcement
  split <;> simp [own, isOwn]

end Event

namespace World

variable {σ τ : Type} {c : Client σ} {c' : Client τ} {s s' : Schedule} {w w₁ : World σ}
  {w' w₁' : World τ}

/-! ### What running calls does -/

lemma own_runCall (c : Client σ) (n : Nat) (w : World σ) :
    Event.own (runCall c n w).log = Event.own w.log := by
  unfold runCall
  split
  · rfl
  · next job hopen =>
      rcases hanswer : (c.insert job.table job.batch).run w.remote with ⟨f | report, st⟩
      · have hrun : (insert c job.table job.batch).run w = (.error f, { w with remote := st }) :=
          Action.run_bind_of_error (by simp [remotely, hanswer])
        rw [hrun]
      · have hremote : (remotely (c.insert job.table job.batch)).run w =
            (.ok report, { w with remote := st }) := by simp [remotely, hanswer]
        unfold insert
        rw [Action.run_bind_of_ok hremote]
        dsimp only
        split
        · show Event.own (w.log ++ [.batchRejections _ _ _ _]) = _
          simp [Event.own, Event.isOwn]
        · rfl

lemma own_runCalls (c : Client σ) (xs : List Nat) (w : World σ) :
    Event.own (runCalls c xs w).log = Event.own w.log := by
  induction xs generalizing w with
  | nil => rfl
  | cons n rest ih => exact (ih (runCall c n w)).trans (own_runCall c n w)

/-- A call that runs has finished afterwards, and nothing becomes of the others. -/
lemma progress_runCall (c : Client σ) (n m : Nat) (w : World σ) :
    ((runCall c n w).pool.calls[m]?).map Call.progress =
      ((w.pool.calls[m]?).map Call.progress).map fun x => (x.1, x.2 || decide (m = n)) := by
  rcases hopen : w.pool.openJob? n with _ | job
  · rw [runCall_of_finished hopen]
    by_cases hm : m = n
    · subst hm
      rcases hcall : w.pool.calls[m]? with _ | ⟨job, _ | e⟩
      · rfl
      · simp [Pool.openJob?, hcall] at hopen
      · rfl
    · rcases w.pool.calls[m]? with _ | ⟨job, o⟩ <;> simp [Call.progress, hm]
  · obtain ⟨log, hrun, -⟩ := runCall_of_open (c := c) hopen
    rw [hrun, Pool.calls_finish]
    by_cases hm : n = m
    · subst hm
      rcases w.pool.calls[n]? with _ | ⟨job, o⟩ <;> simp [Call.progress]
    · rcases w.pool.calls[m]? with _ | ⟨job, o⟩ <;> simp [Call.progress, hm, Ne.symm hm]

lemma progress_runCalls (c : Client σ) (xs : List Nat) (m : Nat) (w : World σ) :
    ((runCalls c xs w).pool.calls[m]?).map Call.progress =
      ((w.pool.calls[m]?).map Call.progress).map fun x => (x.1, x.2 || decide (m ∈ xs)) := by
  induction xs generalizing w with
  | nil =>
      show (w.pool.calls[m]?).map Call.progress = _
      rcases w.pool.calls[m]? with _ | ⟨job, o⟩ <;> simp [Call.progress]
  | cons n rest ih =>
      show ((runCalls c rest (runCall c n w)).pool.calls[m]?).map Call.progress = _
      rw [ih, progress_runCall, Option.map_map]
      simp [Function.comp_def, Bool.or_assoc]

/-! ### States abreast -/

/-- Where an insert began: how many calls there were, how many waits, and what the operator had been
told of inserts. -/
structure Mark where
  /-- The number of calls. -/
  calls : Nat
  /-- The number of waits. -/
  waits : Nat
  /-- What was told. -/
  told : List Event

/-- The mark of a state. -/
def mark (w : World σ) : Mark := ⟨w.pool.size, w.waits, Event.own w.log⟩

variable {m m' : Mark}

/-- Two states in which as much has happened since the marks. -/
structure Abreast (m m' : Mark) (w : World σ) (w' : World τ) : Prop where
  since_eq : w.pool.since m.calls = w'.pool.since m'.calls
  calls_le : m.calls ≤ w.pool.size
  calls_le' : m'.calls ≤ w'.pool.size
  closed_eq : w.pool.closed = w'.pool.closed
  waits_eq : ∃ k, w.waits = m.waits + k ∧ w'.waits = m'.waits + k
  tally_eq : w.tally = w'.tally
  told_eq : ∃ events, Event.own w.log = m.told ++ events ∧ Event.own w'.log = m'.told ++ events

/-- Two schedules that agree on the calls and the waits since the marks: asked about the same of
these calls, they let the same of them run. -/
structure Agrees (m m' : Mark) (s s' : Schedule) : Prop where
  onSubmit : ∀ i xs xs', Pool.own m.calls xs = Pool.own m'.calls xs' → ∀ j,
    m.calls + j ∈ s.onSubmit (m.calls + i) xs ↔ m'.calls + j ∈ s'.onSubmit (m'.calls + i) xs'
  onWait : ∀ k xs xs', Pool.own m.calls xs = Pool.own m'.calls xs' → ∀ j,
    m.calls + j ∈ s.onWait (m.waits + k) xs ↔ m'.calls + j ∈ s'.onWait (m'.waits + k) xs'
  interrupts : ∀ k, s.interrupts (m.waits + k) = s'.interrupts (m'.waits + k)
  duringWait : ∀ k xs xs', Pool.own m.calls xs = Pool.own m'.calls xs' → ∀ j,
    m.calls + j ∈ s.duringWait (m.waits + k) xs ↔ m'.calls + j ∈ s'.duringWait (m'.waits + k) xs'

namespace Abreast

/-- The same number of calls was submitted. -/
lemma exists_size (h : Abreast m m' w w') :
    ∃ n, w.pool.size = m.calls + n ∧ w'.pool.size = m'.calls + n := by
  have hlength := congrArg List.length h.since_eq
  rw [Pool.length_since, Pool.length_since] at hlength
  have := h.calls_le
  have := h.calls_le'
  exact ⟨w.pool.size - m.calls, by omega, by omega⟩

lemma unfinished_eq (h : Abreast m m' w w') :
    Pool.own m.calls w.pool.unfinished = Pool.own m'.calls w'.pool.unfinished := by
  rw [Pool.own_unfinished h.calls_le, Pool.own_unfinished h.calls_le', h.since_eq]

lemma isOpen_eq (h : Abreast m m' w w') (i : Nat) :
    w.isOpen (m.calls + i) = w'.isOpen (m'.calls + i) := by
  rw [isOpen, isOpen, Pool.isSome_openJob?_since, Pool.isSome_openJob?_since, h.since_eq]

/-- Calls that have ended alike have the same outcome. -/
lemma outcome?_eq (h : Abreast m m' w w') {f : Job → Ending} {n i : Nat} (hi : n ≤ i)
    (hends : w.pool.EndsAs (fun job e => e = f job) (m.calls + n))
    (hends' : w'.pool.EndsAs (fun job e => e = f job) (m'.calls + n)) :
    w.pool.outcome? (m.calls + i) = w'.pool.outcome? (m'.calls + i) := by
  have hprogress := congrArg (·[i]?) h.since_eq
  simp only [Pool.getElem?_since] at hprogress
  rw [Pool.outcome?, Pool.outcome?]
  rcases hcall : w.pool.calls[m.calls + i]? with _ | ⟨job, o⟩ <;>
    rcases hcall' : w'.pool.calls[m'.calls + i]? with _ | ⟨job', o'⟩ <;>
      rw [hcall, hcall'] at hprogress <;>
        simp only [Option.map_none, Option.map_some, reduceCtorEq, Option.some.injEq,
          Call.progress, Prod.mk.injEq] at hprogress
  · obtain ⟨rfl, ho⟩ := hprogress
    rcases o with _ | e <;> rcases o' with _ | e' <;> simp at ho
    · rfl
    · have he := hends _ job e (by omega) hcall
      have he' := hends' _ job e' (by omega) hcall'
      simp [he, he']

/-- Whether one of some calls has failed, if calls that have finished have ended alike. -/
lemma any_failed_eq (h : Abreast m m' w w') {f : Job → Ending} {n : Nat} {calls : List Nat}
    (hcalls : ∀ i ∈ calls, n ≤ i)
    (hends : w.pool.EndsAs (fun job e => e = f job) (m.calls + n))
    (hends' : w'.pool.EndsAs (fun job e => e = f job) (m'.calls + n)) :
    (calls.map (m.calls + ·)).any w.failed = (calls.map (m'.calls + ·)).any w'.failed := by
  rw [Bool.eq_iff_iff, List.any_map, List.any_map, List.any_eq_true, List.any_eq_true]
  refine exists_congr fun i => and_congr_right fun hi => ?_
  simp only [Function.comp_apply, failed, h.outcome?_eq (hcalls i hi) hends hends']

/-- Calls that run abreast leave the states abreast. -/
lemma runCalls (h : Abreast m m' w w') {xs xs' : List Nat}
    (hxs : ∀ j, m.calls + j ∈ xs ↔ m'.calls + j ∈ xs') :
    Abreast m m' (runCalls c xs w) (runCalls c' xs' w') := by
  have hgrows := Grows.runCalls (c := c) xs w
  have hgrows' := Grows.runCalls (c := c') xs' w'
  refine ⟨?_, ?_, ?_, ?_, ?_, ?_, ?_⟩
  · refine List.ext_getElem? fun i => ?_
    have hprogress := congrArg (·[i]?) h.since_eq
    simp only [Pool.getElem?_since] at hprogress ⊢
    rw [progress_runCalls, progress_runCalls, hprogress]
    simp only [hxs i]
  · rw [hgrows.pool.size_eq]
    exact h.calls_le
  · rw [hgrows'.pool.size_eq]
    exact h.calls_le'
  · rw [hgrows.pool.closed_eq, hgrows'.pool.closed_eq, h.closed_eq]
  · rw [hgrows.waits_eq, hgrows'.waits_eq]
    exact h.waits_eq
  · rw [hgrows.tally_eq, hgrows'.tally_eq, h.tally_eq]
  · rw [own_runCalls, own_runCalls]
    exact h.told_eq

/-- Telling the operator the same leaves the states abreast. -/
lemma tell (h : Abreast m m' w w') {events events' : List Event}
    (hevents : Event.own events = Event.own events') :
    Abreast m m' (w.tell events) (w'.tell events') := by
  obtain ⟨told, htold, htold'⟩ := h.told_eq
  refine { h with told_eq := ⟨told ++ Event.own events, ?_, ?_⟩ }
  · simp [World.tell, htold]
  · simp [World.tell, htold', hevents]

/-- Submitting the same call leaves the states abreast. -/
lemma submitted (h : Abreast m m' w w') (job : Job) :
    Abreast m m' ({ w with pool := w.pool.submitted job }.tell w.pool.announcement)
      ({ w' with pool := w'.pool.submitted job }.tell w'.pool.announcement) := by
  refine tell ?_ (by simp)
  refine { h with since_eq := ?_, calls_le := ?_, calls_le' := ?_, closed_eq := h.closed_eq }
  · show (w.pool.submitted job).since _ = (w'.pool.submitted job).since _
    rw [Pool.since_submitted h.calls_le, Pool.since_submitted h.calls_le', h.since_eq]
  · have := h.calls_le
    simp
    omega
  · have := h.calls_le'
    simp
    omega

end Abreast

/-! ### A round -/

variable (c c')

lemma submit_abreast (h : Abreast m m' w w') (hs : Agrees m m' s s') (job : Job)
    (hopen : w.pool.closed = false) :
    ∃ n w₁ w₁', (w.pool.size = m.calls + n ∧ w'.pool.size = m'.calls + n) ∧
      (submit c s job).run w = (.ok (m.calls + n), w₁) ∧
      (submit c' s' job).run w' = (.ok (m'.calls + n), w₁') ∧ Abreast m m' w₁ w₁' ∧
      w₁.pool.size = m.calls + (n + 1) ∧ w₁.pool.closed = false := by
  obtain ⟨n, hsize, hsize'⟩ := h.exists_size
  have hrun : ∀ {ρ : Type} (d : Client ρ) (t : Schedule) {x : World ρ}, x.pool.closed = false →
      (submit d t job).run x = (.ok x.pool.size, World.runCalls d
        (t.onSubmit x.pool.size (x.pool.submitted job).unfinished)
        ({ x with pool := x.pool.submitted job }.tell x.pool.announcement)) := by
    intro ρ d t x hx
    show submit d t job x = _
    rw [submit, Pool.submit_of_not_closed hx]
    rfl
  have hafter := h.submitted job
  refine ⟨n, _, _, ⟨hsize, hsize'⟩, hsize ▸ hrun c s hopen,
    hsize' ▸ hrun c' s' (h.closed_eq ▸ hopen), ?_, ?_, ?_⟩
  · exact hafter.runCalls (hs.onSubmit n _ _ hafter.unfinished_eq)
  · rw [(Grows.runCalls _ _).pool.size_eq]
    simp [World.tell, hsize, Nat.add_assoc]
  · rw [(Grows.runCalls _ _).pool.closed_eq]
    exact hopen

/-- Batches get the same numbers, counted from the marks. -/
lemma submitAll_abreast (table : TableName) (batches : List Batch) (h : Abreast m m' w w')
    (hs : Agrees m m' s s') (hopen : w.pool.closed = false ∨ batches = []) {n : Nat}
    (hsize : w.pool.size = m.calls + n) :
    ∃ w₁ w₁', (submitAll c s table batches).run w = (.ok (batches.zipIdx (m.calls + n)), w₁) ∧
      (submitAll c' s' table batches).run w' = (.ok (batches.zipIdx (m'.calls + n)), w₁') ∧
      Abreast m m' w₁ w₁' := by
  induction batches generalizing w w' n with
  | nil => exact ⟨w, w', rfl, rfl, h⟩
  | cons b rest ih =>
      have hopen := hopen.resolve_right (by simp)
      obtain ⟨n', w₁, w₁', ⟨hn, -⟩, hsubmit, hsubmit', h₁, hsize₁, hopen₁⟩ :=
        submit_abreast c c' h hs ⟨table, b⟩ hopen
      obtain rfl : n = n' := by omega
      obtain ⟨w₂, w₂', hrest, hrest', h₂⟩ := ih h₁ (.inl hopen₁) hsize₁
      refine ⟨w₂, w₂', ?_, ?_, h₂⟩
      · rw [submitAll, Action.run_bind_of_ok hsubmit, Action.run_bind_of_ok hrest]
        rfl
      · rw [submitAll, Action.run_bind_of_ok hsubmit', Action.run_bind_of_ok hrest']
        rfl

/-- A wait keeps what the calls have come to when it begins. -/
lemma begun_extends (calls : List Nat) :
    (begun c s w).pool.Extends [] ((await c s calls).run w).2.pool := by
  have hcontinued := (Grows.runCalls (c := c) (s.duringWait w.waits (begun c s w).pool.unfinished)
    (begun c s w)).pool
  rw [await_eq]
  split
  · exact .refl _
  · split
    · exact .refl _
    · split
      · exact hcontinued
      · exact hcontinued.trans (Grows.runCalls calls _).pool

lemma continued_extends (calls : List Nat) (hinterrupt : s.interrupts w.waits = false)
    (hnone : calls.any (begun c s w).failed = false) :
    (continued c s w).pool.Extends [] ((await c s calls).run w).2.pool := by
  rw [await_eq, if_neg (by simp [hinterrupt]), if_neg (by simp [hnone])]
  split
  · exact .refl _
  · exact (Grows.runCalls calls _).pool

namespace Abreast

/-- The waits that begin abreast are interrupted or not, both of them. -/
lemma interrupts_eq (h : Abreast m m' w w') (hs : Agrees m m' s s') :
    s.interrupts w.waits = s'.interrupts w'.waits := by
  obtain ⟨k, hwaits, hwaits'⟩ := h.waits_eq
  rw [hwaits, hwaits']
  exact hs.interrupts k

lemma begun (h : Abreast m m' w w') (hs : Agrees m m' s s') :
    Abreast m m' (begun c s w) (begun c' s' w') := by
  obtain ⟨k, hwaits, hwaits'⟩ := h.waits_eq
  have hcounted : Abreast m m' { w with waits := w.waits + 1 } { w' with waits := w'.waits + 1 } :=
    { h with waits_eq := ⟨k + 1, by simp [hwaits, Nat.add_assoc], by simp [hwaits', Nat.add_assoc]⟩ }
  have hagree := hs.onWait k _ _ h.unfinished_eq
  rw [← hwaits, ← hwaits'] at hagree
  exact hcounted.runCalls hagree

lemma continued (h : Abreast m m' w w') (hs : Agrees m m' s s') :
    Abreast m m' (continued c s w) (continued c' s' w') := by
  obtain ⟨k, hwaits, hwaits'⟩ := h.waits_eq
  have hbegun : Abreast m m' (World.begun c s w) (World.begun c' s' w') := h.begun c c' hs
  have hagree := hs.duringWait k _ _ hbegun.unfinished_eq
  rw [← hwaits, ← hwaits'] at hagree
  exact hbegun.runCalls hagree

end Abreast

/-- Two waits for the same calls end alike, if these calls do. -/
lemma await_abreast (h : Abreast m m' w w') (hs : Agrees m m' s s') {f : Job → Ending} {n : Nat}
    {calls : List Nat} (hcalls : ∀ i ∈ calls, n ≤ i)
    (hends : ((await c s (calls.map (m.calls + ·))).run w).2.pool.EndsAs
      (fun job e => e = f job) (m.calls + n))
    (hends' : ((await c' s' (calls.map (m'.calls + ·))).run w').2.pool.EndsAs
      (fun job e => e = f job) (m'.calls + n)) :
    ((await c s (calls.map (m.calls + ·))).run w).1 =
        ((await c' s' (calls.map (m'.calls + ·))).run w').1 ∧
      Abreast m m' ((await c s (calls.map (m.calls + ·))).run w).2
        ((await c' s' (calls.map (m'.calls + ·))).run w').2 := by
  have hinterrupts := h.interrupts_eq hs
  have h₁ : Abreast m m' (begun c s w) (begun c' s' w') := h.begun c c' hs
  have h₂ : Abreast m m' (continued c s w) (continued c' s' w') := h.continued c c' hs
  have hfailed₁ := h₁.any_failed_eq hcalls (hends.of_extends (begun_extends c _))
    (hends'.of_extends (begun_extends c' _))
  rw [await_eq, await_eq, ← hinterrupts, ← hfailed₁]
  cases hinterrupt : s.interrupts w.waits with
  | true => exact ⟨rfl, h₁⟩
  | false =>
      cases hany₁ : (calls.map (m.calls + ·)).any (begun c s w).failed with
      | true => exact ⟨rfl, h₁⟩
      | false =>
          -- both waits go on, so they keep what their calls have come to meanwhile
          have hfailed₂ := h₂.any_failed_eq hcalls
            (hends.of_extends (continued_extends c _ hinterrupt hany₁))
            (hends'.of_extends
              (continued_extends c' _ (hinterrupts ▸ hinterrupt) (hfailed₁ ▸ hany₁)))
          rw [← hfailed₂]
          cases (calls.map (m.calls + ·)).any (continued c s w).failed with
          | true => exact ⟨rfl, h₂⟩
          | false => exact ⟨rfl, h₂.runCalls fun j => by simp⟩

lemma exists_await (calls : List Nat) (w : World σ) :
    ∃ interrupted w₁, (await c s calls).run w = (.ok interrupted, w₁) := by
  rw [await_eq]
  split
  · exact ⟨_, _, rfl⟩
  · split
    · exact ⟨_, _, rfl⟩
    · split <;> exact ⟨_, _, rfl⟩

/-- Numbers that are given from a mark on, counted from the mark. -/
lemma zipIdx_add (batches : List Batch) (first n : Nat) :
    batches.zipIdx (first + n) = (batches.zipIdx n).map fun x => (x.1, first + x.2) := by
  rw [← List.map_snd_add_zipIdx_eq_zipIdx]
  simp [Prod.map, Nat.add_comm]

namespace Abreast

variable {f : Job → Ending} {n : Nat} {calls : List (Batch × Nat)}

/-- What is left open of the same calls is the same. -/
lemma outstanding_eq (h : Abreast m m' w w') :
    w.outstanding (calls.map fun x => (x.1, m.calls + x.2)) =
      w'.outstanding (calls.map fun x => (x.1, m'.calls + x.2)) := by
  simp only [outstanding, List.filter_map, List.flatMap_map, Function.comp_def, h.isOpen_eq]

lemma countP_isOpen_eq (h : Abreast m m' w w') :
    (calls.map fun x => (x.1, m.calls + x.2)).countP (fun x => w.isOpen x.2) =
      (calls.map fun x => (x.1, m'.calls + x.2)).countP (fun x => w'.isOpen x.2) := by
  simp only [List.countP_map, Function.comp_def, h.isOpen_eq]

/-- The same of the calls is the first to have failed, if they have ended alike. -/
lemma firstFailed?_eq (h : Abreast m m' w w') (hcalls : ∀ x ∈ calls, n ≤ x.2)
    (hends : w.pool.EndsAs (fun job e => e = f job) (m.calls + n))
    (hends' : w'.pool.EndsAs (fun job e => e = f job) (m'.calls + n)) :
    w.firstFailed? (calls.map fun x => (x.1, m.calls + x.2)) =
      w'.firstFailed? (calls.map fun x => (x.1, m'.calls + x.2)) := by
  induction calls with
  | nil => rfl
  | cons x rest ih =>
      have hrest := ih fun y hy => hcalls y (List.mem_cons_of_mem _ hy)
      unfold firstFailed? at hrest ⊢
      simp only [List.map_cons, List.findSome?_cons, h.outcome?_eq (hcalls x (by simp)) hends hends',
        hrest]

/-- The reports on the calls are the same, if they have ended alike. -/
lemma reports_eq (h : Abreast m m' w w') (hcalls : ∀ x ∈ calls, n ≤ x.2)
    (hends : w.pool.EndsAs (fun job e => e = f job) (m.calls + n))
    (hends' : w'.pool.EndsAs (fun job e => e = f job) (m'.calls + n)) :
    ((calls.map fun x => (x.1, m.calls + x.2)).map fun x => w.reportOf x.2) =
      (calls.map fun x => (x.1, m'.calls + x.2)).map fun x => w'.reportOf x.2 := by
  rw [List.map_map, List.map_map]
  refine List.map_congr_left fun x hx => ?_
  simp only [Function.comp_apply, reportOf, h.outcome?_eq (hcalls x hx) hends hends']

/-- The operator is told of a failed batch. -/
lemma note (h : Abreast m m' w w') (e : Event) :
    Abreast m m' (Logged.note e w) (Logged.note e w') :=
  show Abreast m m' (w.tell [e]) (w'.tell [e]) from h.tell rfl

end Abreast

/-- Two uploads of the same batches end alike, if their calls do. -/
lemma upload_abreast (table : TableName) (batches : List Batch) (h : Abreast m m' w w')
    (hs : Agrees m m' s s') {f : Job → Ending}
    (hends : ((upload c s table batches).run w).2.pool.EndsAs (fun job e => e = f job) w.pool.size)
    (hends' : ((upload c' s' table batches).run w').2.pool.EndsAs (fun job e => e = f job)
      w'.pool.size) :
    ((upload c s table batches).run w).1 = ((upload c' s' table batches).run w').1 ∧
      Abreast m m' ((upload c s table batches).run w).2 ((upload c' s' table batches).run w').2 := by
  by_cases hopen : w.pool.closed = false ∨ batches = []
  · obtain ⟨n, hsize, hsize'⟩ := h.exists_size
    obtain ⟨w₁, w₁', hsubmit, hsubmit', h₁⟩ := submitAll_abreast c c' table batches h hs hopen hsize
    rw [zipIdx_add] at hsubmit hsubmit'
    have hcalls : ∀ x ∈ batches.zipIdx n, n ≤ x.2 := fun x hx => List.le_snd_of_mem_zipIdx hx
    set calls := batches.zipIdx n
    obtain ⟨interrupted, w₂, hawait⟩ := exists_await c (s := s)
      ((calls.map fun x => (x.1, m.calls + x.2)).map Prod.snd) w₁
    obtain ⟨interrupted', w₂', hawait'⟩ := exists_await c' (s := s')
      ((calls.map fun x => (x.1, m'.calls + x.2)).map Prod.snd) w₁'
    rw [upload_eq c s table hsubmit hawait, pool_uploaded, hsize] at hends
    rw [upload_eq c' s' table hsubmit' hawait', pool_uploaded, hsize'] at hends'
    rw [upload_eq c s table hsubmit hawait, upload_eq c' s' table hsubmit' hawait']
    rw [show (calls.map fun x => (x.1, m.calls + x.2)).map Prod.snd =
      (calls.map Prod.snd).map (m.calls + ·) by simp] at hawait
    rw [show (calls.map fun x => (x.1, m'.calls + x.2)).map Prod.snd =
      (calls.map Prod.snd).map (m'.calls + ·) by simp] at hawait'
    have hnumbers : ∀ i ∈ calls.map Prod.snd, n ≤ i := by
      intro i hi
      obtain ⟨x, hx, rfl⟩ := List.mem_map.1 hi
      exact hcalls x hx
    obtain ⟨hsame, h₂⟩ := await_abreast c c' h₁ hs hnumbers (by rwa [hawait]) (by rwa [hawait'])
    rw [hawait, hawait'] at hsame h₂
    obtain rfl := Except.ok.inj hsame
    dsimp only at h₂
    unfold uploaded
    split
    · exact ⟨by rw [h₂.outstanding_eq], h₂⟩
    · rw [h₂.firstFailed?_eq hcalls hends hends', h₂.reports_eq hcalls hends hends',
        h₂.countP_isOpen_eq]
      split
      · exact ⟨rfl, h₂.note _⟩
      · exact ⟨rfl, h₂⟩
  · -- a pool that is closed takes no batch
    simp only [not_or, Bool.not_eq_false] at hopen
    rw [upload_run_of_closed hopen.1 hopen.2,
      upload_run_of_closed (h.closed_eq ▸ hopen.1) hopen.2]
    exact ⟨rfl, h⟩

/-- An answer that is worked out at the end leaves the state as it is. -/
lemma run_bind_answer {α β : Type} (x : Action (World σ) α) (g : α → Except Failure β)
    (w : World σ) :
    (do let a ← x; Action.answer (g a)).run w = ((x.run w).1 >>= g, (x.run w).2) := by
  rw [Action.run_bind]
  rcases x.run w with ⟨f | a, w₁⟩ <;> rfl

/-- Counting the same round leaves the states abreast. -/
lemma beginRound_abreast (table : TableName) (rows : Nat) (batches : List Batch)
    (h : Abreast m m' w w') :
    ∃ w₁ w₁', (beginRound table rows batches).run w = (.ok (), w₁) ∧
      (beginRound table rows batches).run w' = (.ok (), w₁') ∧ Abreast m m' w₁ w₁' ∧
      w₁.pool = w.pool ∧ w₁'.pool = w'.pool := by
  obtain ⟨events, htold, htold'⟩ := h.told_eq
  refine ⟨_, _, rfl, rfl, ?_, rfl, rfl⟩
  refine { h with tally_eq := ?_, told_eq := ?_ }
  · simp [Logged.note, h.tally_eq]
  · refine ⟨events ++ Event.own [if 0 < w.tally.rounds then
      .roundRetrying table (Batch.sizeOf batches) else .roundStarted table (Batch.sizeOf batches)],
      ?_, ?_⟩
    · simp [Logged.note, htold]
    · simp [Logged.note, htold', h.tally_eq]

/-- Two rounds of the same rows end alike and leave states abreast, if the schedules agree and the
calls of the rounds end alike. -/
theorem round_abreast (limits : BatchLimits) (table : TableName) (rows : List Row)
    (tokens : Option (List Writing)) (h : Abreast m m' w w') (hs : Agrees m m' s s')
    {f : Job → Ending}
    (hends : ((round c s limits table rows tokens).run w).2.pool.EndsAs (fun job e => e = f job)
      w.pool.size)
    (hends' : ((round c' s' limits table rows tokens).run w').2.pool.EndsAs
      (fun job e => e = f job) w'.pool.size) :
    ((round c s limits table rows tokens).run w).1 =
        ((round c' s' limits table rows tokens).run w').1 ∧
      Abreast m m' ((round c s limits table rows tokens).run w).2
        ((round c' s' limits table rows tokens).run w').2 := by
  unfold round at hends hends' ⊢
  rcases hplan : liftFault (Batch.plan limits rows tokens).complete with fault | batches
  · exact ⟨rfl, h⟩
  · obtain ⟨w₁, w₁', hbegin, hbegin', h₁, hpool, hpool'⟩ :=
      beginRound_abreast table rows.length batches h
    rw [hplan, Action.run_bind_of_ok (Action.run_answer _ w), Action.run_bind_of_ok hbegin] at hends
    rw [hplan, Action.run_bind_of_ok (Action.run_answer _ w'), Action.run_bind_of_ok hbegin']
      at hends'
    rw [Action.run_bind_of_ok (Action.run_answer _ w), Action.run_bind_of_ok hbegin,
      Action.run_bind_of_ok (Action.run_answer _ w'), Action.run_bind_of_ok hbegin']
    have hupload := upload_abreast c c' table batches h₁ hs (f := f)
    rw [hpool, hpool'] at hupload
    rw [run_bind_answer] at hends hends' ⊢
    rw [run_bind_answer]
    obtain ⟨hsame, hafter⟩ := hupload hends hends'
    exact ⟨by rw [hsame], hafter⟩

end World

end TableFeed
