import TableFeed.Proofs.Insert.Courses

/-!
# Failures that end an insert at once

Of all that the calls of a round may come to, only rejected rows lead to another round.  A call that
has failed comes first, whatever the other calls have reported, and of several such calls the first
one in the order of the batches.  An entry that names no row of its batch comes next, and of several
such entries the first one, in the order of the batches and then of their reports.  Either ends the
insert: nothing is sent and nothing is waited for any more, and the operator is not told that the
insert has completed or that its retries are exhausted.

The main result is `World.insertAll_ranks`.
-/

namespace TableFeed

open Position World

variable {σ : Type} {c : Client σ} {s : Schedule} {pace : Pace} {policy : Policy} {table : TableName}
  {rows : List Row} {tokens : Option (List Writing)} {p p' : Paced (World σ)} {w : World σ}
  {ds before after : List Dispatch} {d : Dispatch} {r : Except Failure Nat}

/-- What is told before an insert ends does not say that it has ended. -/
lemma Event.IsMidway.name_ne {e : Event} (h : e.IsMidway) :
    e.name ≠ "insert_completed" ∧ e.name ≠ "insert_retries_exhausted" := by
  cases h <;> simp [name]

namespace Dispatch

/-- A call of the round has failed. -/
def SomeFailed (w : World σ) (d : Dispatch) : Prop :=
  ∃ x ∈ d.calls, ∃ f, w.pool.outcome? x.2 = some (.error f)

/-- The first batch of the round whose call has failed, with the failure. -/
def FirstFailed (w : World σ) (d : Dispatch) (b : Batch) (f : Failure) : Prop :=
  ∃ earlier n later, d.calls = earlier ++ (b, n) :: later ∧
    (∀ x ∈ earlier, ∀ f, w.pool.outcome? x.2 ≠ some (.error f)) ∧
    w.pool.outcome? n = some (.error f)

lemma FirstFailed.someFailed {b : Batch} {f : Failure} (h : d.FirstFailed w b f) : d.SomeFailed w := by
  obtain ⟨earlier, n, later, hsplit, -, houtcome⟩ := h
  exact ⟨(b, n), by simp [hsplit], f, houtcome⟩

lemma not_someFailed (h : d.Answered w) : ¬ d.SomeFailed w := by
  rintro ⟨x, hx, f, hfailed⟩
  obtain ⟨report, houtcome⟩ := h x hx
  simp [houtcome] at hfailed

end Dispatch

namespace World

/-- An insert ends with a failure in a round: the round is the last one, no sleep has begun after it,
and the operator is not told that the insert has completed or has given up rows. -/
structure Stops (p p' : Paced (World σ)) (before after : List Dispatch) (r : Except Failure Summary)
    (f : Failure) : Prop where
  result : r = .error f
  last : after = []
  sleeps : p'.waits.length = p.waits.length + before.length
  told : ∃ events, p'.inner.log = p.inner.log ++ events ∧
    ∀ e ∈ events, e.name ≠ "insert_completed" ∧ e.name ≠ "insert_retries_exhausted"

/-- What a round comes to whose wait was not interrupted. -/
structure Ranked (pace : Pace) (policy : Policy) (table : TableName) (p p' : Paced (World σ))
    (before : List Dispatch) (d : Dispatch) (after : List Dispatch) (r : Except Failure Summary) :
    Prop where
  /-- A call that has failed ends the insert, and the first one is blamed. -/
  failed : d.SomeFailed p'.inner → ∃ b f, d.FirstFailed p'.inner b f ∧
    Stops p p' before after r (.transport table b.start f)
  /-- If no call has failed, then an entry that names no row of its batch ends the insert, and the
  report is blamed for the first one.  Only an integer with too many digits to be written cannot be
  told of, and it is the writing of it that fails then. -/
  refused : ¬ d.SomeFailed p'.inner → ¬ d.Usable p'.inner → ∃ earlier x,
    d.FirstUnusable p'.inner earlier x ∧
    Stops p p' before after r (Outcome.refusal x.1 (earlier.map Prod.snd).reverse x.2) ∧
    (x.2.index.isTooLong = false → ∃ cause, r = .error (.report cause)) ∧
    (x.2.index.isTooLong = true → r = .error (.fault .unwritable))
  /-- Otherwise the round was answered, and the policy decides. -/
  settled : ¬ d.SomeFailed p'.inner → d.Usable p'.inner → d.Settled p'.inner ∧
    (after = [] → d.Decided pace policy p'.inner (before.length + 1)
      (p.waits.length + before.length) (r.map Summary.attempts) p'.waits.length)

variable {r : Except Failure Summary}

/-- The reports of a client whose indices are integers or absent. -/
lemma Course.plain (h : Course s pace table rows tokens p p' ds)
    (hreaches : Reaches c table p.inner p'.inner) (hc : Client.Plain c) (hd : d ∈ ds) :
    ∀ x ∈ d.entries p'.inner, x.2.Plain := by
  rintro ⟨b, x⟩ hx
  obtain ⟨n, report, hcall, houtcome, hmem⟩ := mem_entriesOf.1 hx
  exact h.endsAs hreaches hc hd hcall houtcome report rfl x hmem

/-- A round that settles is neither failed nor refused. -/
lemma ranked_of_settled (hsettled : d.Settled p'.inner)
    (hplain : ∀ x ∈ d.entries p'.inner, x.2.Plain)
    (hdecided : after = [] → d.Decided pace policy p'.inner (before.length + 1)
      (p.waits.length + before.length) (r.map Summary.attempts) p'.waits.length) :
    Ranked pace policy table p p' before d after r where
  failed hfailed := absurd hfailed (Dispatch.not_someFailed hsettled.answered)
  refused _ hunusable := absurd (hsettled.usable hplain) hunusable
  settled _ _ := ⟨hsettled, hdecided⟩

/-- What the last round comes to. -/
lemma ranked_of_finishes {wait : Nat}
    (h : d.Finishes s pace policy table p'.inner (before.length + 1) wait
      (p.waits.length + before.length) (r.map Summary.attempts) p'.waits.length)
    (hinterrupt : s.interrupts wait = false) (hplain : ∀ x ∈ d.entries p'.inner, x.2.Plain)
    (hadds : ∀ f, r = .error f → Silent r → Event.Adds p.inner.log p'.inner.log) :
    Ranked pace policy table p p' before d [] r := by
  -- a failure of the round is where the insert stops, unless it gives up rows
  have hstops : ∀ f, r.map Summary.attempts = .error f → Silent (.error f : Except Failure Nat) →
      p'.waits.length = p.waits.length + before.length → Stops p p' before [] r f := by
    intro f hf hsilent hsleeps
    have hr := eq_error_of_map hf
    obtain ⟨events, hlog, hmidway⟩ := hadds f hr (hr ▸ hsilent.cast)
    exact ⟨hr, rfl, hsleeps, events, hlog, fun e he => (hmidway e he).name_ne⟩
  generalize hr : r.map Summary.attempts = r', hsleep : p.waits.length + before.length = sleep,
    hsleeps : p'.waits.length = sleeps at h hstops
  cases h with
  | decided _ hsettled hdecided =>
      subst hr hsleep hsleeps
      exact ranked_of_settled hsettled hplain fun _ => hdecided
  | interrupted hinterrupt' _ _ => simp [hinterrupt] at hinterrupt'
  | @failed b f _ hfirst =>
      have hfailed : d.FirstFailed p'.inner b f := split_of_firstFailed? hfirst
      exact ⟨fun _ => ⟨b, f, hfailed, hstops _ rfl (.error (by simp)) rfl⟩,
        fun hnone => absurd hfailed.someFailed hnone, fun hnone => absurd hfailed.someFailed hnone⟩
  | @refused f _ hrefused =>
      obtain ⟨earlier, x, hfirst, hf⟩ := hrefused.first hplain
      have hsilent : Silent (.error f : Except Failure Nat) := by
        refine .error fun failures attempts heq => ?_
        cases heq ▸ hrefused.isUnusable
      have hstops := hstops f rfl hsilent rfl
      refine ⟨fun hfailed => absurd hfailed (Dispatch.not_someFailed hrefused.answered),
        fun _ _ => ⟨earlier, x, hfirst, hf ▸ hstops, fun hshort => ?_, fun hlong => ?_⟩,
        fun _ husable => absurd husable hfirst.not_usable⟩
      · obtain ⟨cause, hcause⟩ := Outcome.refusal_eq_report hshort x.1 (earlier.map Prod.snd).reverse
        exact ⟨cause, by rw [hstops.result, hf, hcause]⟩
      · rw [hstops.result, hf, Outcome.refusal_eq_fault (hplain x hfirst.mem) hlong]

/-- An insert that says that a call has failed has ended with a round in which that call was the first
one to fail. -/
lemma Concludes.of_transport {r : Except Failure Nat} (h : Concludes s pace policy table p p' ds r)
    {table' : TableName} {row : Int} {f : Failure} (hr : r = .error (.transport table' row f)) :
    ∃ before d b, ds = before ++ [d] ∧ s.interrupts (p.inner.waits + before.length) = false ∧
      d.FirstFailed p'.inner b f ∧ table' = table ∧ row = b.start := by
  cases h with
  | unsent _ _ hf =>
      obtain rfl := Except.error.inj hr
      cases hf
  | @finished before d _ hsplit hfinishes =>
      refine ⟨before, d, ?_⟩
      generalize p'.waits.length = sleeps at hfinishes
      cases hfinishes with
      | decided _ _ hdecided => cases hdecided <;> simp at hr
      | interrupted _ _ _ => simp at hr
      | @failed b g hinterrupt hfirst =>
          obtain ⟨rfl, rfl, rfl⟩ := Failure.transport.inj (Except.error.inj hr)
          exact ⟨b, hsplit, hinterrupt, split_of_firstFailed? hfirst, rfl, rfl⟩
      | refused _ hrefused =>
          obtain rfl := Except.error.inj hr
          cases hrefused.isUnusable

/-- An insert that blames a report has ended with a round in which no call has failed. -/
lemma Concludes.of_report {r : Except Failure Nat} (h : Concludes s pace policy table p p' ds r)
    {cause : ReportFault} (hr : r = .error (.report cause)) :
    ∃ before d, ds = before ++ [d] ∧ s.interrupts (p.inner.waits + before.length) = false ∧
      d.Refused p'.inner (.report cause) := by
  cases h with
  | unsent _ _ hf =>
      obtain rfl := Except.error.inj hr
      cases hf
  | @finished before d _ hsplit hfinishes =>
      refine ⟨before, d, hsplit, ?_⟩
      generalize p'.waits.length = sleeps at hfinishes
      cases hfinishes with
      | decided _ _ hdecided => cases hdecided <;> simp at hr
      | interrupted _ _ _ => simp at hr
      | failed _ _ => simp at hr
      | refused hinterrupt hrefused =>
          obtain rfl := Except.error.inj hr
          exact ⟨hinterrupt, hrefused⟩

/-- What comes first if several things go wrong with the calls of a round, and that nothing follows;
there is no other way to come to such a failure.  The client may answer and fail as it likes, as long
as the indices in its reports are integers or absent, and its calls may finish in any order. -/
theorem insertAll_ranks (c : Client σ) (s : Schedule) (pace : Pace) (options : InsertOptions)
    (table : TableName) (rows : List Row) (tokens : Option (List Writing)) (p : Paced (World σ))
    (hc : Client.Plain c) :
    let q := (insertAll c s pace options (some table) rows tokens).run p
    ∃ ds, Course s pace table rows tokens p q.2 ds ∧
      (∀ before d after, ds = before ++ d :: after →
        s.interrupts (p.inner.waits + before.length) = false →
        Ranked pace options.policy table p q.2 before d after q.1) ∧
      (∀ table' row f, q.1 = .error (.transport table' row f) → ∃ before d b, ds = before ++ [d] ∧
        s.interrupts (p.inner.waits + before.length) = false ∧ d.FirstFailed q.2.inner b f ∧
        table' = table ∧ row = b.start) ∧
      ∀ cause, q.1 = .error (.report cause) → ∃ before d earlier x, ds = before ++ [d] ∧
        s.interrupts (p.inner.waits + before.length) = false ∧ ¬ d.SomeFailed q.2.inner ∧
        d.FirstUnusable q.2.inner earlier x ∧
        Outcome.refusal x.1 (earlier.map Prod.snd).reverse x.2 = .report cause := by
  intro q
  obtain ⟨ds, hcourse, hconcludes⟩ := insertAll_courses (Eq.refl q)
  have hreaches : Reaches c table p.inner q.2.inner := insertAll_reaches (Eq.refl q)
  have hadds : ∀ f, q.1 = .error f → Silent q.1 → Event.Adds p.inner.log q.2.inner.log :=
    fun _ => insertAll_adds (Eq.refl q)
  refine ⟨ds, hcourse, ?_, ?_, ?_⟩
  · intro before d after hsplit hinterrupt
    have hplain := hcourse.plain hreaches hc (show d ∈ ds by simp [hsplit])
    cases after with
    | nil => exact ranked_of_finishes (hconcludes.of_last hsplit) hinterrupt hplain hadds
    | cons d' after =>
        have hnext := hcourse.next
        rw [hsplit, List.isChain_append_cons_cons] at hnext
        exact ranked_of_settled hnext.2.1.1 hplain (by simp)
  · intro table' row f hq
    exact hconcludes.of_transport (by rw [hq]; rfl)
  · intro cause hq
    obtain ⟨before, d, hsplit, hinterrupt, hrefused⟩ := hconcludes.of_report (by rw [hq]; rfl)
    obtain ⟨earlier, x, hfirst, hcause⟩ :=
      hrefused.first (hcourse.plain hreaches hc (by simp [hsplit]))
    exact ⟨before, d, earlier, x, hsplit, hinterrupt, Dispatch.not_someFailed hrefused.answered,
      hfirst, hcause.symm⟩

/-- Of two rows that go into two batches, the first one is reported at an index outside of its batch,
and the call for the second one fails.  It is the call that is blamed. -/
theorem insertAll_ranks_failed :
    let row : Row := .mapping []
    let f : Failure := .refused .unavailable "busy"
    let c : Client Unit := { Client.answering fun _ => [] with
      insert := fun _ b => if b.start = 0 then pure (some [⟨.int 7, "bad", .null⟩]) else throw f }
    let pace : Pace := ⟨fun _ => 0.5, fun _ => false⟩
    let q := (insertAll c idle pace ⟨⟨1, 1⟩, .steep⟩ (some ⟨"p", "d", "t"⟩) [row, row] none).run
      (fresh ())
    Client.Plain c ∧ q.1 = .error (.transport ⟨"p", "d", "t"⟩ 1 f) ∧
      ∃ ds, Course idle pace ⟨"p", "d", "t"⟩ [row, row] none (fresh ()) q.2 ds ∧
        ∃ before d b, ds = before ++ [d] ∧ d.FirstFailed q.2.inner b f ∧ 1 = b.start := by
  intro row f c pace q
  have hc : Client.Plain c := by
    intro job st report hreport x hx
    by_cases hstart : job.batch.start = 0
    · have hends : ((c.insert job.table job.batch).run st).1 = .ok (some [⟨.int 7, "bad", .null⟩]) := by
        simp only [c, if_pos hstart]
        rfl
      obtain rfl := Option.some.inj (Except.ok.inj (hends.symm.trans hreport))
      obtain rfl := List.mem_singleton.1 hx
      exact .inr ⟨7, rfl⟩
    · have hends : ((c.insert job.table job.batch).run st).1 = .error f := by
        simp only [c, if_neg hstart]
        rfl
      exact absurd (hends.symm.trans hreport) (by simp)
  have hq : q.1 = .error (.transport ⟨"p", "d", "t"⟩ 1 f) := by
    unfold q insertAll Retry.run Retry.rounds
    rfl
  obtain ⟨ds, hcourse, -, htransport, -⟩ := insertAll_ranks c idle pace ⟨⟨1, 1⟩, .steep⟩
    ⟨"p", "d", "t"⟩ [row, row] none (fresh ()) hc
  obtain ⟨before, d, b, hsplit, -, hfirst, -, hstart⟩ := htransport _ _ _ hq
  exact ⟨hc, hq, ds, hcourse, before, d, b, hsplit, hfirst, hstart⟩

/-- A row is reported at an index outside of its batch, which has too many digits to be written.
The insert ends with that failure, and no report is blamed. -/
theorem insertAll_ranks_long :
    let r : Rejection := ⟨.int (Int.ofNat (Nat.pow 10 Number.digitLimit)), "bad", .null⟩
    let c := Client.answering fun _ => [r]
    let pace : Pace := ⟨fun _ => 0.5, fun _ => false⟩
    let q := (insertAll c idle pace ⟨⟨1, 1⟩, .steep⟩ (some ⟨"p", "d", "t"⟩) [.mapping []] none).run
      (fresh ())
    Client.Plain c ∧ (∀ b : Batch, b.rows.length = 1 → ¬ r.Usable b) ∧
      q.1 = .error (.fault .unwritable) := by
  intro r c pace q
  have hplain : r.Plain := .inr ⟨_, rfl⟩
  have hunusable : ∀ b : Batch, b.rows.length = 1 → ¬ r.Usable b := fun b hb =>
    Rejection.not_usable_of_le rfl (hb.symm ▸ by decide +kernel)
  refine ⟨?_, hunusable, ?_⟩
  · intro job st report hreport x hx
    obtain rfl : [r] = report := Option.some.inj (Except.ok.inj hreport)
    obtain rfl := List.mem_singleton.1 hx
    exact hplain
  · let b : Batch := ⟨0, [.mapping []], none, 2⟩
    have hplan : (Batch.plan ⟨1, 1⟩ [.mapping []] none).complete = .ok [b] := by
      simp [Batch.plan, Batch.planFrom, Batch.takeToken, rowSize_mapping_nil, Plan.after,
        Batch.Open.add, Batch.Open.close, Batch.Open.empty, Plan.complete, b]
    have hreports : Outcome.ofReports b.rows none [b] [[r]] = .error (.fault .unwritable) :=
      Outcome.ofReports_of_isTooLong hplain (hunusable b rfl) (by decide +kernel)
    obtain ⟨w, hround⟩ : ∃ w, (round c idle ⟨1, 1⟩ ⟨"p", "d", "t"⟩ [.mapping []] none).run
        (uncounted (fresh ())).inner = (.error (.fault .unwritable), w) := by
      unfold round
      rw [hplan, ← hreports]
      exact ⟨_, rfl⟩
    have hrun : (Retry.run .steep pace (TableName.spec ⟨"p", "d", "t"⟩)
        (round c idle ⟨1, 1⟩ ⟨"p", "d", "t"⟩) [.mapping []] none).run (uncounted (fresh ())) = _ :=
      Retry.run_of_error (Retry.Stage.result_of_round hround)
    have hq : q = _ := insertAll_run c idle pace ⟨⟨1, 1⟩, .steep⟩ ⟨"p", "d", "t"⟩ (fresh ())
      (by simp [Matching])
    rw [hq, hrun]
    rfl

end World

end TableFeed
