import TableFeed.Insert.Rows
import TableFeed.Proofs.Batch.Cuts
import TableFeed.Proofs.Insert.Upload
import TableFeed.Proofs.Outcome.Collected

/-!
# What one round does

A round plans its batches, uploads them and looks into the reports.  `World.Rounded` lists its
endings in terms of the calls that the round submitted and of what the pool holds for them;
`World.round_run` shows that there are no others.

The entries of the reports are read off the pool by `World.entriesOf`.  Since the pool forgets no
outcome, the entries of a round whose calls have all ended well are the same at any later time
(`World.entriesOf_eq`), so that rounds can be spoken of when the whole insert is over.
-/

namespace TableFeed

/-- The tally after another round of given rows and batches. -/
def Tally.next (t : Tally) (rows batches : Nat) : Tally :=
  ⟨t.rounds + 1, t.batches + batches, if 0 < t.rounds then t.retried + rows else t.retried⟩

namespace World

variable {σ : Type} (c : Client σ) (s : Schedule) (table : TableName) {w w' : World σ}
  {rows : List Row} {tokens : Option (List Writing)} {calls : List (Batch × Nat)}

/-! ### Reports in the pool -/

/-- The entries of the reports on calls, each with the batch that it is about. -/
def entriesOf (w : World σ) (calls : List (Batch × Nat)) : List (Batch × Rejection) :=
  calls.flatMap fun x => (w.reportOf x.2).map (x.1, ·)

/-- Every call has ended with a report. -/
def Answered (w : World σ) (calls : List (Batch × Nat)) : Prop :=
  ∀ x ∈ calls, ∃ report, w.pool.outcome? x.2 = some (.ok report)

lemma paired_eq_entriesOf (w : World σ) (calls : List (Batch × Nat)) :
    Outcome.paired (calls.map Prod.fst) (calls.map fun x => w.reportOf x.2) = w.entriesOf calls := by
  rw [Outcome.paired, entriesOf, List.zip_map', List.flatMap_map]

lemma Answered.extends {js : List Job} (h : w.Answered calls) (hext : w.pool.Extends js w'.pool) :
    w'.Answered calls := by
  intro x hx
  obtain ⟨report, hreport⟩ := h x hx
  exact ⟨report, hext.outcome_kept _ _ hreport⟩

/-- What was reported stays reported. -/
lemma entriesOf_eq {js : List Job} (h : w.Answered calls) (hext : w.pool.Extends js w'.pool) :
    w'.entriesOf calls = w.entriesOf calls := by
  refine List.flatMap_congr fun x hx => ?_
  obtain ⟨report, hreport⟩ := h x hx
  rw [reportOf, reportOf, hreport, hext.outcome_kept _ _ hreport]

lemma mem_entriesOf {b : Batch} {r : Rejection} :
    (b, r) ∈ w.entriesOf calls ↔
      ∃ n report, (b, n) ∈ calls ∧ w.pool.outcome? n = some (.ok (some report)) ∧ r ∈ report := by
  simp only [entriesOf, List.mem_flatMap, List.mem_map, Prod.mk.injEq, Prod.exists]
  constructor
  · rintro ⟨b', n, hmem, r', hr, rfl, rfl⟩
    unfold reportOf at hr
    split at hr
    · next report houtcome =>
        rcases report with _ | report
        · simp at hr
        · exact ⟨n, report, hmem, houtcome, hr⟩
    · simp at hr
  · rintro ⟨n, report, hmem, houtcome, hr⟩
    exact ⟨b, n, hmem, r, by simp [reportOf, houtcome, hr], rfl, rfl⟩

/-! ### The endings of a round -/

/-- How a round ends whose calls and whose wait have given numbers, in the state that it leaves. -/
inductive Rounded (s : Schedule) (table : TableName) (rows : List Row)
    (tokens : Option (List Writing)) (calls : List (Batch × Nat)) (k : Nat) (w : World σ) :
    Except Failure Outcome → Prop where
  /-- The wait was interrupted. -/
  | interrupted (hinterrupt : s.interrupts k = true) : Rounded s table rows tokens calls k w
      (.error (.interrupted (.inserting table.spec) (w.outstanding calls)))
  /-- A call has failed. -/
  | failed {b : Batch} {f : Failure} (hinterrupt : s.interrupts k = false)
      (hfirst : w.firstFailed? calls = some (b, f)) :
      Rounded s table rows tokens calls k w (.error (.transport table b.start f))
  /-- An entry of the reports names no row of its batch. -/
  | unusable (hinterrupt : s.interrupts k = false) (hanswered : w.Answered calls)
      (hunusable : ¬ ∀ x ∈ w.entriesOf calls, x.2.Usable x.1) :
      Rounded s table rows tokens calls k w (Outcome.ofReports rows tokens (calls.map Prod.fst)
        (calls.map fun x => w.reportOf x.2))
  /-- The reports tell which rows are rejected. -/
  | done (hinterrupt : s.interrupts k = false) (hanswered : w.Answered calls)
      (husable : ∀ x ∈ w.entriesOf calls, x.2.Usable x.1) :
      Rounded s table rows tokens calls k w (.ok (Outcome.naming rows tokens (w.entriesOf calls)))

/-- The positions that entries name lie within the round, if its batches cut its rows. -/
lemma within_of_usable {start : Nat} {batches : List Batch}
    (hcuts : Batch.Cuts 0 rows tokens batches)
    (husable : ∀ x ∈ w.entriesOf (batches.zipIdx start), x.2.Usable x.1) :
    ∀ n ∈ (Outcome.named (w.entriesOf (batches.zipIdx start))).map Prod.fst,
      Position.Within rows.length n := by
  refine Outcome.within_of_cuts hcuts (fun x hx => ?_) husable
  obtain ⟨k, report, hmem, -, -⟩ := mem_entriesOf.1 hx
  exact List.fst_mem_of_mem_zipIdx hmem

/-- What the operator is told when a round begins, after the rounds that were counted before. -/
def opening (table : TableName) (batches : List Batch) (t : Tally) : Event :=
  if 0 < t.rounds then .roundRetrying table (Batch.sizeOf batches)
  else .roundStarted table (Batch.sizeOf batches)

lemma isMidway_opening (batches : List Batch) (t : Tally) : (opening table batches t).IsMidway := by
  unfold opening
  split
  · exact .roundRetrying _ _
  · exact .roundStarted _ _

/-- Counting a round touches neither the remote store nor the pool. -/
lemma beginRound_run (n : Nat) (batches : List Batch) (w : World σ) :
    (beginRound table n batches).run w =
      (.ok (), { w with
        tally := w.tally.next n batches.length
        log := w.log ++ [opening table batches w.tally] }) := by
  unfold beginRound
  rw [Action.run_bind_of_ok (Action.run_get w), Action.run_bind_of_ok (Action.run_modify _ w)]
  simp [Action.run_note, Logged.note, Tally.next, opening]

/-- A round of rows that all have a size, on a pool that is not closed, submits the batches of its
plan in order, waits once, and ends in one of the four ways.  So does a round of no rows on any
pool. -/
theorem round_run (limits : BatchLimits) (hopen : w.pool.closed = false ∨ rows = [])
    (hsized : Sized rows)
    (htokens : Matching rows tokens) :
    let batches := (Batch.plan limits rows tokens).batches
    ∃ r w', (round c s limits table rows tokens).run w = (r, w') ∧ Reaches c table w w' ∧
      w.pool.Extends (batches.map (Job.mk table)) w'.pool ∧ w'.waits = w.waits + 1 ∧
      w'.tally = w.tally.next rows.length batches.length ∧ Event.Adds w.log w'.log ∧
      Rounded s table rows tokens (batches.zipIdx w.pool.size) w.waits w' r := by
  intro batches
  obtain ⟨hcomplete, hcuts⟩ := Batch.plan_cuts limits hsized htokens
  have hbegin := beginRound_run table rows.length batches w
  set log := w.log ++ [opening table batches w.tally]
  have hadds : Event.Adds w.log log := .one (isMidway_opening table batches w.tally) _
  set w₁ : World σ := { w with tally := w.tally.next rows.length batches.length, log := log }
  obtain ⟨r, w', hupload, hreaches, hgrows, hending⟩ :=
    upload_run c s table (w := w₁) batches (hopen.imp_right hcuts.eq_nil)
  set calls := batches.zipIdx w.pool.size with hcalls
  have hbatches : calls.map Prod.fst = batches := by rw [hcalls, List.zipIdx_map_fst]
  have hreaches' : Reaches c table w w' := .head (.aside w w₁ rfl rfl) hreaches
  -- every row has a size, so the plan is complete
  have hplan : (Action.answer (liftFault (Batch.plan limits rows tokens).complete)).run w =
      (.ok batches, w) := by
    rw [hcomplete]
    rfl
  have hround : (round c s limits table rows tokens).run w =
      (match r with
        | .ok reports => Outcome.ofReports rows tokens batches reports
        | .error f => .error f, w') := by
    unfold round
    rw [Action.run_bind_of_ok hplan, Action.run_bind_of_ok hbegin]
    cases r with
    | ok reports => rw [Action.run_bind_of_ok hupload, Action.run_answer]
    | error f => rw [Action.run_bind_of_error hupload]
  refine ⟨_, w', hround, hreaches', hgrows.pool, hgrows.waits_eq, hgrows.tally_eq,
    hadds.trans hgrows.adds, ?_⟩
  cases hending with
  | interrupted hinterrupt => exact .interrupted hinterrupt
  | failed hinterrupt hfirst => exact .failed hinterrupt hfirst
  | done hinterrupt hdone =>
      have hpaired := paired_eq_entriesOf w' calls
      rw [hbatches] at hpaired
      by_cases husable : ∀ x ∈ w'.entriesOf calls, x.2.Usable x.1
      · have hnaming := Outcome.ofReports_of_usable htokens (hpaired ▸ husable)
          (hpaired ▸ within_of_usable hcuts husable)
        rw [hpaired] at hnaming
        simp only [hnaming]
        exact .done hinterrupt hdone husable
      · have hunusable : Rounded s table rows tokens calls w.waits w' _ :=
          .unusable hinterrupt hdone husable
        rwa [hbatches] at hunusable

end World

end TableFeed
