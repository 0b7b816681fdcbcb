import TableFeed.Proofs.Insert.Round
import TableFeed.Proofs.Outcome.Places
import TableFeed.Proofs.Retry.Positions

/-!
# The stages of an insert

The stages of a run whose rounds are those of an insert.  What the round of a stage sends is its
`Dispatch`; this is all that has to be known of the stage when the insert is over.  `Stage.Able` is
the invariant of these stages: the stage keeps track of the caller's rows, its origin ascends, its
rows have a size and the pool takes them.  It says nothing of the client, whose reports may hold
whatever they like.

The main results are

* `Stage.Able.performs`: the round of a stage submits the batches of its plan and ends in one of the
  ways of `World.Rounded`;
* `Stage.Able.moves`: all that a stage may lead to;
* `Stage.Able.of_goesOn`: the stage that follows is as able.
-/

namespace TableFeed

open Position World

namespace Outcome

/-- Only rows of the round are rejected. -/
lemma Fits.rows_ne_nil {rows : List Row} {tokens : Option (List Writing)} {o : Outcome}
    (h : o.Fits rows tokens) (hsome : o.rejects ≠ []) : rows ≠ [] := by
  rintro rfl
  obtain ⟨r, hr⟩ := List.exists_mem_of_ne_nil _ hsome
  obtain ⟨m, hm, -⟩ := h.within r.position (List.mem_map_of_mem hr)
  simp at hm

/-- Rejected rows leave positions for the next round. -/
lemma next_ne_nil {o : Outcome} {origin next : List Int} (hsome : o.rejects ≠ [])
    (hnext : Picks o.positions origin next) : next ≠ [] := by
  rintro rfl
  have hlength := hnext.length_eq
  rw [positions, List.length_map] at hlength
  exact hsome (List.eq_nil_of_length_eq_zero hlength.symm)

end Outcome

/-! ### What a round sends -/

/-- What a round sends. -/
structure Dispatch where
  /-- The caller's positions of the rows of the round. -/
  origin : List Int
  /-- The batches, in the order in which they are submitted. -/
  batches : List Batch
  /-- The number that the first of them has in the pool. -/
  first : Nat

namespace Dispatch

variable {σ : Type}

/-- The batches, each with the number of its call. -/
def calls (d : Dispatch) : List (Batch × Nat) := d.batches.zipIdx d.first

/-- The jobs that are submitted. -/
def jobs (table : TableName) (d : Dispatch) : List Job := d.batches.map (Job.mk table)

/-- What was reported on the batches, each entry with its batch. -/
def entries (w : World σ) (d : Dispatch) : List (Batch × Rejection) := w.entriesOf d.calls

/-- The reports on the batches. -/
def reports (w : World σ) (d : Dispatch) : List (List Rejection) :=
  d.calls.map fun x => w.reportOf x.2

lemma fst_calls (d : Dispatch) : d.calls.map Prod.fst = d.batches := List.zipIdx_map_fst _ _

lemma paired_reports (w : World σ) (d : Dispatch) :
    Outcome.paired d.batches (d.reports w) = d.entries w := by
  rw [← d.fst_calls]
  exact paired_eq_entriesOf w d.calls

/-- Every batch was answered by a report. -/
def Answered (w : World σ) (d : Dispatch) : Prop := w.Answered d.calls

/-- Every entry of the reports names a row of its batch. -/
def Usable (w : World σ) (d : Dispatch) : Prop := ∀ x ∈ d.entries w, x.2.Usable x.1

/-- A position of the caller that an entry of the reports names. -/
def Reported (w : World σ) (d : Dispatch) (n : Int) : Prop :=
  ∃ x ∈ d.entries w, ∃ m, x.2.position? x.1 = some m ∧ item? d.origin m = some n

end Dispatch

namespace Retry.Stage

variable {σ : Type}

/-- What the round of a stage sends. -/
def dispatch (limits : BatchLimits) (st : Stage (World σ)) : Dispatch :=
  ⟨st.origin, (Batch.plan limits st.rows st.tokens).batches, st.state.inner.pool.size⟩

variable (c : Client σ) (s : Schedule) (limits : BatchLimits) (table : TableName)

/-- The state that the round of a stage leaves. -/
def left (st : Stage (World σ)) : World σ := (st.result (round c s limits table)).2.inner

/-- What the round of a stage does to the pool, and how it ends. -/
structure Performs (st : Stage (World σ)) : Prop where
  reaches : Reaches c table st.state.inner (st.left c s limits table)
  pool : st.state.inner.pool.Extends ((st.dispatch limits).jobs table)
    (st.left c s limits table).pool
  waits_eq : (st.left c s limits table).waits = st.state.inner.waits + 1
  tally_eq : (st.left c s limits table).tally =
    st.state.inner.tally.next st.rows.length (st.dispatch limits).batches.length
  adds : Event.Adds st.state.inner.log (st.left c s limits table).log
  rounded : Rounded s table st.rows st.tokens (st.dispatch limits).calls st.state.inner.waits
    (st.left c s limits table) (st.result (round c s limits table)).1

/-- A stage of an insert that can do its round. -/
structure Able (rows : List Row) (tokens : Option (List Writing)) (st : Stage (World σ)) :
    Prop where
  tracks : st.Tracks rows tokens
  ascending : st.origin.Pairwise (· < ·)
  sized : Sized st.rows
  opened : st.state.inner.pool.closed = false ∨ st.rows = []

/-- The round of a stage was answered by reports that amount to an outcome. -/
structure Replies (st : Stage (World σ)) (o : Outcome) : Prop where
  interrupts_eq : s.interrupts st.state.inner.waits = false
  answered : (st.dispatch limits).Answered (st.left c s limits table)
  outcome_eq : Outcome.ofReports st.rows st.tokens (st.dispatch limits).batches
    ((st.dispatch limits).reports (st.left c s limits table)) = .ok o

/-- How the round of a stage ends. -/
inductive Closes (st : Stage (World σ)) : Except Failure Outcome → Prop where
  /-- The reports amount to an outcome. -/
  | replied {o : Outcome} (replies : st.Replies c s limits table o) : Closes st (.ok o)
  /-- The wait for the calls was interrupted. -/
  | interrupted (hinterrupt : s.interrupts st.state.inner.waits = true) :
      Closes st (.error (.interrupted (.inserting table.spec)
        ((st.left c s limits table).outstanding (st.dispatch limits).calls)))
  /-- A call has failed. -/
  | failed {b : Batch} {f : Failure} (hinterrupt : s.interrupts st.state.inner.waits = false)
      (hfirst : (st.left c s limits table).firstFailed? (st.dispatch limits).calls =
        some (b, f)) : Closes st (.error (.transport table b.start f))
  /-- The reports are of no use. -/
  | refused {f : Failure} (hinterrupt : s.interrupts st.state.inner.waits = false)
      (hanswered : (st.dispatch limits).Answered (st.left c s limits table))
      (hf : Outcome.ofReports st.rows st.tokens (st.dispatch limits).batches
        ((st.dispatch limits).reports (st.left c s limits table)) = .error f) :
      Closes st (.error f)

variable {c s limits table} {rows : List Row} {tokens : Option (List Writing)}
  {st st' : Stage (World σ)} {o : Outcome}

lemma result_eq (st : Stage (World σ)) : st.result (round c s limits table) =
    ((st.result (round c s limits table)).1,
      { st.state with inner := st.left c s limits table }) := rfl

/-- The calls of a round are the jobs that it submitted. -/
lemma Performs.job_eq (h : st.Performs c s limits table) {b : Batch} {n : Nat}
    (hx : (b, n) ∈ (st.dispatch limits).calls) :
    (st.left c s limits table).pool.jobs[n]? = some ⟨table, b⟩ :=
  job_of_mem_zipIdx table h.pool hx

/-- If the calls of the pool have ended only in some ways, then so have the calls of a round. -/
lemma Performs.endsAs_of_pool {P : Job → Ending → Prop} {base : Nat}
    (h : st.Performs c s limits table) (hends : (st.left c s limits table).pool.EndsAs P base)
    (hbase : base ≤ (st.dispatch limits).first) {b : Batch} {n : Nat}
    (hx : (b, n) ∈ (st.dispatch limits).calls) {e : Ending}
    (he : (st.left c s limits table).pool.outcome? n = some e) : P ⟨table, b⟩ e :=
  ends_of_mem_zipIdx table h.pool hends hbase hx he

/-- If the client ends calls only in some ways, then so have the calls of a round ended. -/
lemma Performs.endsAs {P : Job → Ending → Prop} (h : st.Performs c s limits table)
    (hc : Client.Ends c P) {b : Batch} {n : Nat} (hx : (b, n) ∈ (st.dispatch limits).calls)
    {e : Ending} (he : (st.left c s limits table).pool.outcome? n = some e) : P ⟨table, b⟩ e :=
  h.endsAs_of_pool (h.reaches.endsAs hc (Pool.EndsAs.of_size st.state.inner.pool)) le_rfl hx he

namespace Able

lemma first (p : Paced (World σ)) (htokens : Matching rows tokens) (hsized : Sized rows)
    (hopen : p.inner.pool.closed = false ∨ rows = []) : (firstStage rows tokens p).Able rows tokens :=
  ⟨.first p htokens, pairwise_range _, hsized, hopen⟩

/-- The batches of a stage cut its rows. -/
lemma cuts (limits : BatchLimits) (h : st.Able rows tokens) :
    Batch.Cuts 0 st.rows st.tokens (st.dispatch limits).batches :=
  (Batch.plan_cuts limits h.sized h.tracks.matching).2

theorem performs (c : Client σ) (s : Schedule) (limits : BatchLimits) (table : TableName)
    (h : st.Able rows tokens) : st.Performs c s limits table := by
  obtain ⟨r, w', hround, hreaches, hpool, hwaits, htally, hadds, hrounded⟩ :=
    round_run c s table limits h.opened h.sized h.tracks.matching
  have hresult : st.result (round c s limits table) = (r, { st.state with inner := w' }) := by
    simp [result, inner, hround]
  have hleft : st.left c s limits table = w' := by rw [left, hresult]
  refine ⟨?_, ?_, ?_, ?_, ?_, ?_⟩
  all_goals rw [hleft]
  · exact hreaches
  · exact hpool
  · exact hwaits
  · exact htally
  · exact hadds
  · rw [hresult]
    exact hrounded

/-- The positions that an interrupted round names are positions of its rows. -/
lemma within_outstanding (h : st.Able rows tokens) (w : World σ) :
    ∀ n ∈ w.outstanding (st.dispatch limits).calls, Within st.rows.length n := by
  intro n hn
  obtain ⟨x, hx, hn⟩ := List.mem_flatMap.1 hn
  have hb : x.1 ∈ (st.dispatch limits).batches :=
    List.fst_mem_of_mem_zipIdx (List.mem_of_mem_filter hx)
  have hmem : n ∈ (st.dispatch limits).batches.flatMap Batch.positions :=
    List.mem_flatMap.2 ⟨x.1, hb, hn⟩
  rw [(h.cuts limits).positions_eq] at hmem
  obtain ⟨m, hm, rfl⟩ := List.mem_map.1 hmem
  exact ⟨m, by simpa using hm, rfl⟩

/-- What usable reports say is what they amount to. -/
lemma ofReports_eq_naming (h : st.Able rows tokens) {w : World σ}
    (husable : (st.dispatch limits).Usable w) :
    Outcome.ofReports st.rows st.tokens (st.dispatch limits).batches ((st.dispatch limits).reports w) =
      .ok (Outcome.naming st.rows st.tokens ((st.dispatch limits).entries w)) := by
  have hpaired := (st.dispatch limits).paired_reports w
  rw [← hpaired]
  refine Outcome.ofReports_of_usable h.tracks.matching ?_ ?_
  · rw [hpaired]
    exact husable
  · rw [hpaired]
    exact within_of_usable (h.cuts limits) husable

lemma closes (c : Client σ) (s : Schedule) (limits : BatchLimits) (table : TableName)
    (h : st.Able rows tokens) :
    st.Closes c s limits table (st.result (round c s limits table)).1 := by
  have hrounded := (h.performs c s limits table).rounded
  generalize (st.result (round c s limits table)).1 = r at hrounded
  cases hrounded with
  | interrupted hinterrupt => exact .interrupted hinterrupt
  | failed hinterrupt hfirst => exact .failed hinterrupt hfirst
  | unusable hinterrupt hanswered _ =>
      rw [(st.dispatch limits).fst_calls]
      rcases hr : Outcome.ofReports st.rows st.tokens (st.dispatch limits).batches
        ((st.dispatch limits).reports (st.left c s limits table)) with f | o
      · exact hr ▸ .refused hinterrupt hanswered hr
      · exact hr ▸ .replied ⟨hinterrupt, hanswered, hr⟩
  | done hinterrupt hanswered husable =>
      exact .replied ⟨hinterrupt, hanswered, h.ofReports_eq_naming husable⟩

/-- The outcome of a round that was answered rejects the rows that entries of the reports name. -/
lemma of_replies (h : st.Able rows tokens) (hreplies : st.Replies c s limits table o) :
    o.Fits st.rows st.tokens ∧ o.positions.Pairwise (· < ·) ∧ ∀ n, n ∈ o.positions ↔
      ∃ x ∈ (st.dispatch limits).entries (st.left c s limits table), x.2.Names x.1 n := by
  have hstart : ∀ b ∈ (st.dispatch limits).batches, 0 ≤ b.start := by
    intro b hb
    obtain ⟨m, hm, -⟩ := (h.cuts limits).of_mem hb
    rw [hm]
    exact Int.natCast_nonneg _
  have hreports := Outcome.of_ofReports hstart hreplies.outcome_eq
  rwa [Dispatch.paired_reports] at hreports

/-- The caller's positions of the rejected rows ascend. -/
lemma pairwise_next (h : st.Able rows tokens) (hreplies : st.Replies c s limits table o)
    {next : List Int} (hnext : Picks o.positions st.origin next) : next.Pairwise (· < ·) := by
  obtain ⟨hfits, hascending, -⟩ := h.of_replies hreplies
  refine hnext.pairwise_lt hascending h.ascending fun n hn => ?_
  rw [← h.tracks.length_rows]
  exact hfits.within n hn

/-- The rounds of an insert are honest. -/
lemma honest (h : st.Able rows tokens) : st.Honest (round c s limits table) := by
  have hcloses := h.closes c s limits table
  rw [Honest]
  generalize (st.result (round c s limits table)).1 = r at hcloses
  cases hcloses with
  | replied hreplies => exact (h.of_replies hreplies).1
  | interrupted _ => exact h.within_outstanding _
  | failed _ _ => trivial
  | refused _ _ hf => cases Outcome.isUnusable_of_ofReports hf <;> trivial

end Able

/-! ### What a stage of an insert leads to -/

variable (c s limits table) (pace : Pace) (policy : Policy)

/-- What a stage of an insert leads to, in terms of its dispatch and of the pool that its round
leaves. -/
inductive Moves (st : Stage (World σ)) : Turn (World σ) → Prop where
  /-- Nothing is rejected. -/
  | accepted {o : Outcome} (hreplies : st.Replies c s limits table o) (hnone : o.rejects = []) :
      Moves st (.ends (.ok st.attempt) { st.state with inner := st.left c s limits table })
  /-- Rows are rejected, and there is no further attempt. -/
  | exhausted {o : Outcome} {next : List Int} (hreplies : st.Replies c s limits table o)
      (hsome : o.rejects ≠ []) (hlast : st.attempt = policy.attempts)
      (hnext : Picks o.positions st.origin next) :
      Moves st (.ends (.error (.rejected (givenUp next o) st.attempt))
        (Logged.note (.retriesExhausted table.spec st.attempt next.length)
          { st.state with inner := st.left c s limits table }))
  /-- Rows are rejected, and the wait for the next attempt is not defined. -/
  | overflow {o : Outcome} {cause : Overflow} (hreplies : st.Replies c s limits table o)
      (hsome : o.rejects ≠ []) (hlt : st.attempt < policy.attempts)
      (hwait : policy.wait st.attempt (pace.sample st.state.draws) = .error cause) :
      Moves st (.ends (.error (.overflow cause))
        { st.state with inner := st.left c s limits table, draws := st.state.draws + 1 })
  /-- Rows are rejected, and the wait for the next attempt was interrupted. -/
  | waiting {o : Outcome} {next : List Int} {seconds : Float}
      (hreplies : st.Replies c s limits table o) (hsome : o.rejects ≠ [])
      (hlt : st.attempt < policy.attempts) (hnext : Picks o.positions st.origin next)
      (hwait : policy.wait st.attempt (pace.sample st.state.draws) = .ok seconds)
      (hinterrupt : pace.interrupts st.state.waits.length = true) :
      Moves st (.ends (.error (.interrupted .waiting next))
        (waited table.spec st.attempt next seconds
          { st.state with inner := st.left c s limits table }))
  /-- The wait for the calls was interrupted. -/
  | interrupted {outstanding : List Int} (hinterrupt : s.interrupts st.state.inner.waits = true)
      (hpicks : Picks ((st.left c s limits table).outstanding (st.dispatch limits).calls) st.origin
        outstanding) :
      Moves st (.ends (.error (.interrupted (.inserting table.spec) outstanding))
        { st.state with inner := st.left c s limits table })
  /-- A call has failed. -/
  | failed {b : Batch} {f : Failure} (hinterrupt : s.interrupts st.state.inner.waits = false)
      (hfirst : (st.left c s limits table).firstFailed? (st.dispatch limits).calls =
        some (b, f)) :
      Moves st (.ends (.error (.transport table b.start f))
        { st.state with inner := st.left c s limits table })
  /-- The reports are of no use. -/
  | refused {f : Failure} (hinterrupt : s.interrupts st.state.inner.waits = false)
      (hanswered : (st.dispatch limits).Answered (st.left c s limits table))
      (hf : Outcome.ofReports st.rows st.tokens (st.dispatch limits).batches
        ((st.dispatch limits).reports (st.left c s limits table)) = .error f) :
      Moves st (.ends (.error f) { st.state with inner := st.left c s limits table })
  /-- Rows are rejected and go into another round. -/
  | goesOn {o : Outcome} {next : List Int} {seconds : Float}
      (hreplies : st.Replies c s limits table o) (hsome : o.rejects ≠ [])
      (hlt : st.attempt < policy.attempts) (hnext : Picks o.positions st.origin next)
      (hwait : policy.wait st.attempt (pace.sample st.state.draws) = .ok seconds)
      (hinterrupt : pace.interrupts st.state.waits.length = false) :
      Moves st (.goesOn ⟨st.attempt + 1, next, o.rows, o.tokens,
        waited table.spec st.attempt next seconds
          { st.state with inner := st.left c s limits table }⟩)

variable {c s limits table pace policy}

/-- A round with a given result closes so. -/
lemma Able.closes_of_result (h : st.Able rows tokens) {r : Except Failure Outcome}
    {p : Paced (World σ)} (hresult : st.result (round c s limits table) = (r, p)) :
    st.Closes c s limits table r ∧ p = { st.state with inner := st.left c s limits table } := by
  have hcloses := h.closes c s limits table
  rw [result_eq] at hresult
  obtain ⟨rfl, rfl⟩ := Prod.mk.inj hresult
  exact ⟨hcloses, rfl⟩

lemma Closes.replies (h : st.Closes c s limits table (.ok o)) : st.Replies c s limits table o := by
  cases h with
  | replied hreplies => exact hreplies

namespace Able

/-- There is nothing else that a stage of an insert leads to. -/
theorem moves (h : st.Able rows tokens) (hle : st.attempt ≤ policy.attempts) :
    st.Moves c s limits table pace policy
      (st.turn policy pace table.spec (round c s limits table)) := by
  have hhonest : st.Honest (round c s limits table) := h.honest
  rcases h.tracks.leads_or_overflows hhonest hle with
    hleads | ⟨o, p, cause, hresult, hsome, hlt, hwait, hturn⟩
  · generalize st.turn policy pace table.spec (round c s limits table) = turn at hleads
    cases hleads with
    | succeeded hresult hnone =>
        obtain ⟨hcloses, rfl⟩ := h.closes_of_result hresult
        exact .accepted hcloses.replies hnone
    | exhausted hresult hsome hlast hnext _ =>
        obtain ⟨hcloses, rfl⟩ := h.closes_of_result hresult
        exact .exhausted hcloses.replies hsome hlast hnext
    | waiting hresult hsome hlt hnext hwait hinterrupt =>
        obtain ⟨hcloses, rfl⟩ := h.closes_of_result hresult
        exact .waiting hcloses.replies hsome hlt hnext hwait hinterrupt
    | goesOn hresult hsome hlt hnext hwait hinterrupt =>
        obtain ⟨hcloses, rfl⟩ := h.closes_of_result hresult
        exact .goesOn hcloses.replies hsome hlt hnext hwait hinterrupt
    | @interrupted during positions outstanding p hresult hpicks =>
        obtain ⟨hcloses, rfl⟩ := h.closes_of_result hresult
        generalize hr : (Except.error (.interrupted during positions) : Except Failure Outcome) = r
          at hcloses
        cases hcloses with
        | replied _ => simp at hr
        | interrupted hinterrupt =>
            obtain ⟨-, rfl⟩ := Failure.interrupted.inj (Except.error.inj hr)
            exact .interrupted hinterrupt hpicks
        | failed _ _ => simp at hr
        | refused _ _ hf =>
            obtain rfl := Except.error.inj hr
            cases Outcome.isUnusable_of_ofReports hf
    | @failed f p hresult hother =>
        obtain ⟨hcloses, rfl⟩ := h.closes_of_result hresult
        generalize hr : (Except.error f : Except Failure Outcome) = r at hcloses
        cases hcloses with
        | replied _ => simp at hr
        | interrupted _ => exact absurd (Except.error.inj hr) (hother _ _)
        | failed hinterrupt hfirst =>
            obtain rfl := Except.error.inj hr
            exact .failed hinterrupt hfirst
        | refused hinterrupt hanswered hf =>
            obtain rfl := Except.error.inj hr
            exact .refused hinterrupt hanswered hf
  · obtain ⟨hcloses, rfl⟩ := h.closes_of_result hresult
    rw [hturn]
    exact .overflow hcloses.replies hsome hlt hwait

/-- The stage that follows a stage is as able to do its round. -/
theorem of_goesOn (h : st.Able rows tokens) (hle : st.attempt ≤ policy.attempts)
    (hturn : st.turn policy pace table.spec (round c s limits table) = .goesOn st') :
    st'.Able rows tokens := by
  have hmoves : st.Moves c s limits table pace policy _ := h.moves hle
  rw [hturn] at hmoves
  cases hmoves with
  | @goesOn o next seconds hreplies hsome hlt hnext hwait hinterrupt =>
      obtain ⟨hfits, -, -⟩ := h.of_replies hreplies
      have hpool := (h.performs c s limits table).pool
      refine ⟨h.tracks.after hfits hnext _ _, h.pairwise_next hreplies hnext,
        fun row hrow => h.sized row (hfits.picks_rows.subset hrow), ?_⟩
      -- there are rows, since some were rejected
      exact .inl (hpool.closed_eq.trans (h.opened.resolve_right (hfits.rows_ne_nil hsome)))

end Able

end Retry.Stage

end TableFeed
