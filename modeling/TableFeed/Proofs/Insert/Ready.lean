import TableFeed.Proofs.Insert.Settled

/-!
# Stages whose reports are plain

If every index of a report is an integer or absent, then the reports on the batches of a round are
all of use and name the rejected rows, or they are refused.  `Stage.Ready` is the invariant of the
stages of an insert, apart from what is known of the rows once and for all.

The main results are

* `Stage.Ready.follows`: the stage that follows a ready stage is ready, and its origin has exactly
  the positions that were reported;
* `Stage.Ready.ends`: how a run ends with a ready stage.
-/

namespace TableFeed

open Position World

namespace Retry.Stage

variable {σ : Type} (c : Client σ) (s : Schedule) (limits : BatchLimits) (table : TableName)

/-- The reports on the batches of a stage have integers for indices, or none. -/
def Plain (st : Stage (World σ)) : Prop :=
  ∀ x ∈ (st.dispatch limits).entries (st.left c s limits table), x.2.Plain

/-- A stage of an insert that can do its round. -/
structure Ready (rows : List Row) (tokens : Option (List Writing)) (st : Stage (World σ)) :
    Prop where
  tracks : st.Tracks rows tokens
  ascending : st.origin.Pairwise (· < ·)
  opened : st.state.inner.pool.closed = false

variable {c s limits table} {rows : List Row} {tokens : Option (List Writing)}
  {st st' : Stage (World σ)} {o : Outcome}

namespace Ready

lemma able (h : st.Ready rows tokens) (hsized : Sized rows) : st.Able rows tokens :=
  ⟨h.tracks, h.ascending, fun row hrow => hsized row (h.tracks.rows_picked.subset hrow),
    .inl h.opened⟩

/-- The batches of a stage cut its rows. -/
lemma cuts (limits : BatchLimits) (h : st.Ready rows tokens) (hsized : Sized rows) :
    Batch.Cuts 0 st.rows st.tokens (st.dispatch limits).batches :=
  (h.able hsized).cuts limits

lemma performs (c : Client σ) (s : Schedule) (limits : BatchLimits) (table : TableName)
    (h : st.Ready rows tokens) (hsized : Sized rows) : st.Performs c s limits table :=
  (h.able hsized).performs c s limits table

/-- The caller's positions of the rows that a round rejects are those that were reported. -/
lemma mem_iff_reported (h : st.Ready rows tokens) (hsized : Sized rows) {w : World σ}
    (husable : (st.dispatch limits).Usable w) {next : List Int}
    (hnext : Picks (Outcome.namedPositions st.rows.length ((st.dispatch limits).entries w))
      st.origin next) (n : Int) : n ∈ next ↔ (st.dispatch limits).Reported w n := by
  rw [hnext.mem_iff]
  constructor
  · rintro ⟨m, hm, hn⟩
    obtain ⟨x, hx, hname⟩ := Outcome.mem_named_iff.1 (Outcome.mem_namedPositions.1 hm).2
    exact ⟨x, hx, m, hname, hn⟩
  · rintro ⟨x, hx, m, hm, hn⟩
    have hmem := Outcome.mem_named_iff.2 ⟨x, hx, hm⟩
    exact ⟨m, Outcome.mem_namedPositions.2
      ⟨within_of_usable (h.cuts limits hsized) husable m hmem, hmem⟩, hn⟩

end Ready

/-! ### What a stage of an insert leads to -/

variable (c s limits table) (pace : Pace) (policy : Policy)

/-- The rows of a round that were rejected, as the reports name them. -/
def outcome (st : Stage (World σ)) : Outcome :=
  .naming st.rows st.tokens
    ((st.dispatch limits).entries (st.left c s limits table))

/-- The round of a stage was answered, and all that was said is of use. -/
structure Replied (st : Stage (World σ)) : Prop where
  interrupts_eq : s.interrupts st.state.inner.waits = false
  answered : (st.dispatch limits).Answered (st.left c s limits table)
  usable : (st.dispatch limits).Usable (st.left c s limits table)

/-- A stage that follows another one in an insert. -/
structure Follows (st st' : Stage (World σ)) : Prop where
  replied : st.Replied c s limits table
  nonempty : st'.origin ≠ []
  lt : st.attempt < policy.attempts
  attempt_eq : st'.attempt = st.attempt + 1
  picks : Picks (st.outcome c s limits table).positions st.origin st'.origin
  state_eq : ∃ seconds, policy.wait st.attempt (pace.sample st.state.draws) = .ok seconds ∧
    st'.state = waited table.spec st.attempt st'.origin seconds
      { st.state with inner := st.left c s limits table }

/-- How an insert ends with a stage, and in which state. -/
inductive Ends (st : Stage (World σ)) : Except Failure Nat → Paced (World σ) → Prop where
  /-- Nothing was reported. -/
  | accepted (hreplied : st.Replied c s limits table)
      (hnone : (st.outcome c s limits table).positions = []) :
      Ends st (.ok st.attempt) { st.state with inner := st.left c s limits table }
  /-- Something was reported, and there is no further attempt. -/
  | exhausted {next : List Int} (hreplied : st.Replied c s limits table) (hsome : next ≠ [])
      (hlast : st.attempt = policy.attempts)
      (hnext : Picks (st.outcome c s limits table).positions st.origin next) :
      Ends st (.error (.rejected (givenUp next (st.outcome c s limits table)) st.attempt))
        (Logged.note (.retriesExhausted table.spec st.attempt next.length)
          { st.state with inner := st.left c s limits table })
  /-- Something was reported, and the wait for the next attempt was interrupted. -/
  | waiting {next : List Int} {seconds : Float} (hreplied : st.Replied c s limits table)
      (hsome : next ≠ []) (hlt : st.attempt < policy.attempts)
      (hnext : Picks (st.outcome c s limits table).positions st.origin next)
      (hinterrupt : pace.interrupts st.state.waits.length = true) :
      Ends st (.error (.interrupted .waiting next)) (waited table.spec st.attempt next seconds
        { st.state with inner := st.left c s limits table })
  /-- The wait for the calls was interrupted. -/
  | interrupted {outstanding : List Int} (hinterrupt : s.interrupts st.state.inner.waits = true)
      (houtstanding : outstanding ⊆ st.origin) :
      Ends st (.error (.interrupted (.inserting table.spec) outstanding))
        { st.state with inner := st.left c s limits table }
  /-- A call has failed. -/
  | failed {b : Batch} {f : Failure} (hfirst : (st.left c s limits table).firstFailed?
        (st.dispatch limits).calls = some (b, f)) :
      Ends st (.error (.transport table b.start f))
        { st.state with inner := st.left c s limits table }
  /-- An entry of the reports names no row of its batch. -/
  | refused {f : Failure}
      (hanswered : (st.dispatch limits).Answered (st.left c s limits table))
      (hunusable : ¬ (st.dispatch limits).Usable (st.left c s limits table))
      (hf : (∃ cause, f = .report cause) ∨ f = .fault .unwritable) :
      Ends st (.error f) { st.state with inner := st.left c s limits table }

variable {c s limits table pace policy}

namespace Ready

/-- A round that was answered plainly leaves the outcome that the reports name. -/
lemma replied (h : st.Ready rows tokens) (hsized : Sized rows) (hplain : st.Plain c s limits table)
    (hreplies : st.Replies c s limits table o) :
    st.Replied c s limits table ∧ o = st.outcome c s limits table := by
  have husable := (Able.settled hreplies).usable hplain
  refine ⟨⟨hreplies.interrupts_eq, hreplies.answered, husable⟩, ?_⟩
  have hnaming := (h.able hsized).ofReports_eq_naming husable
  exact Except.ok.inj (hreplies.outcome_eq.symm.trans hnaming)

/-- A stage that follows a ready stage is ready. -/
theorem follows (h : st.Ready rows tokens) (hsized : Sized rows)
    (hplain : st.Plain c s limits table) (hle : st.attempt ≤ policy.attempts)
    (hturn : st.turn policy pace table.spec (round c s limits table) = .goesOn st') :
    st.Follows c s limits table pace policy st' ∧ st'.Ready rows tokens := by
  have hable := h.able hsized
  have hable' := hable.of_goesOn hle hturn
  have hmoves : st.Moves c s limits table pace policy _ := hable.moves hle
  rw [hturn] at hmoves
  cases hmoves with
  | @goesOn o next seconds hreplies hsome hlt hnext hwait _ =>
      obtain ⟨hreplied, rfl⟩ := h.replied hsized hplain hreplies
      refine ⟨⟨hreplied, Outcome.next_ne_nil hsome hnext, hlt, rfl, hnext, seconds, hwait, rfl⟩,
        hable'.tracks, hable'.ascending, ?_⟩
      exact (hable.performs c s limits table).pool.closed_eq.trans h.opened

/-- If all waits are defined, an insert ends with a ready stage in one of the six ways. -/
theorem ends (h : st.Ready rows tokens) (hsized : Sized rows)
    (hplain : st.Plain c s limits table) (hdefined : policy.Defined)
    (hpos : 0 < st.attempt) (hle : st.attempt ≤ policy.attempts) {r : Except Failure Nat}
    {p : Paced (World σ)}
    (hturn : st.turn policy pace table.spec (round c s limits table) = .ends r p) :
    st.Ends c s limits table pace policy r p := by
  have hable := h.able hsized
  have hmoves : st.Moves c s limits table pace policy _ := hable.moves hle
  rw [hturn] at hmoves
  cases hmoves with
  | accepted hreplies hnone =>
      obtain ⟨hreplied, rfl⟩ := h.replied hsized hplain hreplies
      exact .accepted hreplied (by rw [Outcome.positions, hnone]; rfl)
  | exhausted hreplies hsome hlast hnext =>
      obtain ⟨hreplied, rfl⟩ := h.replied hsized hplain hreplies
      exact .exhausted hreplied (Outcome.next_ne_nil hsome hnext) hlast hnext
  | @overflow o cause _ _ hlt hwait =>
      obtain ⟨seconds, hseconds⟩ := hdefined.wait hpos hlt (pace.sample st.state.draws)
      simp [hseconds] at hwait
  | waiting hreplies hsome hlt hnext _ hinterrupt =>
      obtain ⟨hreplied, rfl⟩ := h.replied hsized hplain hreplies
      exact .waiting hreplied (Outcome.next_ne_nil hsome hnext) hlt hnext hinterrupt
  | interrupted hinterrupt hpicks => exact .interrupted hinterrupt hpicks.subset
  | failed _ hfirst => exact .failed hfirst
  | refused _ hanswered hf =>
      obtain ⟨before, x, hfirst, rfl⟩ := (hable.refused hanswered hf).first hplain
      exact .refused hanswered hfirst.not_usable (Outcome.refusal_eq _ _ _)

end Ready

end Retry.Stage

end TableFeed
