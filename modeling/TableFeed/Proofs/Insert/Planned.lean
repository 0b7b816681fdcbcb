import TableFeed.Proofs.Batch.Faulty
import TableFeed.Proofs.Insert.Unsent

/-!
# Inserts whose rounds are all planned

A round plans the rows that it is given, and every round after the first one is given some of them
again.  If all rows have a size and the tokens match, then the same holds of the rows and tokens of
every round, whatever is rejected on the way, so that no round of the insert fails in its plan.

A plan may have made batches before it fails.  They are not sent, as a round is planned to its end
before its first batch is submitted.

The main results are

* `World.insertAll_planned`: no round fails in its plan if none has to;
* `World.insertAll_all_or_nothing`: an insert that has to fail in its plan sends nothing.
-/

namespace TableFeed

open World Retry

variable {σ : Type} {c : Client σ} {s : Schedule} {limits : BatchLimits} {table : TableName}
  {pace : Pace} {policy : Policy} {options : InsertOptions} {rows : List Row}
  {tokens : Option (List Writing)} {st : Stage (World σ)} {p : Paced (World σ)}

namespace Retry

/-- A stage whose rows are some of the caller's, and are cut by the batches of their plan. -/
structure Stage.Planned (limits : BatchLimits) (rows : List Row) (st : Stage (World σ)) : Prop where
  rows_subset : st.rows ⊆ rows
  matching : Matching st.rows st.tokens
  complete_eq : (Batch.plan limits st.rows st.tokens).complete =
    .ok (Batch.plan limits st.rows st.tokens).batches
  cuts : Batch.Cuts 0 st.rows st.tokens (Batch.plan limits st.rows st.tokens).batches

/-- A stage that keeps track of rows that all have a size is planned. -/
lemma Stage.Tracks.planned (limits : BatchLimits) (h : st.Tracks rows tokens)
    (hsized : Sized rows) : st.Planned limits rows := by
  have hsubset : st.rows ⊆ rows := h.rows_picked.subset
  have hsized' : Sized st.rows := fun row hrow => hsized row (hsubset hrow)
  obtain ⟨hcomplete, hcuts⟩ := Batch.plan_cuts limits hsized' h.matching
  exact ⟨hsubset, h.matching, hcomplete, hcuts⟩

/-- All stages of an insert are planned.  On a pool that is closed there is only one. -/
lemma stages_planned (hsized : Sized rows) (htokens : Matching rows tokens) :
    ∀ a ∈ stages policy pace table.spec (round c s limits table) rows tokens p,
      a.Planned limits rows := by
  intro a ha
  by_cases hopen : p.inner.pool.closed = false ∨ rows = []
  · have hruns := runs_stages policy pace table.spec (round c s limits table) rows tokens p
    obtain ⟨-, hable⟩ := hruns.passes (.first p htokens hsized hopen) policy.attempts_pos
    exact (hable a ha).1.tracks.planned limits hsized
  · rw [not_or, Bool.not_eq_false] at hopen
    have hround := round_run_of_closed c s limits table hopen.1 hopen.2 hsized htokens
    have hresult : (firstStage rows tokens p).result (round c s limits table) = (.error .drained, _) :=
      congrArg (fun x => (x.1, { p with inner := x.2 })) hround
    rw [stages_of_error hresult] at ha
    obtain rfl := List.mem_singleton.1 ha
    exact (Stage.Tracks.first p htokens).planned limits hsized

/-- A stage does not end an insert by blaming the caller. -/
lemma Stage.Moves.ne_misuse {r : Except Failure Nat}
    (h : st.Moves c s limits table pace policy (.ends r p)) (m : Misuse) :
    r ≠ .error (.misuse m) := by
  cases h with
  | refused _ _ hf => cases Outcome.isUnusable_of_ofReports hf <;> simp
  | _ => simp

/-- Neither does a run from an able stage. -/
lemma Runs.ne_misuse {l : List (Stage (World σ))} {r : Except Failure Nat} {p' : Paced (World σ)}
    (h : Runs policy pace table.spec (round c s limits table) st l r p') (hst : st.Able rows tokens)
    (hle : st.attempt ≤ policy.attempts) (m : Misuse) : r ≠ .error (.misuse m) := by
  obtain ⟨-, hable⟩ := h.passes hst hle
  obtain ⟨last, hlast, hends⟩ := h.exists_last
  obtain ⟨ha, hle'⟩ := hable last (List.mem_of_getLast? hlast)
  have hmoves : last.Moves c s limits table pace policy _ := ha.moves hle'
  rw [hends] at hmoves
  exact hmoves.ne_misuse m

end Retry

/-- An insert of rows that all have a size, with tokens that match them, is planned in every round,
and the caller is not blamed. -/
theorem World.insertAll_planned (c : Client σ) (s : Schedule) (pace : Pace) (options : InsertOptions)
    (table : TableName) (p : Paced (World σ)) (hsized : Sized rows) (htokens : Matching rows tokens) :
    ∃ l r p', Runs options.policy pace table.spec (round c s options.limits table)
        (firstStage rows tokens (uncounted p)) l r p' ∧
      (insertAll c s pace options (some table) rows tokens).run p = concluded table rows r p' ∧
      (∀ a ∈ l, a.Planned options.limits rows) ∧
      ∀ m, ((insertAll c s pace options (some table) rows tokens).run p).1 ≠ .error (.misuse m) := by
  have hruns := runs_stages options.policy pace table.spec (round c s options.limits table) rows
    tokens (uncounted p)
  have hinsert := insertAll_run c s pace options table p htokens
  generalize (run options.policy pace table.spec (round c s options.limits table) rows
    tokens).run (uncounted p) = rp at hruns hinsert
  obtain ⟨r, p'⟩ := rp
  refine ⟨_, r, p', hruns, hinsert, stages_planned hsized htokens, fun m hm => ?_⟩
  by_cases hopen : p.inner.pool.closed = false ∨ rows = []
  · obtain ⟨log, hconcluded⟩ := concluded_eq table rows r p'
    rw [hinsert, hconcluded] at hm
    exact hruns.ne_misuse (.first (uncounted p) htokens hsized hopen) options.policy.attempts_pos m
      (eq_error_of_map hm)
  · rw [not_or, Bool.not_eq_false] at hopen
    obtain ⟨size, tally, hrun⟩ :=
      insertAll_of_closed c s pace options table p hopen.1 hopen.2 hsized htokens
    rw [hrun] at hm
    simp at hm

namespace World

/-- An insert that ended before its first call: nothing was submitted, no wait began, and the operator
was told no more than that a first round begins. -/
def Unbegun (table : TableName) (p p' : Paced (World σ)) : Prop :=
  ∃ told tally, (∀ e ∈ told, ∃ size, e = Event.roundStarted table size) ∧
    p' = { p with inner := { p.inner with tally := tally, log := p.inner.log ++ told } }

/-- An insert that cannot be planned, or that finds the pool closed, ends before its first call. -/
lemma insertAll_unbegun (c : Client σ) (s : Schedule) (pace : Pace) (options : InsertOptions)
    (table : TableName) (p : Paced (World σ))
    (h : ¬ Matching rows tokens ∨ ¬ Sized rows ∨ p.inner.pool.closed = true ∧ rows ≠ []) :
    ∃ f p', (insertAll c s pace options (some table) rows tokens).run p = (.error f, p') ∧
      Refuses f ∧ Unbegun table p p' := by
  by_cases htokens : Matching rows tokens
  · by_cases hsized : Sized rows
    · obtain ⟨hclosed, hsome⟩ := (h.resolve_left (not_not_intro htokens)).resolve_left
        (not_not_intro hsized)
      obtain ⟨size, tally, hrun⟩ :=
        insertAll_of_closed c s pace options table p hclosed hsome hsized htokens
      exact ⟨_, _, hrun, .drained, [.roundStarted table size], tally, by simp, rfl⟩
    · obtain ⟨f, hrun⟩ := insertAll_of_not_sized hsized htokens p
      exact ⟨_, _, hrun, .fault f, [], {}, by simp, by rw [List.append_nil]; rfl⟩
  · obtain ⟨m, hrun⟩ := insertAll_of_not_matching htokens p
    exact ⟨_, _, hrun, .misuse m, [], p.inner.tally, by simp, by rw [List.append_nil]⟩

/-- A plan ends at the first row that it cannot take, and its batches are those of the rows before, as
far as a limit has closed them; but an insert that has to fail in its plan sends none of them, and one
that does not have to fails in the plan of no round. -/
theorem insertAll_all_or_nothing (c : Client σ) (s : Schedule) (pace : Pace)
    (options : InsertOptions) (table : TableName) (rows : List Row) (tokens : Option (List Writing))
    (p : Paced (World σ)) :
    (∀ i f, Batch.FirstFault rows tokens i f → Batch.HaltsAt options.limits rows tokens i f ∧
      (Matching rows tokens →
        ((insertAll c s pace options (some table) rows tokens).run p).1 = .error (.fault f))) ∧
    (¬ Matching rows tokens ∨ ¬ Sized rows ∨ p.inner.pool.closed = true ∧ rows ≠ [] →
      ∃ f p', (insertAll c s pace options (some table) rows tokens).run p = (.error f, p') ∧
        Refuses f ∧ Unbegun table p p') ∧
    (Matching rows tokens → Sized rows → ∃ l r p',
      Runs options.policy pace table.spec (round c s options.limits table)
          (firstStage rows tokens (uncounted p)) l r p' ∧
        (insertAll c s pace options (some table) rows tokens).run p = concluded table rows r p' ∧
        ∀ a ∈ l, a.Planned options.limits rows) := by
  refine ⟨fun i f h => ⟨h.haltsAt options.limits, fun htokens => ?_⟩,
    insertAll_unbegun c s pace options table p, fun htokens hsized => ?_⟩
  · rw [insertAll_of_fault h.fault_eq htokens p]
  · obtain ⟨l, r, p', hruns, hinsert, hplanned, -⟩ :=
      insertAll_planned c s pace options table p hsized htokens
    exact ⟨l, r, p', hruns, hinsert, hplanned⟩

end World

end TableFeed
