import TableFeed.Proofs.Insert.Runs

/-!
# Inserts that send nothing

An insert is refused before anything is sent if it is given tokens that do not match its rows, if a
row has no size, or if there are rows and the pool is closed.  Neither the remote store nor the pool
is touched then, and no wait begins.

The main result is `World.insertAll_cases`: every other insert is a run of rounds.
-/

namespace TableFeed.World

open Retry

variable {σ : Type} {c : Client σ} {s : Schedule} {pace : Pace} {options : InsertOptions}
  {table : TableName} {rows : List Row} {tokens : Option (List Writing)} {w : World σ}

/-- Tokens that do not match the rows are refused. -/
lemma insertAll_of_not_matching (h : ¬ Matching rows tokens) (p : Paced (World σ)) :
    ∃ m, (insertAll c s pace options (some table) rows tokens).run p = (.error (.misuse m), p) := by
  cases tokens with
  | none => exact absurd (fun ts hts => by simp at hts) h
  | some ts =>
      have hlength : ts.length ≠ rows.length := by
        intro heq
        exact h fun us hus => by
          obtain rfl := Option.some.inj hus
          exact heq
      have hrequest : checkRequest (some table) rows (some ts) =
          .error (.tokenCount ts.length rows.length) := by
        simp [checkRequest, hlength]
      unfold insertAll
      exact ⟨_, Action.run_bind_of_error (by rw [hrequest]; rfl)⟩

/-- An insert whose first round fails, other than by an interruption, ends there. -/
lemma insertAll_of_error (htokens : Matching rows tokens) {p : Paced (World σ)} {f : Failure}
    (hround : (round c s options.limits table rows tokens).run (uncounted p).inner = (.error f, w))
    (hother : ∀ during positions, f ≠ .interrupted during positions) :
    (insertAll c s pace options (some table) rows tokens).run p =
      (.error f, { p with inner := w }) := by
  have hresult : (firstStage rows tokens (uncounted p)).result (round c s options.limits table) =
      (.error f, { p with inner := w }) :=
    congrArg (fun x => (x.1, { p with inner := x.2 })) hround
  rw [insertAll_run c s pace options table p htokens, run_of_error hresult,
    forCaller_of_other hother]
  rfl

/-- Rows whose plan ends early are refused with its fault. -/
lemma insertAll_of_fault {f : Fault} (hf : (Batch.plan options.limits rows tokens).fault = some f)
    (htokens : Matching rows tokens) (p : Paced (World σ)) :
    (insertAll c s pace options (some table) rows tokens).run p =
      (.error (.fault f), uncounted p) := by
  have hround : (round c s options.limits table rows tokens).run (uncounted p).inner =
      (.error (.fault f), (uncounted p).inner) := by
    unfold round
    exact Action.run_bind_of_error (by rw [Plan.complete, hf]; rfl)
  exact insertAll_of_error htokens hround (by simp)

/-- Rows that do not all have a size are refused. -/
lemma insertAll_of_not_sized (h : ¬ Sized rows) (htokens : Matching rows tokens)
    (p : Paced (World σ)) :
    ∃ f, (insertAll c s pace options (some table) rows tokens).run p =
      (.error (.fault f), uncounted p) := by
  have hfault : (Batch.plan options.limits rows tokens).fault ≠ none :=
    fun hnone => h (Batch.sized_of_planFrom hnone)
  obtain ⟨f, hf⟩ := Option.ne_none_iff_exists'.1 hfault
  exact ⟨f, insertAll_of_fault hf htokens p⟩

/-- A pool that is closed takes no batch. -/
lemma upload_run_of_closed (h : w.pool.closed = true) {batches : List Batch} (hsome : batches ≠ []) :
    (upload c s table batches).run w = (.error .drained, w) := by
  obtain ⟨b, rest, rfl⟩ := List.exists_cons_of_ne_nil hsome
  have hsubmit : (submit c s ⟨table, b⟩).run w = (.error .drained, w) := by
    show submit c s ⟨table, b⟩ w = _
    simp [submit, Pool.submit, Pool.start, h, bind, Except.bind]
  have hall : (submitAll c s table (b :: rest)).run w = (.error .drained, w) :=
    Action.run_bind_of_error hsubmit
  exact Action.run_bind_of_error hall

/-- On a pool that is closed a round of rows is planned and told of, and fails with its first batch. -/
lemma round_run_of_closed (c : Client σ) (s : Schedule) (limits : BatchLimits) (table : TableName)
    (hclosed : w.pool.closed = true) (hsome : rows ≠ []) (hsized : Sized rows)
    (htokens : Matching rows tokens) :
    (round c s limits table rows tokens).run w = (.error .drained, { w with
      tally := w.tally.next rows.length (Batch.plan limits rows tokens).batches.length
      log := w.log ++ [opening table (Batch.plan limits rows tokens).batches w.tally] }) := by
  obtain ⟨hcomplete, hcuts⟩ := Batch.plan_cuts limits hsized htokens
  set batches := (Batch.plan limits rows tokens).batches
  have hbatches : batches ≠ [] := by
    intro hnil
    apply hsome
    rw [← hcuts.rows_eq, hnil]
    rfl
  have hbegin := beginRound_run table rows.length batches w
  unfold round
  rw [Action.run_bind_of_ok (by rw [hcomplete]; rfl), Action.run_bind_of_ok hbegin]
  refine Action.run_bind_of_error (upload_run_of_closed ?_ hbatches)
  exact hclosed

/-- A pool that is closed takes no rows.  The operator is told that the first round begins. -/
lemma insertAll_of_closed (c : Client σ) (s : Schedule) (pace : Pace) (options : InsertOptions)
    (table : TableName) (p : Paced (World σ)) (hclosed : p.inner.pool.closed = true)
    (hsome : rows ≠ []) (hsized : Sized rows) (htokens : Matching rows tokens) :
    ∃ size tally, (insertAll c s pace options (some table) rows tokens).run p =
      (.error .drained, { p with inner := { p.inner with
        tally := tally
        log := p.inner.log ++ [.roundStarted table size] } }) := by
  have hclosed' : (uncounted p).inner.pool.closed = true := hclosed
  have hround := round_run_of_closed c s options.limits table hclosed' hsome hsized htokens
  exact ⟨_, _, insertAll_of_error htokens hround (by simp)⟩

/-- A failure of an insert that sends nothing. -/
inductive Refuses : Failure → Prop where
  /-- The tokens do not match the rows. -/
  | misuse (cause : Misuse) : Refuses (.misuse cause)
  /-- A row has no size. -/
  | fault (cause : Fault) : Refuses (.fault cause)
  /-- The pool is closed. -/
  | drained : Refuses .drained

/-- Whatever an insert is given: it is refused and sends nothing, or it is a run of rounds from a first
stage that is able. -/
theorem insertAll_cases {q : Except Failure Summary × Paced (World σ)} {p : Paced (World σ)}
    (hq : (insertAll c s pace options (some table) rows tokens).run p = q) :
    (∃ f log tally, Refuses f ∧ Event.Adds p.inner.log log ∧
        q = (.error f, { p with inner := { p.inner with tally := tally, log := log } })) ∨
      (firstStage rows tokens (uncounted p)).Able rows tokens ∧ ∃ l r p',
        Runs options.policy pace table.spec (round c s options.limits table)
          (firstStage rows tokens (uncounted p)) l r p' ∧ q = concluded table rows r p' := by
  subst hq
  by_cases htokens : Matching rows tokens
  · by_cases hsized : Sized rows
    · by_cases hopen : p.inner.pool.closed = false ∨ rows = []
      · exact .inr ⟨.first (uncounted p) htokens hsized hopen, _, _, _,
          runs_stages options.policy pace table.spec (round c s options.limits table) rows tokens
            (uncounted p), insertAll_run c s pace options table p htokens⟩
      · rw [not_or, Bool.not_eq_false] at hopen
        obtain ⟨size, tally, hrun⟩ :=
          insertAll_of_closed c s pace options table p hopen.1 hopen.2 hsized htokens
        exact .inl ⟨_, _, tally, .drained, .one (.roundStarted table size) _, hrun⟩
    · obtain ⟨f, hrun⟩ := insertAll_of_not_sized hsized htokens p
      exact .inl ⟨_, _, _, .fault f, .refl _, hrun⟩
  · obtain ⟨m, hrun⟩ := insertAll_of_not_matching htokens p
    exact .inl ⟨_, _, _, .misuse m, .refl _, hrun⟩

end TableFeed.World
