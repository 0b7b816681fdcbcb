import TableFeed.Proofs.Batch.Greedy
import TableFeed.Proofs.Insert.Courses

/-!
# The account of an insert

The operator is told of an insert round by round: that a round begins and how much it sends, how many
rows are left for the next one, and how the insert has ended.  The counters behind this are kept by the
rounds, while attempts are counted by the loop around them and calls are made by the upload, so it has
to be shown that they agree.  `Event.account` is the part of a log that tells of rounds.  `World.Quiet`
says of an action that it adds nothing to it, which is so of everything that a round does after it has
begun.

The main results are

* `Quiet.upload` and `Stage.Able.account_left`: a round tells once that it begins;
* `Runs.account`: a run tells of its rounds in order, and its tally is theirs;
* `Tally.after_new` and `Tells.sum_failedRows`: the sums that the tally of a whole run amounts to;
* `World.insertAll_counts`: what an insert reports is what it has sent.
-/

namespace TableFeed

open World Retry

/-! ### What is told of rounds -/

namespace Event

/-- An event that tells of the rounds of an insert: one begins, another one will follow, or the last one
has ended. -/
def isAccount : Event → Bool
  | roundStarted .. | roundRetrying .. | retryScheduled .. | retriesExhausted .. => true
  | insertCompleted .. => true
  | _ => false

/-- What a log tells of the rounds of inserts. -/
def account (log : List Event) : List Event := log.filter isAccount

@[simp] lemma account_append (log log' : List Event) :
    account (log ++ log') = account log ++ account log' := List.filter_append ..

/-- How many rows an event says will be inserted again. -/
def failedRows : Event → Nat
  | retryScheduled _ _ rows _ => rows
  | _ => 0

end Event

namespace World

variable {σ α β : Type} {c : Client σ} {s : Schedule} {table : TableName} {w : World σ}

/-- An action that tells the operator nothing of rounds, however it ends. -/
def Quiet (x : Action (World σ) α) : Prop :=
  ∀ w, Event.account (x.run w).2.log = Event.account w.log

namespace Quiet

lemma answer (r : Except Failure α) : Quiet (Action.answer r : Action (World σ) α) := fun _ => rfl

lemma pure (a : α) : Quiet (pure a : Action (World σ) α) := fun _ => rfl

lemma throw (f : Failure) : Quiet (throw f : Action (World σ) α) := fun _ => rfl

lemma get : Quiet (get : Action (World σ) (World σ)) := fun _ => rfl

lemma note {e : Event} (h : e.isAccount = false) :
    Quiet (TableFeed.note e : Action (World σ) Unit) := by
  intro w
  rw [Action.run_note]
  simp [Logged.note, Event.account, h]

lemma remotely (x : Action σ α) : Quiet (remotely x) := fun _ => rfl

lemma bind {x : Action (World σ) α} {f : α → Action (World σ) β} (hx : Quiet x)
    (hf : ∀ a, Quiet (f a)) : Quiet (x >>= f) := by
  intro w
  rw [Action.run_bind]
  have hfirst := hx w
  rcases hrun : x.run w with ⟨f' | a, w'⟩
  all_goals rw [hrun] at hfirst
  · exact hfirst
  · exact (hf a w').trans hfirst

/-- What calls tell is not of rounds. -/
lemma insert (c : Client σ) (table : TableName) (b : Batch) : Quiet (insert c table b) := by
  refine (Quiet.remotely _).bind fun report => ?_
  dsimp only
  split
  · exact (Quiet.note rfl).bind fun _ => .pure report
  · exact .pure report

end Quiet

lemma account_runCall (n : Nat) (w : World σ) :
    Event.account (runCall c n w).log = Event.account w.log := by
  unfold runCall
  split
  · rfl
  · next job _ => exact Quiet.insert c job.table job.batch w

lemma account_runCalls (calls : List Nat) (w : World σ) :
    Event.account (runCalls c calls w).log = Event.account w.log := by
  induction calls generalizing w with
  | nil => rfl
  | cons n rest ih => exact (ih _).trans (account_runCall n w)

namespace Quiet

lemma submit (job : Job) : Quiet (submit c s job) := by
  intro w
  cases hclosed : w.pool.closed with
  | true =>
      show Event.account (World.submit c s job w).2.log = _
      rw [World.submit, Pool.submit_of_closed hclosed]
  | false =>
      show Event.account (World.submit c s job w).2.log = _
      rw [World.submit, Pool.submit_of_not_closed hclosed]
      refine (account_runCalls _ _).trans ?_
      show Event.account (w.log ++ w.pool.announcement) = Event.account w.log
      unfold Pool.announcement
      split <;> simp [Event.account, Event.isAccount]

lemma submitAll (batches : List Batch) : Quiet (submitAll c s table batches) := by
  induction batches with
  | nil => exact .pure []
  | cons b rest ih => exact (Quiet.submit _).bind fun n => ih.bind fun calls => .pure _

lemma await (calls : List Nat) : Quiet (await c s calls) := by
  intro w
  have hbegin : ∀ ns, Event.account (runCalls c ns { w with waits := w.waits + 1 }).log =
      Event.account w.log := fun ns => account_runCalls ns _
  show Event.account (World.await c s calls w).2.log = _
  unfold World.await
  dsimp only
  split
  · exact hbegin _
  · split
    · exact hbegin _
    · dsimp only
      split
      · exact (account_runCalls _ _).trans (hbegin _)
      · exact (account_runCalls _ _).trans ((account_runCalls _ _).trans (hbegin _))

/-- An upload tells nothing of rounds. -/
lemma upload (batches : List Batch) : Quiet (upload c s table batches) := by
  refine (Quiet.submitAll batches).bind fun calls => (Quiet.await _).bind fun interrupted => ?_
  refine Quiet.get.bind fun w => ?_
  dsimp only
  split
  · exact .throw _
  · split
    · exact (Quiet.note rfl).bind fun _ => .throw _
    · exact .pure _

end Quiet

end World

/-! ### The account of a round -/

/-- Batches that are as large as their rows, told in their rows. -/
lemma Batch.sizeOf_eq {batches : List Batch} (h : ∀ b ∈ batches, b.size = estimates b.rows) :
    Batch.sizeOf batches = ⟨batches.length, (batches.flatMap Batch.rows).length,
      estimates (batches.flatMap Batch.rows)⟩ := by
  induction batches with
  | nil => rfl
  | cons b rest ih =>
      have hrest := ih fun b' hb' => h b' (by simp [hb'])
      simp only [Batch.sizeOf, RoundSize.mk.injEq] at hrest ⊢
      simp [hrest, h b (by simp)]

namespace Dispatch

/-- The rows that a round sends. -/
def rows (d : Dispatch) : List Row := d.batches.flatMap Batch.rows

/-- The size of a round: its calls, their rows and the estimated size of these. -/
def size (d : Dispatch) : RoundSize := ⟨d.batches.length, d.rows.length, estimates d.rows⟩

/-- What the operator is told when a round of a given number begins. -/
def opening (table : TableName) (round : Nat) (d : Dispatch) : Event :=
  if round = 1 then .roundStarted table d.size else .roundRetrying table d.size

end Dispatch

variable {σ : Type} {c : Client σ} {s : Schedule} {pace : Pace} {options : InsertOptions}
  {table : TableName} {rows : List Row} {tokens : Option (List Writing)} {limits : BatchLimits}
  {policy : Policy} {st st' : Stage (World σ)} {l : List (Stage (World σ))}
  {r : Except Failure Nat} {p p' : Paced (World σ)}

namespace Retry.Stage.Able

lemma rows_dispatch (limits : BatchLimits) (h : st.Able rows tokens) :
    (st.dispatch limits).rows = st.rows := (h.cuts limits).rows_eq

lemma size_dispatch (limits : BatchLimits) (h : st.Able rows tokens) :
    Batch.sizeOf (st.dispatch limits).batches = (st.dispatch limits).size := by
  refine Batch.sizeOf_eq fun b hb => ?_
  obtain ⟨hfilled, -⟩ := Batch.planFrom_filled limits h.sized
    (Batch.Open.counted_empty 0 st.tokens.isSome) (Batch.Open.growing_empty limits 0)
    fun ts hts => (h.tracks.matching ts hts).ge
  exact (hfilled b hb).size_eq

/-- A round tells once that it begins, and nothing else of rounds. -/
lemma account_left (c : Client σ) (s : Schedule) (limits : BatchLimits) (table : TableName)
    (h : st.Able rows tokens) (hrounds : st.state.inner.tally.rounds + 1 = st.attempt) :
    Event.account (st.left c s limits table).log = Event.account st.state.inner.log ++
      [(st.dispatch limits).opening table st.attempt] := by
  obtain ⟨hcomplete, -⟩ := Batch.plan_cuts limits h.sized h.tracks.matching
  have hplan : (Action.answer (liftFault (Batch.plan limits st.rows st.tokens).complete)).run
      st.state.inner = (.ok (st.dispatch limits).batches, st.state.inner) := by
    rw [hcomplete]
    rfl
  have hbegin := beginRound_run table st.rows.length (st.dispatch limits).batches st.state.inner
  show Event.account ((round c s limits table st.rows st.tokens).run st.state.inner).2.log = _
  unfold World.round
  rw [Action.run_bind_of_ok hplan, Action.run_bind_of_ok hbegin]
  refine ((Quiet.upload _).bind (fun reports => .answer _) _).trans ?_
  rw [Event.account_append, World.opening, h.size_dispatch limits, Dispatch.opening]
  by_cases hfirst : st.attempt = 1
  · have hnone : ¬ 0 < st.state.inner.tally.rounds := by omega
    rw [if_neg hnone, if_pos hfirst]
    rfl
  · have hsome : 0 < st.state.inner.tally.rounds := by omega
    rw [if_pos hsome, if_neg hfirst]
    rfl

end Retry.Stage.Able

/-! ### The account of a run -/

/-- The tally after rounds with given dispatches. -/
def Tally.after (t : Tally) (ds : List Dispatch) : Tally :=
  ds.foldl (fun t d => t.next d.rows.length d.batches.length) t

/-- What the operator is told of rounds, from the one with a given number on: each of them begins, and
between two of them it is told how many rows will be inserted again. -/
inductive Tells (table : TableName) : Nat → List Dispatch → List Event → Prop where
  /-- The round is the last one. -/
  | last (round : Nat) (d : Dispatch) : Tells table round [d] [d.opening table round]
  /-- The round is followed by another one. -/
  | next {round : Nat} {d d' : Dispatch} {ds : List Dispatch} {told : List Event} (seconds : Float)
      (rest : Tells table (round + 1) (d' :: ds) told) :
      Tells table round (d :: d' :: ds)
        (d.opening table round :: .retryScheduled table.spec round d'.rows.length seconds :: told)

/-- What the operator is told at the end of a run of a number of rounds: that rows are given up, if they
are, and nothing if none is left. -/
structure TellsEnd (table : TableName) (rounds : Nat) (r : Except Failure Nat) (told : List Event) :
    Prop where
  of_ok : ∀ k, r = .ok k → k = rounds ∧ told = []
  of_rejected : ∀ failures n, r = .error (.rejected failures n) →
    n = rounds ∧ told = [.retriesExhausted table.spec rounds failures.length]

namespace Retry

/-- What a stage leads to is told after its round. -/
lemma Stage.Moves.account_ends (h : st.Moves c s limits table pace policy (.ends r p)) :
    p.inner.tally = (st.left c s limits table).tally ∧ ∃ told,
      Event.account p.inner.log = Event.account (st.left c s limits table).log ++ told ∧
        TellsEnd table st.attempt r told := by
  have hnothing : ∀ log : List Event, Event.account log = Event.account log ++ [] := by simp
  cases h with
  | accepted _ _ => exact ⟨rfl, [], hnothing _, by simp, by simp⟩
  | @exhausted o next _ _ _ hnext =>
      have hlength : next.length = (givenUp next o).length := by
        have hpositions := congrArg List.length (positions_givenUp hnext)
        rw [List.length_map] at hpositions
        exact hpositions.symm
      refine ⟨rfl, _, Event.account_append _ _, by simp, fun failures n hr => ?_⟩
      obtain ⟨rfl, rfl⟩ : givenUp next o = failures ∧ st.attempt = n := by simpa using hr
      exact ⟨rfl, by rw [← hlength]; rfl⟩
  | overflow _ _ _ _ => exact ⟨rfl, [], hnothing _, by simp, by simp⟩
  | waiting _ _ _ _ _ _ => exact ⟨rfl, _, Event.account_append _ _, by simp, by simp⟩
  | interrupted _ _ => exact ⟨rfl, [], hnothing _, by simp, by simp⟩
  | failed _ _ => exact ⟨rfl, [], hnothing _, by simp, by simp⟩
  | refused _ _ hf =>
      cases Outcome.isUnusable_of_ofReports hf <;> exact ⟨rfl, [], hnothing _, by simp, by simp⟩

/-- Between two rounds the operator is told of the rows that the second one sends. -/
lemma Stage.Moves.account_goesOn (h : st.Moves c s limits table pace policy (.goesOn st')) :
    st'.state.inner.tally = (st.left c s limits table).tally ∧ st'.attempt = st.attempt + 1 ∧
      ∃ seconds, Event.account st'.state.inner.log = Event.account (st.left c s limits table).log ++
        [.retryScheduled table.spec st.attempt st'.rows.length seconds] := by
  cases h with
  | @goesOn o next seconds _ _ _ hnext _ _ =>
      have hlength : next.length = o.rows.length := by
        rw [hnext.length_eq, Outcome.rows, Outcome.positions, List.length_map, List.length_map]
      refine ⟨rfl, rfl, Number.roundPlaces 3 seconds, (Event.account_append _ _).trans ?_⟩
      rw [hlength]
      rfl

/-- A run tells of its rounds as it makes them, and its tally is theirs. -/
lemma Runs.account (h : Runs policy pace table.spec (round c s limits table) st l r p)
    (hst : st.Able rows tokens) (hle : st.attempt ≤ policy.attempts)
    (hrounds : st.state.inner.tally.rounds + 1 = st.attempt) :
    ∃ told ending, Tells table st.attempt (l.map (Stage.dispatch limits)) told ∧
      Event.account p.inner.log = Event.account st.state.inner.log ++ told ++ ending ∧
      TellsEnd table (st.state.inner.tally.rounds + l.length) r ending ∧
      p.inner.tally = st.state.inner.tally.after (l.map (Stage.dispatch limits)) := by
  induction h with
  | @last st r p hturn =>
      have hmoves : st.Moves c s limits table pace policy _ := hst.moves hle
      rw [hturn] at hmoves
      obtain ⟨htally, ending, hending, hends⟩ := hmoves.account_ends
      refine ⟨_, ending, .last _ _, ?_, ?_, ?_⟩
      · rw [hending, hst.account_left c s limits table hrounds]
      · rwa [List.length_singleton, hrounds]
      · rw [htally, (hst.performs c s limits table).tally_eq, ← hst.rows_dispatch limits]
        rfl
  | @next st st' l r p hturn hrest ih =>
      have hmoves : st.Moves c s limits table pace policy _ := hst.moves hle
      rw [hturn] at hmoves
      obtain ⟨htally, hattempt, seconds, hscheduled⟩ := hmoves.account_goesOn
      have hst' : st'.Able rows tokens := hst.of_goesOn hle hturn
      have hlt := (Stage.attempt_of_goesOn hturn).2
      have hnext : st'.state.inner.tally =
          st.state.inner.tally.next (st.dispatch limits).rows.length
            (st.dispatch limits).batches.length := by
        rw [htally, (hst.performs c s limits table).tally_eq, ← hst.rows_dispatch limits]
      have hrounds' : st'.state.inner.tally.rounds = st.state.inner.tally.rounds + 1 := by
        rw [hnext]
        rfl
      obtain ⟨told, ending, htells, haccount, hends, hcounted⟩ := ih hst' (by omega) (by omega)
      obtain ⟨l', rfl⟩ := hrest.exists_cons
      rw [hattempt, List.map_cons] at htells
      refine ⟨_, ending, .next seconds htells, ?_, ?_, ?_⟩
      · rw [haccount, hscheduled, hst.account_left c s limits table hrounds,
          hst'.rows_dispatch limits]
        simp
      · rw [List.length_cons, ← Nat.add_assoc, Nat.add_right_comm, ← hrounds']
        exact hends
      · rw [hcounted, hnext]
        rfl

end Retry

/-! ### The counters -/

namespace Tally

/-- What is counted after the first round. -/
lemma after_of_pos {t : Tally} (h : 0 < t.rounds) (ds : List Dispatch) :
    t.after ds = ⟨t.rounds + ds.length, t.batches + (ds.map fun d => d.batches.length).sum,
      t.retried + (ds.map fun d => d.rows.length).sum⟩ := by
  induction ds generalizing t with
  | nil => rfl
  | cons d rest ih =>
      have hnext : t.next d.rows.length d.batches.length =
          ⟨t.rounds + 1, t.batches + d.batches.length, t.retried + d.rows.length⟩ := by
        rw [Tally.next, if_pos h]
      show Tally.after (t.next d.rows.length d.batches.length) rest = _
      rw [hnext, ih (Nat.succ_pos _)]
      simp only [List.length_cons, List.map_cons, List.sum_cons, Tally.mk.injEq]
      omega

/-- The batches of all rounds are counted, and the rows of all rounds but the first one. -/
lemma after_new (d : Dispatch) (ds : List Dispatch) :
    Tally.after {} (d :: ds) = ⟨(d :: ds).length, ((d :: ds).map fun d => d.batches.length).sum,
      (ds.map fun d => d.rows.length).sum⟩ := by
  show Tally.after (Tally.next {} d.rows.length d.batches.length) ds = _
  rw [after_of_pos (Nat.succ_pos _)]
  simp [Tally.next, Nat.add_comm]

end Tally

/-- As many rows are said to be inserted again as the rounds after the first one send. -/
lemma Tells.sum_failedRows {round : Nat} {d : Dispatch} {ds : List Dispatch} {told : List Event}
    (h : Tells table round (d :: ds) told) :
    (told.map Event.failedRows).sum = (ds.map fun d => d.rows.length).sum := by
  have hopening : ∀ (round : Nat) (d : Dispatch), (d.opening table round).failedRows = 0 := by
    intro round d
    unfold Dispatch.opening
    split <;> rfl
  generalize hds : d :: ds = l at h
  induction h generalizing d ds with
  | last round d' =>
      obtain ⟨-, rfl⟩ := List.cons.inj hds
      simp [hopening]
  | next seconds rest ih =>
      obtain ⟨-, rfl⟩ := List.cons.inj hds
      rw [List.map_cons, List.map_cons, List.sum_cons, List.sum_cons, ih rfl, hopening]
      simp [Event.failedRows]

/-! ### The whole insert -/

/-- What the operator is told by an insert that has made rounds with given dispatches, and what the caller
gets for it. -/
inductive Accounts (table : TableName) (rows : List Row) (ds : List Dispatch) :
    Except Failure Summary → List Event → Prop where
  /-- All rows were accepted. -/
  | returned {summary : Summary} {told : List Event} (tells : Tells table 1 ds told)
      (table_eq : summary.table = table) (rows_eq : summary.rows = rows.length)
      (attempts_eq : summary.attempts = ds.length)
      (batches_eq : summary.batches = (ds.flatMap (Dispatch.jobs table)).length)
      (retried_eq : summary.retried = (told.map Event.failedRows).sum)
      (submitted_eq : summary.retried + rows.length = (ds.flatMap Dispatch.rows).length) :
      Accounts table rows ds (.ok summary)
        (told ++ [.insertCompleted table rows.length summary.attempts summary.batches])
  /-- Rows are given up. -/
  | gaveUp {failures : List RejectedRow} {told : List Event} (tells : Tells table 1 ds told) :
      Accounts table rows ds (.error (.rejected failures ds.length))
        (told ++ [.retriesExhausted table.spec ds.length failures.length])

/-- A result of which the operator is told: rows are given up, or none is left. -/
def Reckoned (r : Except Failure α) : Prop :=
  ∀ f, r = .error f → ∃ failures n, f = .rejected failures n

lemma Reckoned.of_map {f : α → β} {r : Except Failure α} (h : Reckoned (r.map f)) : Reckoned r := by
  rintro g rfl
  exact h g rfl

/-- The calls of a last round have been answered if its result is reckoned: that a call has failed, or
that the wait for it was interrupted, is not. -/
lemma Dispatch.Finishes.answered {w : World σ} {d : Dispatch} {attempt wait sleep sleeps : Nat}
    (h : d.Finishes s pace policy table w attempt wait sleep r sleeps) (hr : Reckoned r) :
    d.Answered w := by
  cases h with
  | decided _ hsettled _ => exact hsettled.answered
  | refused _ hrefused => exact hrefused.answered
  | interrupted _ _ _ => simpa using hr _ rfl
  | failed _ _ => simpa using hr _ rfl

namespace World

/-- All calls of an insert that is reckoned have been answered. -/
lemma Concludes.answered {ds : List Dispatch} (h : Concludes s pace policy table p p' ds r)
    (hcourse : Course s pace table rows tokens p p' ds) (hr : Reckoned r) :
    ∀ d ∈ ds, d.Answered p'.inner := by
  cases h with
  | unsent hnone _ _ => simp [hnone]
  | @finished before last _ hsplit hfinishes =>
      intro d hd
      obtain ⟨before', after, rfl⟩ := List.append_of_mem hd
      cases after with
      | nil =>
          obtain rfl : d = last := by simpa using congrArg List.getLast? hsplit
          exact hfinishes.answered hr
      | cons d' after =>
          have hnext := hcourse.next
          rw [List.isChain_append_cons_cons] at hnext
          exact hnext.2.1.1.answered

/-- What an insert answers with is what its rounds come to, and if it returns then this is told last. -/
lemma account_concluded {d : Dispatch} {ds : List Dispatch} {told ending : List Event}
    (htells : Tells table 1 (d :: ds) told) (hends : TellsEnd table (d :: ds).length r ending)
    (hfirst : d.rows = rows) (htally : p.inner.tally = Tally.after {} (d :: ds)) (hr : Reckoned r) :
    ∃ last, Event.account (concluded table rows r p).2.inner.log = Event.account p.inner.log ++ last ∧
      Accounts table rows (d :: ds) (concluded table rows r p).1 (told ++ ending ++ last) := by
  rw [Tally.after_new] at htally
  cases r with
  | ok attempts =>
      obtain ⟨rfl, rfl⟩ := hends.of_ok attempts rfl
      have hsummary : summaryOf table rows p.inner.tally (d :: ds).length =
          ⟨table, rows.length, (d :: ds).length, ((d :: ds).map fun d => d.batches.length).sum,
            (ds.map fun d => d.rows.length).sum⟩ := by rw [summaryOf, htally]
      refine ⟨[.insertCompleted table rows.length (d :: ds).length p.inner.tally.batches],
        Event.account_append _ _, ?_⟩
      rw [List.append_nil, htally]
      show Accounts table rows (d :: ds) (.ok (summaryOf ..)) _
      rw [hsummary]
      refine .returned htells rfl rfl rfl ?_ htells.sum_failedRows.symm ?_
      · simp [List.length_flatMap, Dispatch.jobs]
      · simp [List.length_flatMap, hfirst, Nat.add_comm]
  | error f =>
      obtain ⟨failures, n, rfl⟩ := hr f rfl
      obtain ⟨rfl, rfl⟩ := hends.of_rejected failures n rfl
      refine ⟨[], by simp [concluded], ?_⟩
      rw [List.append_nil]
      exact .gaveUp htells

/-- An insert that returns, or gives up rows, has told the operator of its rounds in order, of each once
and with what it has sent, and the numbers that it answers with are those of the calls. -/
theorem insertAll_counts (c : Client σ) (s : Schedule) (pace : Pace) (options : InsertOptions)
    (table : TableName) (rows : List Row) (tokens : Option (List Writing)) (p : Paced (World σ)) :
    ∃ ds q, (insertAll c s pace options (some table) rows tokens).run p = q ∧
      Course s pace table rows tokens p q.2 ds ∧
      (Reckoned q.1 → (∀ d ∈ ds, d.Answered q.2.inner) ∧
        ∃ told, Event.account q.2.inner.log = Event.account p.inner.log ++ told ∧
          Accounts table rows ds q.1 told) := by
  generalize hq : (insertAll c s pace options (some table) rows tokens).run p = q
  rcases insertAll_cases hq with ⟨f, log, tally, hf, -, rfl⟩ | ⟨hfirst, l, r, p', hruns, rfl⟩
  · refine ⟨[], _, rfl, Alongside.course_nil ⟨rfl, rfl, rfl⟩, fun hr => ?_⟩
    obtain ⟨failures, n, rfl⟩ := hr f rfl
    cases hf
  · obtain ⟨log, hconcluded⟩ := concluded_eq table rows r p'
    have halong : Alongside p' (concluded table rows r p').2 := by
      rw [hconcluded]
      exact ⟨rfl, rfl, rfl⟩
    have hcourse := hruns.course hfirst (q := p) ⟨rfl, rfl, rfl⟩ halong
    refine ⟨_, _, rfl, hcourse, fun hr => ?_⟩
    have hreckoned : Reckoned r := by
      rw [hconcluded] at hr
      exact hr.of_map
    have hconcludes := hruns.concludes hfirst (q := p) ⟨rfl, rfl, rfl⟩ halong
    refine ⟨hconcludes.answered hcourse hreckoned, ?_⟩
    obtain ⟨told, ending, htells, haccount, hends, htally⟩ :=
      hruns.account hfirst options.policy.attempts_pos rfl
    obtain ⟨l, rfl⟩ := hruns.exists_cons
    have hrounds : (firstStage rows tokens (uncounted p)).state.inner.tally.rounds = 0 := rfl
    rw [hrounds, Nat.zero_add, ← List.length_map (Stage.dispatch options.limits)] at hends
    have hrows : ((firstStage rows tokens (uncounted p)).dispatch options.limits).rows = rows :=
      hfirst.rows_dispatch options.limits
    obtain ⟨last, hlast, haccounts⟩ := account_concluded htells hends hrows htally hreckoned
    refine ⟨told ++ ending ++ last, ?_, haccounts⟩
    rw [hlast, haccount, List.append_assoc, List.append_assoc, List.append_assoc]
    rfl

end World

end TableFeed
