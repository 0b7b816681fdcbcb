import TableFeed.Proofs.Insert.Verdicts

/-!
# Inserts without batches

If the reports on the batches of every round keep to a verdict on single rows, then an insert does
what `unbatched` does, which knows nothing of batches, calls and their order: it starts from all
positions and keeps, round after round, those that the verdict rejects.

The main result is `World.insertAll_unbatched`.  It puts two inserts of the same rows side by side,
which may have different clients, limits and schedules; both agree with `unbatched`, and so with each
other.
-/

namespace TableFeed

open Position World Retry

/-- What an insert amounts to for the caller. -/
structure Account where
  /-- The number of rounds. -/
  attempts : Nat
  /-- How many rows were sent again. -/
  retried : Nat
  /-- The rows that were given up. -/
  failures : List RejectedRow
  /-- The waits between the rounds. -/
  waits : List (Except Overflow Float)

namespace Account

/-- The account of an insert whose first round leaves a number of rows rejected, and waits before
the others. -/
def after (a : Account) (again : Nat) (wait : Except Overflow Float) : Account :=
  { a with retried := again + a.retried, waits := wait :: a.waits }

/-- The answer of a run with an account: the number of rounds, or the rows that were given up. -/
def answer (a : Account) : Except Failure Nat :=
  if a.failures.isEmpty then .ok a.attempts else .error (.rejected a.failures a.attempts)

end Account

/-- The rounds from an attempt on, for rows that are given one by one to a verdict.  After it, `left`
more attempts are allowed. -/
def unbatched (policy : Policy) (sample : Nat → Float) (v : Verdict) (rows : List Row)
    (tokens : Option (List Writing)) : Nat → Nat → List Int → Account
  | left, attempt, origin =>
    let rejected := origin.filter (v.rejects rows tokens attempt)
    if rejected.isEmpty then ⟨attempt, 0, [], []⟩
    else match left with
      | 0 => ⟨attempt, 0, rejected.map (v.failure rows tokens attempt), []⟩
      | left + 1 => (unbatched policy sample v rows tokens left (attempt + 1) rejected).after
          rejected.length (policy.wait attempt (sample (attempt - 1)))

section Unbatched

variable {policy : Policy} {sample : Nat → Float} {v : Verdict} {rows : List Row}
  {tokens : Option (List Writing)} {left attempt : Nat} {origin : List Int}

lemma unbatched_of_nil (h : origin.filter (v.rejects rows tokens attempt) = []) :
    unbatched policy sample v rows tokens left attempt origin = ⟨attempt, 0, [], []⟩ := by
  unfold unbatched
  simp [h]

lemma unbatched_zero {rejected : List Int}
    (h : origin.filter (v.rejects rows tokens attempt) = rejected) (hne : rejected ≠ []) :
    unbatched policy sample v rows tokens 0 attempt origin =
      ⟨attempt, 0, rejected.map (v.failure rows tokens attempt), []⟩ := by
  unfold unbatched
  simp [h, hne]

lemma unbatched_succ {rejected : List Int}
    (h : origin.filter (v.rejects rows tokens attempt) = rejected) (hne : rejected ≠ []) :
    unbatched policy sample v rows tokens (left + 1) attempt origin =
      (unbatched policy sample v rows tokens left (attempt + 1) rejected).after
        rejected.length (policy.wait attempt (sample (attempt - 1))) := by
  conv_lhs => unfold unbatched
  simp [h, hne]

end Unbatched

namespace Retry.Inserts

variable {σ : Type} {c : Client σ} {s : Schedule} {limits : BatchLimits} {table : TableName}
  {pace : Pace} {policy : Policy} {v : Verdict} {rows : List Row} {tokens : Option (List Writing)}
  {st : Stage (World σ)} {l : List (Stage (World σ))} {r : Except Failure Nat}
  {p : Paced (World σ)}

/-- The last round of an insert that is not interrupted leaves what the verdict leaves. -/
lemma agrees_last (hready : st.Ready rows tokens) (hsized : Sized rows)
    (hjudged : st.Judged v c s limits table) (hwaits : ∀ k, s.interrupts k = false)
    (hsleeps : ∀ k, pace.interrupts k = false)
    (hends : st.Ends c s limits table pace policy r p) {left : Nat}
    (hleft : policy.attempts = st.attempt + left) (sample : Nat → Float) :
    r = (unbatched policy sample v rows tokens left st.attempt st.origin).answer ∧
      (unbatched policy sample v rows tokens left st.attempt st.origin).retried = 0 ∧
      (unbatched policy sample v rows tokens left st.attempt st.origin).waits = [] ∧
      p.waits = st.state.waits := by
  cases hends with
  | accepted hreplied hnone =>
      have hpicks := hjudged.picks hready hsized hreplied.answered
      rw [hnone, picks_nil] at hpicks
      rw [unbatched_of_nil hpicks]
      exact ⟨rfl, rfl, rfl, rfl⟩
  | exhausted hreplied hsome hlast hnext =>
      have hpicks := hjudged.picks hready hsized hreplied.answered
      obtain rfl := hpicks.unique hnext
      obtain rfl : left = 0 := by omega
      rw [hjudged.givenUp_eq hready hsized hreplied.answered, unbatched_zero rfl hsome]
      refine ⟨?_, rfl, rfl, rfl⟩
      simp [Account.answer, hsome]
  | waiting _ _ _ _ hinterrupt => simp [hsleeps] at hinterrupt
  | interrupted hinterrupt _ => simp [hwaits] at hinterrupt
  | failed hfirst =>
      obtain ⟨n, hcall, houtcome⟩ := exists_of_firstFailed? hfirst
      obtain ⟨report, hok, -⟩ := hjudged _ hcall _ houtcome
      simp at hok
  | refused hanswered hunusable _ =>
      exact absurd (hjudged.usable hanswered) hunusable

/-- From any stage on, an insert that is not interrupted answers, counts and waits as the rounds
without batches do.  What it counts lags behind by the round of the stage itself. -/
lemma agrees (h : Inserts c s limits table pace policy rows tokens (st :: l) r p)
    (hsized : Sized rows) (hjudged : ∀ a ∈ st :: l, a.Judged v c s limits table)
    (hwaits : ∀ k, s.interrupts k = false) (hsleeps : ∀ k, pace.interrupts k = false) {left : Nat}
    (hleft : policy.attempts = st.attempt + left) {sample : Nat → Float} {d : Nat}
    (hsample : ∀ j, pace.sample (d + j) = sample j)
    (hdraws : st.state.draws + 1 = d + st.attempt) (hpos : 0 < st.attempt) :
    r = (unbatched policy sample v rows tokens left st.attempt st.origin).answer ∧
      p.inner.tally.retried = (st.left c s limits table).tally.retried +
        (unbatched policy sample v rows tokens left st.attempt st.origin).retried ∧
      ∃ ws, p.waits = st.state.waits ++ ws ∧ ws.map Except.ok =
        (unbatched policy sample v rows tokens left st.attempt st.origin).waits := by
  generalize hl : st :: l = l' at h hjudged
  induction h generalizing st l left with
  | last hready _ hends =>
      obtain ⟨rfl, -⟩ := List.cons.inj hl
      obtain ⟨hanswer, hretried, hnone, hp⟩ := agrees_last hready hsized
        (hjudged _ (by simp)) hwaits hsleeps hends hleft sample
      obtain ⟨log, hinner⟩ := hends.inner_eq
      refine ⟨hanswer, ?_, [], ?_, ?_⟩
      · rw [hretried, hinner]
        rfl
      · rw [hp, List.append_nil]
      · rw [hnone]
        rfl
  | @next a st' l r p hready hperforms hfollows hrest ih =>
      obtain ⟨rfl, -⟩ := List.cons.inj hl
      obtain ⟨log, hinner⟩ := hfollows.leaves.inner_eq
      obtain ⟨hreplied, hne, hlt, hattempt, hnext, seconds, hwait, hstate⟩ := hfollows
      have hpicks := (hjudged st (by simp)).picks hready hsized hreplied.answered
      have horigin := hpicks.unique hnext
      obtain ⟨left, rfl⟩ : ∃ k, left = k + 1 := ⟨left - 1, by omega⟩
      have hdraws' : st'.state.draws = st.state.draws + 1 := by rw [hstate]; rfl
      have hwaits' : st'.state.waits = st.state.waits ++ [seconds] := by rw [hstate]; rfl
      have hleft' : policy.attempts = st'.attempt + left := by omega
      obtain ⟨hanswer, hretried, ws, hws, hwsok⟩ := ih hleft' (by omega) (by omega) rfl
        fun b hb => hjudged b (List.mem_cons_of_mem _ hb)
      obtain ⟨hready', hperforms'⟩ := hrest.ready st' (by simp)
      rw [unbatched_succ horigin hne, ← hattempt]
      refine ⟨hanswer, ?_, seconds :: ws, ?_, ?_⟩
      · have hlength := hready'.tracks.length_rows
        rw [hretried, hperforms'.tally_eq, hinner]
        simp only [Tally.next, hperforms.tally_eq, Account.after, hlength]
        simp
        omega
      · rw [hws, hwaits']
        simp
      · -- the sample of the wait after an attempt is the one that `unbatched` takes for it
        have hindex : d + (st.attempt - 1) = st.state.draws := by omega
        rw [List.map_cons, hwsok, ← hsample, hindex, ← hwait]
        rfl

end Retry.Inserts

/-! ### Two inserts side by side -/

/-- All that an insert depends on besides its rows, its table and its policy. -/
structure Circumstances (σ : Type) where
  /-- The client. -/
  client : Client σ
  /-- When the calls run. -/
  schedule : Schedule
  /-- The samples of the waits. -/
  pace : Pace
  /-- When a batch is closed. -/
  limits : BatchLimits
  /-- The state in which the insert begins. -/
  start : Paced (World σ)

namespace Circumstances

variable {σ : Type} (v : Verdict) (policy : Policy) (table : TableName) (rows : List Row)
  (tokens : Option (List Writing)) (u : Circumstances σ)

/-- How an insert ends, and the state that it leaves. -/
def insert : Except Failure Summary × Paced (World σ) :=
  (insertAll u.client u.schedule u.pace ⟨u.limits, policy⟩ (some table) rows tokens).run u.start

/-- The stages of an insert. -/
def stages : List (Stage (World σ)) :=
  Retry.stages policy u.pace table.spec (round u.client u.schedule u.limits table) rows tokens
    (uncounted u.start)

/-- Circumstances in which nothing is interrupted, and all reports keep to a verdict. -/
structure Keep : Prop where
  opened : u.start.inner.pool.closed = false
  waits : ∀ k, u.schedule.interrupts k = false
  sleeps : ∀ k, u.pace.interrupts k = false
  judged : ∀ st ∈ u.stages policy table rows tokens,
    st.Judged v u.client u.schedule u.limits table

/-- The sample of a wait, by the number of waits of the insert before it. -/
def sample (j : Nat) : Float := u.pace.sample (u.start.draws + j)

/-- An account describes an insert: the answer, the number of rows, and the waits that were added to
those before. -/
structure Describes (a : Account) : Prop where
  answer_eq : (u.insert policy table rows tokens).1.map (fun y => (y.attempts, y.rows, y.retried)) =
    a.answer.map fun n => (n, rows.length, a.retried)
  waits_eq : ∃ ws, (u.insert policy table rows tokens).2.waits = u.start.waits ++ ws ∧
    ws.map Except.ok = a.waits

variable {v policy table rows tokens u}

/-- An insert that keeps to a verdict is described by the rounds without batches. -/
lemma Keep.describes (h : u.Keep v policy table rows tokens) (hsized : Sized rows)
    (htokens : Matching rows tokens) (hdefined : policy.Defined) :
    u.Describes policy table rows tokens (unbatched policy u.sample v rows tokens
      (policy.attempts - 1) 1 ((List.range rows.length).map Int.ofNat)) := by
  obtain ⟨l, r, p', log, hl, hinserts, hinsert, -⟩ := insertAll_inserts u.client u.schedule u.pace
    ⟨u.limits, policy⟩ table u.start hsized htokens hdefined h.opened .trivial .intro
    fun a ha _ _ => (h.judged a ha).plain
  have hjudged := h.judged
  rw [stages, hl] at hjudged
  have hleft : policy.attempts = (firstStage rows tokens (uncounted u.start)).attempt +
      (policy.attempts - 1) := by
    have := policy.attempts_pos
    simp only [firstStage]
    omega
  have hsample : ∀ j, u.pace.sample (u.start.draws + j) = u.sample j := fun _ => rfl
  obtain ⟨hanswer, hretried, ws, hws, hwsok⟩ :=
    hinserts.agrees hsized hjudged h.waits h.sleeps hleft hsample rfl Nat.one_pos
  -- the first round is not a retry
  have hnone : ((firstStage rows tokens (uncounted u.start)).left u.client u.schedule u.limits
      table).tally.retried = 0 := by
    rw [(hinserts.ready _ List.mem_cons_self).2.tally_eq]
    rfl
  rw [hnone, Nat.zero_add] at hretried
  set a := unbatched policy u.sample v rows tokens (policy.attempts - 1) 1
    ((List.range rows.length).map Int.ofNat)
  have hanswer' : r = a.answer := hanswer
  have hretried' : p'.inner.tally.retried = a.retried := hretried
  refine ⟨?_, ws, ?_, hwsok⟩
  · rw [insert, hinsert, hanswer']
    cases a.answer with
    | error f => rfl
    | ok n => simp [Except.map, summaryOf, hretried']
  · rw [insert, hinsert]
    exact hws

end Circumstances

namespace World

/-- Two inserts of the same rows that keep to the same verdict are described by one account, that of
the rounds without batches, and so cannot be told apart: neither by the answer nor by the waits. -/
theorem insertAll_unbatched {σ τ : Type} (v : Verdict) (policy : Policy) (table : TableName)
    (rows : List Row) (tokens : Option (List Writing)) (u : Circumstances σ) (u' : Circumstances τ)
    (hsized : Sized rows) (htokens : Matching rows tokens) (hdefined : policy.Defined)
    (hu : u.Keep v policy table rows tokens) (hu' : u'.Keep v policy table rows tokens)
    (hsample : u.sample = u'.sample) :
    let a := unbatched policy u.sample v rows tokens (policy.attempts - 1) 1
      ((List.range rows.length).map Int.ofNat)
    u.Describes policy table rows tokens a ∧ u'.Describes policy table rows tokens a ∧
      (u.insert policy table rows tokens).1.map (fun y => (y.attempts, y.rows, y.retried)) =
        (u'.insert policy table rows tokens).1.map (fun y => (y.attempts, y.rows, y.retried)) ∧
      ∃ ws, (u.insert policy table rows tokens).2.waits = u.start.waits ++ ws ∧
        (u'.insert policy table rows tokens).2.waits = u'.start.waits ++ ws := by
  intro a
  have h : u.Describes policy table rows tokens a := hu.describes hsized htokens hdefined
  have hsame : a = unbatched policy u'.sample v rows tokens (policy.attempts - 1) 1
      ((List.range rows.length).map Int.ofNat) := by rw [← hsample]
  have h' : u'.Describes policy table rows tokens a := by
    rw [hsame]
    exact hu'.describes hsized htokens hdefined
  obtain ⟨ws, hws, hok⟩ := h.waits_eq
  obtain ⟨ws', hws', hok'⟩ := h'.waits_eq
  have hinj : Function.Injective (Except.ok : Float → Except Overflow Float) := fun _ _ => Except.ok.inj
  obtain rfl : ws = ws' := List.map_injective_iff.2 hinj (hok.trans hok'.symm)
  exact ⟨h, h', h.answer_eq.trans h'.answer_eq.symm, ws, hws, hws'⟩

end World

/-! ### Clients that keep to a verdict -/

namespace Rejection

/-- The report on a batch that says of each row what a verdict on rows says of it. -/
def reportBy (v : Row → Option Writing → List Writing) (b : Batch) : List Rejection :=
  b.rows.zipIdx.flatMap fun x =>
    (v x.1 (b.tokens.bind (·[x.2]?))).map fun message => ⟨.int (x.2 : Nat), message, .null⟩

lemma messagesAt_flatMap {α : Type} (f : α → List Rejection) (xs : List α) (l : Nat) :
    messagesAt (xs.flatMap f) l = xs.flatMap fun x => messagesAt (f x) l := by
  induction xs with
  | nil => rfl
  | cons x rest ih =>
      rw [List.flatMap_cons, List.flatMap_cons, ← ih]
      simp [messagesAt]

lemma messagesAt_map (messages : List Writing) (m l : Nat) :
    messagesAt (messages.map fun message => ⟨.int (m : Nat), message, .null⟩) l =
      if m = l then messages else [] := by
  rw [messagesAt, List.filter_map, List.map_map]
  by_cases h : m = l
  · subst h
    simp [Function.comp_def, index?]
  · simp [Function.comp_def, index?, h]

/-- Of what is made of all items with their places, that which is made at one place. -/
lemma flatMap_zipIdx_ite (xs : List Row) (i l : Nat) (g : Row × Nat → List Writing) :
    (xs.zipIdx i).flatMap (fun x => if x.2 = l then g x else []) =
      if i ≤ l then (xs[l - i]?).elim [] fun row => g (row, l) else [] := by
  induction xs generalizing i with
  | nil => simp
  | cons x rest ih =>
      rw [List.zipIdx_cons, List.flatMap_cons, ih]
      rcases lt_trichotomy i l with h | rfl | h
      · rw [if_neg (by omega), if_pos (by omega), if_pos (by omega),
          show l - i = l - (i + 1) + 1 by omega]
        simp
      · simp
      · rw [if_neg (by omega), if_neg (by omega), if_neg (by omega)]
        rfl

lemma keeps_reportBy (v : Row → Option Writing → List Writing) (k : Nat) (b : Batch) :
    Keeps (fun _ => v) k b (reportBy v b) where
  usable x hx := by
    obtain ⟨⟨row, l⟩, hmem, hx⟩ := List.mem_flatMap.1 hx
    obtain ⟨message, -, rfl⟩ := List.mem_map.1 hx
    exact ⟨l, by simpa using List.snd_lt_of_mem_zipIdx hmem, rfl⟩
  said l row hrow := by
    rw [reportBy, messagesAt_flatMap]
    simp only [messagesAt_map]
    rw [flatMap_zipIdx_ite _ _ _ fun x => v x.1 (b.tokens.bind (·[x.2]?))]
    simp [hrow]

end Rejection

/-- If the client keeps to a verdict wherever it is called, then so do the reports of an insert. -/
lemma Circumstances.keep_of_ends {σ : Type} {u : Circumstances σ} {v : Verdict} {policy : Policy}
    {table : TableName} {rows : List Row} {tokens : Option (List Writing)} (hsized : Sized rows)
    (htokens : Matching rows tokens) (hdefined : policy.Defined)
    (hopen : u.start.inner.pool.closed = false) (hwaits : ∀ k, u.schedule.interrupts k = false)
    (hsleeps : ∀ k, u.pace.interrupts k = false)
    (hc : Client.Ends u.client fun job e =>
      ∃ report, e = .ok report ∧ ∀ k, Rejection.Keeps v k job.batch (report.getD [])) :
    u.Keep v policy table rows tokens := by
  have hjudged : ∀ {a : Stage (World σ)}, a.Performs u.client u.schedule u.limits table →
      a.Judged v u.client u.schedule u.limits table := by
    rintro a hperforms ⟨b, n⟩ hx e he
    obtain ⟨report, hok, hkeeps⟩ := hperforms.endsAs hc hx he
    exact ⟨report, hok, hkeeps a.attempt⟩
  obtain ⟨l, r, p', log, hl, hinserts, -⟩ := insertAll_inserts u.client u.schedule u.pace
    ⟨u.limits, policy⟩ table u.start hsized htokens hdefined hopen .trivial .intro
    fun a _ ha _ => (hjudged (ha.performs _ _ _ _ hsized)).plain
  refine ⟨hopen, hwaits, hsleeps, fun st hst => ?_⟩
  rw [Circumstances.stages, hl] at hst
  exact hjudged (hinserts.ready st hst).2

namespace World

/-- Three rows, of which those with the token `x` are rejected, are inserted once one by one, as they
are waited for, and once all together. -/
theorem insertAll_unbatched_token :
    let row : Row := .mapping [(.text "a", .bool true)]
    let tokens : Option (List Writing) := some ["x", "y", "x"]
    let said : Row → Option Writing → List Writing :=
      fun _ token => if token = some ("x" : Writing) then ["no", "never"] else []
    let pace : Pace := ⟨fun _ => 0.5, fun _ => false⟩
    let u : Circumstances Unit :=
      ⟨Client.answering (Rejection.reportBy said), idle, pace, ⟨1, 1⟩, fresh ()⟩
    let u' : Circumstances Unit :=
      ⟨Client.answering (Rejection.reportBy said), { idle with onSubmit := fun _ calls => calls },
        pace, ⟨1000, 3⟩, fresh ()⟩
    Sized [row, row, row] ∧ Matching [row, row, row] tokens ∧ Policy.steep.Defined ∧
      u.Keep (fun _ => said) .steep ⟨"p", "d", "t"⟩ [row, row, row] tokens ∧
      u'.Keep (fun _ => said) .steep ⟨"p", "d", "t"⟩ [row, row, row] tokens ∧
      u.sample = u'.sample ∧
      (u.insert .steep ⟨"p", "d", "t"⟩ [row, row, row] tokens).1.map
          (fun y => (y.attempts, y.rows, y.retried)) =
        (u'.insert .steep ⟨"p", "d", "t"⟩ [row, row, row] tokens).1.map
          (fun y => (y.attempts, y.rows, y.retried)) := by
  intro row tokens said pace u u'
  have hsized : Sized [row, row, row] := by
    intro row' hrow'
    obtain rfl : row' = row := by simpa using hrow'
    exact ⟨_, rfl⟩
  have htokens : Matching [row, row, row] tokens := by
    intro ts hts
    obtain rfl := Option.some.inj hts
    rfl
  have hc : Client.Ends (Client.answering (Rejection.reportBy said)) fun job e =>
      ∃ report, e = .ok report ∧
        ∀ k, Rejection.Keeps (fun _ => said) k job.batch (report.getD []) := by
    intro job st
    exact ⟨_, Client.ends_answering _ job st, fun k => Rejection.keeps_reportBy said k job.batch⟩
  have hu : u.Keep (fun _ => said) .steep ⟨"p", "d", "t"⟩ [row, row, row] tokens :=
    Circumstances.keep_of_ends hsized htokens Policy.steep_defined rfl (fun _ => rfl) (fun _ => rfl) hc
  have hu' : u'.Keep (fun _ => said) .steep ⟨"p", "d", "t"⟩ [row, row, row] tokens :=
    Circumstances.keep_of_ends hsized htokens Policy.steep_defined rfl (fun _ => rfl) (fun _ => rfl) hc
  exact ⟨hsized, htokens, Policy.steep_defined, hu, hu', rfl,
    (insertAll_unbatched (fun _ => said) .steep ⟨"p", "d", "t"⟩ [row, row, row] tokens u u' hsized
      htokens Policy.steep_defined hu hu' rfl).2.2.1⟩

end World

end TableFeed
