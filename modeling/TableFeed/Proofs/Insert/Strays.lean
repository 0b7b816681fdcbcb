import TableFeed.Proofs.Insert.Abreast
import TableFeed.Proofs.Insert.Unbatched

/-!
# Calls left behind

An insert that is interrupted, or of which a call fails, ends while other calls of it may be
unfinished.  These stay in the pool, which later inserts share, and finish at any time and in any
way.

Two inserts of the same rows are put side by side here, each on a pool with whatever calls the
history has left there.  If their own calls end alike, and if these calls and the user's interruptions
come in the same order, then the inserts cannot be told apart.  So the calls that were left behind
before do not matter, nor when they finish.

The main result is `World.insertAll_abreast`.
-/

namespace TableFeed

open World Retry

variable {σ τ : Type}

/-! ### Turns abreast -/

namespace Retry

variable {c : Client σ} {c' : Client τ} {s s' : Schedule} {pace pace' : Pace} {policy : Policy}
  {limits : BatchLimits} {table : TableName} {p₀ p : Paced (World σ)} {p₀' p' : Paced (World τ)}

/-- Two states in which as much has happened since two others. -/
structure Abreast (p₀ : Paced (World σ)) (p₀' : Paced (World τ)) (p : Paced (World σ))
    (p' : Paced (World τ)) : Prop where
  inner : World.Abreast (mark p₀.inner) (mark p₀'.inner) p.inner p'.inner
  draws_eq : ∃ k, p.draws = p₀.draws + k ∧ p'.draws = p₀'.draws + k
  waits_eq : ∃ seconds, p.waits = p₀.waits ++ seconds ∧ p'.waits = p₀'.waits ++ seconds

/-- Samples and interruptions that agree since two states. -/
structure Agrees (p₀ : Paced (World σ)) (p₀' : Paced (World τ)) (pace pace' : Pace) : Prop where
  sample_eq : ∀ k, pace.sample (p₀.draws + k) = pace'.sample (p₀'.draws + k)
  interrupts_eq : ∀ k,
    pace.interrupts (p₀.waits.length + k) = pace'.interrupts (p₀'.waits.length + k)

namespace Abreast

lemma note (h : Abreast p₀ p₀' p p') (e : Event) :
    Abreast p₀ p₀' (Logged.note e p) (Logged.note e p') :=
  { h with inner := h.inner.note e }

/-- A wait between two attempts ends alike. -/
lemma backOff (h : Abreast p₀ p₀' p p') (hpace : Agrees p₀ p₀' pace pace') (policy : Policy)
    (label : String) (attempt : Nat) (outstanding : List Int) :
    ((backOff policy pace label attempt outstanding).run p).1 =
        ((backOff policy pace' label attempt outstanding).run p').1 ∧
      Abreast p₀ p₀' ((backOff policy pace label attempt outstanding).run p).2
        ((backOff policy pace' label attempt outstanding).run p').2 := by
  obtain ⟨k, hdraws, hdraws'⟩ := h.draws_eq
  obtain ⟨before, hwaits, hwaits'⟩ := h.waits_eq
  have hdraw : ∃ k, p.draws + 1 = p₀.draws + k ∧ p'.draws + 1 = p₀'.draws + k :=
    ⟨k + 1, by omega, by omega⟩
  have hsample : pace.sample p.draws = pace'.sample p'.draws := by
    rw [hdraws, hdraws']
    exact hpace.sample_eq k
  rcases hwait : policy.wait attempt (pace.sample p.draws) with cause | seconds
  · rw [backOff_run_of_overflow hwait, backOff_run_of_overflow (hsample ▸ hwait)]
    exact ⟨rfl, { h with draws_eq := hdraw }⟩
  · have hinterrupts : pace.interrupts p.waits.length = pace'.interrupts p'.waits.length := by
      rw [hwaits, hwaits', List.length_append, List.length_append]
      exact hpace.interrupts_eq before.length
    rw [backOff_run hwait, backOff_run (hsample ▸ hwait), hinterrupts]
    refine ⟨rfl, h.inner.note _, hdraw, before ++ [seconds], ?_, ?_⟩
    · simp [waited, hwaits]
    · simp [waited, hwaits']

/-- Giving up is alike. -/
lemma giveUp (h : Abreast p₀ p₀' p p') (label : String) (attempt : Nat) (origin : List Int)
    (o : Outcome) :
    ((giveUp label attempt origin o).run p).1 = ((giveUp label attempt origin o).run p').1 ∧
      Abreast p₀ p₀' ((giveUp label attempt origin o).run p).2
        ((giveUp label attempt origin o).run p').2 := by
  rcases hnext : originOf origin o.positions with f | next
  · have hrun : ∀ {ρ : Type} [Logged ρ] (q : Paced ρ),
        (Retry.giveUp label attempt origin o).run q = (.error f, q) := fun q =>
      Action.run_bind_of_error (by rw [hnext]; rfl)
    rw [hrun, hrun]
    exact ⟨rfl, h⟩
  · rw [giveUp_run hnext, giveUp_run hnext]
    exact ⟨rfl, h.note _⟩

end Abreast

/-- Two stages at which the same is about to be done. -/
structure Stage.Abreast (p₀ : Paced (World σ)) (p₀' : Paced (World τ)) (st : Stage (World σ))
    (st' : Stage (World τ)) : Prop where
  attempt_eq : st.attempt = st'.attempt
  origin_eq : st.origin = st'.origin
  rows_eq : st.rows = st'.rows
  tokens_eq : st.tokens = st'.tokens
  state : Retry.Abreast p₀ p₀' st.state st'.state

/-- Two turns that end the run alike or lead to stages abreast. -/
inductive Turn.Abreast (p₀ : Paced (World σ)) (p₀' : Paced (World τ)) :
    Turn (World σ) → Turn (World τ) → Prop where
  /-- The runs end. -/
  | ends {r : Except Failure Nat} {p : Paced (World σ)} {p' : Paced (World τ)}
      (h : Retry.Abreast p₀ p₀' p p') : Turn.Abreast p₀ p₀' (.ends r p) (.ends r p')
  /-- The runs go on. -/
  | goesOn {st : Stage (World σ)} {st' : Stage (World τ)} (h : Stage.Abreast p₀ p₀' st st') :
      Turn.Abreast p₀ p₀' (.goesOn st) (.goesOn st')

/-- The calls of the round of a stage have ended as an answer says, as far as they have finished. -/
def Stage.Answered (c : Client σ) (s : Schedule) (limits : BatchLimits) (table : TableName)
    (answer : Nat → Job → Ending) (st : Stage (World σ)) : Prop :=
  (st.left c s limits table).pool.EndsAs (fun job e => e = answer st.attempt job)
    st.state.inner.pool.size

variable {st : Stage (World σ)} {st' : Stage (World τ)} {answer : Nat → Job → Ending}

/-- Two turns whose calls end alike are abreast. -/
lemma Stage.Abreast.turn (h : Stage.Abreast p₀ p₀' st st') (policy : Policy)
    (hs : World.Agrees (mark p₀.inner) (mark p₀'.inner) s s') (hpace : Agrees p₀ p₀' pace pace')
    (hst : st.Answered c s limits table answer) (hst' : st'.Answered c' s' limits table answer) :
    Turn.Abreast p₀ p₀' (st.turn policy pace table.spec (round c s limits table))
      (st'.turn policy pace' table.spec (round c' s' limits table)) := by
  obtain ⟨attempt, origin, rows, tokens, state⟩ := st
  obtain ⟨attempt', origin', rows', tokens', state'⟩ := st'
  obtain ⟨hattempt, horigin, hrows, htokens, hstate⟩ := h
  dsimp only at hattempt horigin hrows htokens hstate
  subst hattempt horigin hrows htokens
  obtain ⟨hresult, hleft⟩ :=
    round_abreast c c' limits table rows tokens hstate.inner hs hst hst'
  -- the results of the stages are those of the rounds, beside draws and waits that stay
  have hafter : (Stage.result (round c s limits table) ⟨attempt, origin, rows, tokens, state⟩).1 =
      (Stage.result (round c' s' limits table) ⟨attempt, origin, rows, tokens, state'⟩).1 ∧
    Retry.Abreast p₀ p₀'
      (Stage.result (round c s limits table) ⟨attempt, origin, rows, tokens, state⟩).2
      (Stage.result (round c' s' limits table) ⟨attempt, origin, rows, tokens, state'⟩).2 :=
    ⟨hresult, hleft, hstate.draws_eq, hstate.waits_eq⟩
  unfold Stage.turn
  generalize Stage.result (round c s limits table) ⟨attempt, origin, rows, tokens, state⟩ = x
    at hafter ⊢
  generalize Stage.result (round c' s' limits table) ⟨attempt, origin, rows, tokens, state'⟩ = x'
    at hafter ⊢
  obtain ⟨r, p⟩ := x
  obtain ⟨r', p'⟩ := x'
  obtain ⟨hr, hp⟩ := hafter
  dsimp only at hr hp
  subst hr
  cases r with
  | error f => exact .ends hp
  | ok o =>
      dsimp only
      cases policy.verdict attempt o.succeeded with
      | succeeded => exact .ends hp
      | exhausted =>
          obtain ⟨hsame, hgive⟩ := hp.giveUp table.spec attempt origin o
          dsimp only
          rw [hsame]
          exact .ends hgive
      | backingOff =>
          dsimp only
          rcases originOf origin o.positions with f | next
          · exact .ends hp
          · obtain ⟨hsame, hwait⟩ := hp.backOff hpace policy table.spec attempt next
            dsimp only
            generalize (backOff policy pace table.spec attempt next).run p = x at hsame hwait ⊢
            generalize (backOff policy pace' table.spec attempt next).run p' = x' at hsame hwait ⊢
            obtain ⟨r, q⟩ := x
            obtain ⟨r', q'⟩ := x'
            dsimp only at hsame hwait
            subst hsame
            cases r with
            | error f => exact .ends hwait
            | ok u => exact .goesOn ⟨rfl, rfl, rfl, rfl, hwait⟩

/-- Two runs whose calls end alike end alike. -/
lemma Stage.Abreast.runs {l : List (Stage (World σ))} {l' : List (Stage (World τ))}
    {r r' : Except Failure Nat} (h : Stage.Abreast p₀ p₀' st st')
    (hs : World.Agrees (mark p₀.inner) (mark p₀'.inner) s s') (hpace : Agrees p₀ p₀' pace pace')
    (hruns : Runs policy pace table.spec (round c s limits table) st l r p)
    (hruns' : Runs policy pace' table.spec (round c' s' limits table) st' l' r' p')
    (hl : ∀ a ∈ l, a.Answered c s limits table answer)
    (hl' : ∀ a ∈ l', a.Answered c' s' limits table answer) :
    r = r' ∧ Retry.Abreast p₀ p₀' p p' := by
  induction hruns generalizing st' l' with
  | @last st r p hturn =>
      cases hruns' with
      | last hturn' =>
          have hturns := h.turn policy hs hpace (hl _ (by simp)) (hl' _ (by simp))
          rw [hturn, hturn'] at hturns
          cases hturns with
          | ends hp => exact ⟨rfl, hp⟩
      | next hturn' _ =>
          have hturns := h.turn policy hs hpace (hl _ (by simp)) (hl' _ (by simp))
          rw [hturn, hturn'] at hturns
          cases hturns
  | @next st next l r p hturn _ ih =>
      cases hruns' with
      | last hturn' =>
          have hturns := h.turn policy hs hpace (hl _ (by simp)) (hl' _ (by simp))
          rw [hturn, hturn'] at hturns
          cases hturns
      | next hturn' hrest' =>
          have hturns := h.turn policy hs hpace (hl _ (by simp)) (hl' _ (by simp))
          rw [hturn, hturn'] at hturns
          cases hturns with
          | goesOn hnext =>
              exact ih hnext hrest' (fun a ha => hl a (List.mem_cons_of_mem _ ha))
                fun a ha => hl' a (List.mem_cons_of_mem _ ha)

end Retry

/-! ### Inserts abreast -/

namespace Circumstances

variable (policy : Policy) (table : TableName) (rows : List Row) (tokens : Option (List Writing))

/-- Two circumstances that agree for an insert.  The pools are both closed or neither is; the
schedules agree on the calls of the insert and on the interruptions of its waits, and the paces on
its samples and the interruptions of its sleeps. -/
structure Agree (u : Circumstances σ) (u' : Circumstances τ) : Prop where
  limits_eq : u.limits = u'.limits
  closed_eq : u.start.inner.pool.closed = u'.start.inner.pool.closed
  schedule : World.Agrees (mark u.start.inner) (mark u'.start.inner) u.schedule u'.schedule
  pace : Retry.Agrees u.start u'.start u.pace u'.pace

/-- Circumstances in which the calls of an insert end as an answer says, which depends on the round
and on the call. -/
def Answered (answer : Nat → Job → Ending) (u : Circumstances σ) : Prop :=
  ∀ st ∈ u.stages policy table rows tokens,
    st.Answered u.client u.schedule u.limits table answer

end Circumstances

/-- If the client answers every call in a way that depends on the call only, then so have the calls of
an insert ended. -/
lemma Circumstances.answered_of_ends {u : Circumstances σ} {policy : Policy} {table : TableName}
    {rows : List Row} {tokens : Option (List Writing)} {answer : Job → Ending}
    (hsized : Sized rows) (htokens : Matching rows tokens)
    (hopen : u.start.inner.pool.closed = false)
    (hc : Client.Ends u.client fun job e => e = answer job) :
    u.Answered policy table rows tokens fun _ => answer := by
  have hruns := runs_stages policy u.pace table.spec (round u.client u.schedule u.limits table) rows
    tokens (uncounted u.start)
  have hattempts := hruns.attempt_mem Nat.one_pos policy.attempts_pos
  have hable : ∀ a ∈ u.stages policy table rows tokens, a.Able rows tokens :=
    hruns.forall_mem (fun a b ha hable hturn => hable.of_goesOn ha.2 hturn) hattempts
      (.first _ htokens hsized (.inl hopen))
  intro st hst
  exact ((hable st hst).performs _ _ _ _).reaches.endsAs hc (Pool.EndsAs.of_size _)

namespace World

/-- A request that is accepted has tokens that match its rows. -/
lemma matching_of_checkRequest {table t : TableName} {rows : List Row}
    {tokens : Option (List Writing)} (h : checkRequest (some table) rows tokens = .ok t) :
    Matching rows tokens := by
  rintro ts rfl
  by_contra hlength
  simp [checkRequest, hlength] at h

/-- An insert of which nothing has happened yet is abreast with any other. -/
lemma abreast_mark {p : Paced (World σ)} {p' : Paced (World τ)}
    (hclosed : p.inner.pool.closed = p'.inner.pool.closed) :
    Retry.Abreast p p' (uncounted p) (uncounted p') where
  inner :=
    { since_eq := by simp [mark, uncounted, Pool.since, Pool.size]
      calls_le := le_rfl
      calls_le' := le_rfl
      closed_eq := hclosed
      waits_eq := ⟨0, rfl, rfl⟩
      tally_eq := rfl
      told_eq := ⟨[], by simp [mark, uncounted], by simp [mark, uncounted]⟩ }
  draws_eq := ⟨0, rfl, rfl⟩
  waits_eq := ⟨[], by simp [uncounted], by simp [uncounted]⟩

/-- Inserts whose rounds have ended alike conclude alike. -/
lemma concluded_abreast {p₀ p : Paced (World σ)} {p₀' p' : Paced (World τ)} (table : TableName)
    (rows : List Row) (r : Except Failure Nat) (h : Retry.Abreast p₀ p₀' p p') :
    (concluded table rows r p).1 = (concluded table rows r p').1 ∧
      Retry.Abreast p₀ p₀' (concluded table rows r p).2 (concluded table rows r p').2 := by
  cases r with
  | error f => exact ⟨rfl, h⟩
  | ok attempts =>
      have htally := h.inner.tally_eq
      unfold concluded
      rw [htally]
      exact ⟨rfl, h.note _⟩

/-- Two inserts of the same rows cannot be told apart, if their circumstances agree and their calls
end alike: they answer or fail in the same way, wait as long between the rounds, wait as often for
calls, and the operator is told the same of them.  This is so whatever calls were in the pools
before, and whenever and however these finish. -/
theorem insertAll_abreast (policy : Policy) (table : TableName) (rows : List Row)
    (tokens : Option (List Writing)) (answer : Nat → Job → Ending) (u : Circumstances σ)
    (u' : Circumstances τ) (hagree : u.Agree u')
    (hu : u.Answered policy table rows tokens answer)
    (hu' : u'.Answered policy table rows tokens answer) :
    let q := u.insert policy table rows tokens
    let q' := u'.insert policy table rows tokens
    q.1 = q'.1 ∧
      (∃ seconds, q.2.waits = u.start.waits ++ seconds ∧ q'.2.waits = u'.start.waits ++ seconds) ∧
      (∃ k, q.2.inner.waits = u.start.inner.waits + k ∧
        q'.2.inner.waits = u'.start.inner.waits + k) ∧
      ∃ events, Event.own q.2.inner.log = Event.own u.start.inner.log ++ events ∧
        Event.own q'.2.inner.log = Event.own u'.start.inner.log ++ events := by
  intro q q'
  cases hrequest : checkRequest (some table) rows tokens with
  | error m =>
      have hrun : ∀ {ρ : Type} (v : Circumstances ρ),
          v.insert policy table rows tokens = (.error (.misuse m), v.start) := fun v =>
        Action.run_bind_of_error (by rw [hrequest]; rfl)
      rw [show q = _ from hrun u, show q' = _ from hrun u']
      exact ⟨rfl, ⟨[], by simp, by simp⟩, ⟨0, rfl, rfl⟩, [], by simp, by simp⟩
  | ok _ =>
      have htokens := matching_of_checkRequest hrequest
      have hlimits := hagree.limits_eq
      have hfirst : Stage.Abreast u.start u'.start (firstStage rows tokens (uncounted u.start))
          (firstStage rows tokens (uncounted u'.start)) :=
        ⟨rfl, rfl, rfl, rfl, abreast_mark hagree.closed_eq⟩
      have hruns := runs_stages policy u.pace table.spec
        (round u.client u.schedule u.limits table) rows tokens (uncounted u.start)
      have hruns' := runs_stages policy u'.pace table.spec
        (round u'.client u'.schedule u'.limits table) rows tokens (uncounted u'.start)
      have hq : q = _ := insertAll_run u.client u.schedule u.pace ⟨u.limits, policy⟩ table u.start
        htokens
      have hq' : q' = _ := insertAll_run u'.client u'.schedule u'.pace ⟨u'.limits, policy⟩ table
        u'.start htokens
      rw [Circumstances.Answered, Circumstances.stages] at hu hu'
      rw [← hlimits] at hruns' hq' hu'
      obtain ⟨hsame, hend⟩ := hfirst.runs hagree.schedule hagree.pace hruns hruns' hu hu'
      obtain ⟨hresult, hafter⟩ := concluded_abreast table rows _ hend
      rw [hq, hq']
      exact ⟨by rw [hresult, hsame], hsame ▸ hafter.waits_eq, hsame ▸ hafter.inner.waits_eq,
        hsame ▸ hafter.inner.told_eq⟩

/-- An insert finds a call that an interrupted insert into another table has left open, and which
fails as soon as the insert waits for its own call.  It ends like an insert on a new pool. -/
theorem insertAll_abreast_stray :
    let row : Row := .mapping [(.text "a", .bool true)]
    let table : TableName := ⟨"p", "d", "t"⟩
    let stray : Job := ⟨⟨"p", "d", "u"⟩, ⟨0, [row], none, 12⟩⟩
    let answer : Job → Ending := fun job =>
      if job.table = table then .ok (some []) else .error (.refused .notFound "gone")
    let client : Client Unit := { Client.answering fun _ => [] with
      insert := fun name b => Action.answer (answer ⟨name, b⟩) }
    let pace : Pace := ⟨fun _ => 0.5, fun _ => false⟩
    let u : Circumstances Unit :=
      ⟨client, { idle with onWait := fun k _ => if k = 1 then [0] else [] }, pace, ⟨1000, 5⟩,
        { inner := { remote := (), pool := ⟨2, 1, true, false, [⟨stray, none⟩]⟩, waits := 1 } }⟩
    let u' : Circumstances Unit := ⟨client, idle, pace, ⟨1000, 5⟩, fresh ()⟩
    u.Agree u' ∧ u.Answered .steep table [row] none (fun _ => answer) ∧
      u'.Answered .steep table [row] none (fun _ => answer) ∧
      (u.insert .steep table [row] none).1 = (u'.insert .steep table [row] none).1 := by
  intro row table stray answer client pace u u'
  have hsized : Sized [row] := by
    intro row' hrow'
    obtain rfl : row' = row := by simpa using hrow'
    exact ⟨_, rfl⟩
  have htokens : Matching [row] none := by simp [Matching]
  have hc : Client.Ends client fun job e => e = answer job := fun _ _ => rfl
  have hagree : u.Agree u' := by
    refine ⟨rfl, rfl, ⟨?_, ?_, ?_, ?_⟩, ⟨fun _ => rfl, fun _ => rfl⟩⟩
    · simp [u, u', idle]
    · intro k xs xs' _ j
      show 1 + j ∈ (if 1 + k = 1 then [0] else []) ↔ 0 + j ∈ []
      split <;> simp
    · simp [u, u', idle]
    · simp [u, u', idle]
  have hu : u.Answered .steep table [row] none fun _ => answer :=
    Circumstances.answered_of_ends hsized htokens rfl hc
  have hu' : u'.Answered .steep table [row] none fun _ => answer :=
    Circumstances.answered_of_ends hsized htokens rfl hc
  exact ⟨hagree, hu, hu',
    (insertAll_abreast .steep table [row] none (fun _ => answer) u u' hagree hu hu').1⟩

end World

end TableFeed
