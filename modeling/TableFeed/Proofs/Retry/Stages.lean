import TableFeed.Proofs.Table.Picks
import TableFeed.Retry.Loop

/-!
# The stages of a run

A run of rounds is a state machine.  A stage is a round that is about to begin: the number of the
attempt, the rows and tokens that the round is given, and the positions that these rows have among
the caller's.  `Stage.turn` takes one round and what follows it; it ends the run or leads to the
next stage, and `Policy.verdict` decides which.

The main results are

* `runs_stages`: a run of `Retry.run` passes through the stages of the machine and ends as the last
  of them does;
* `Runs.forall_mem`: what holds of the first stage and is kept by every turn holds of every stage;
* `Stage.turn_of_error`, `Stage.turn_of_succeeded`, `Stage.turn_of_exhausted`,
  `Stage.turn_of_backingOff` and `Stage.turn_of_overflow`: all that a turn does.
-/

namespace TableFeed

/-- A policy whose waits are all defined. -/
def Policy.Defined (p : Policy) : Prop :=
  ∀ k : Nat, 0 < k → k < p.attempts → ∃ base, p.baseWait k = .ok base

lemma Policy.Defined.wait {policy : Policy} (h : policy.Defined) {k : Nat} (hk : 0 < k)
    (hlt : k < policy.attempts) (sample : Float) : ∃ seconds, policy.wait k sample = .ok seconds := by
  obtain ⟨base, hbase⟩ := h k hk hlt
  exact ⟨_, by rw [Policy.wait, hbase]; rfl⟩

namespace Policy

/-- A power of a float that is not finite never counts as an overflow. -/
lemma power_of_not_finite {x : Float} (hx : x.isFinite = false) {n : Int}
    (hn : (Number.ofInt? n).isSome) : ∃ z, power x n = .ok z := by
  obtain ⟨y, hy⟩ := Option.isSome_iff_exists.1 hn
  exact ⟨x.pow y, by simp [power, hy, hx]⟩

/-- Three attempts, the second wait being endless. -/
def steep : Policy := ⟨3, by decide, 0.2, 1.0 / 0.0, 0.5⟩

lemma steep_defined : steep.Defined := by
  intro k hpos hlt
  have hexponent : (Number.ofInt? (k - 1)).isSome := by
    have : k < 3 := hlt
    interval_cases k <;> decide
  obtain ⟨z, hz⟩ := power_of_not_finite (x := steep.growth) (by decide) hexponent
  exact ⟨_, by rw [baseWait, hz]; rfl⟩

end Policy

/-! ### Positions of positions -/

namespace Retry

/-- If every item is there, then the positions are those that the items say. -/
lemma originOf_eq_ok {origin positions next : List Int} (h : Position.Picks positions origin next) :
    originOf origin positions = .ok next := by
  have hitems : positions.mapM (Position.item origin) = .ok next := by
    induction positions generalizing next with
    | nil =>
        rw [Position.picks_nil] at h
        subst h
        rfl
    | cons n rest ih =>
        obtain ⟨m, next', rfl, hm, hnext'⟩ := Position.picks_cons.1 h
        rw [List.mapM_cons, Position.item_of_item? hm, ih hnext']
        rfl
  rw [originOf, hitems]
  rfl

lemma forCaller_of_interrupted {label : String} {origin positions outstanding : List Int}
    (during : Interruption) (h : Position.Picks positions origin outstanding) :
    forCaller label origin (.interrupted during positions) =
      .interrupted (.inserting label) outstanding := by
  rw [forCaller, originOf_eq_ok h]

lemma forCaller_of_other {label : String} {origin : List Int} {f : Failure}
    (h : ∀ during positions, f ≠ .interrupted during positions) : forCaller label origin f = f := by
  unfold forCaller
  split
  · exact absurd rfl (h _ _)
  · rfl

/-! ### The machine -/

variable {σ : Type}

/-- A round that is about to begin. -/
structure Stage (σ : Type) where
  /-- The number of the attempt. -/
  attempt : Nat
  /-- The positions of the rows among the caller's rows. -/
  origin : List Int
  /-- The rows. -/
  rows : List Row
  /-- The tokens of the rows, if there are tokens. -/
  tokens : Option (List Writing)
  /-- The state in which the round begins. -/
  state : Paced σ

/-- What a round and the decision that follows it lead to. -/
inductive Turn (σ : Type) where
  /-- The run ends in a state. -/
  | ends (r : Except Failure Nat) (p : Paced σ)
  /-- There is another round. -/
  | goesOn (next : Stage σ)

variable [Logged σ] (policy : Policy) (pace : Pace) (label : String) (round : Round σ)

namespace Stage

/-- How the round of a stage ends, and the state that it leaves. -/
def result (st : Stage σ) : Except Failure Outcome × Paced σ :=
  (inner (round st.rows st.tokens)).run st.state

/-- The turn of a stage. -/
def turn (st : Stage σ) : Turn σ :=
  match st.result round with
  | (.error f, p) => .ends (.error (forCaller label st.origin f)) p
  | (.ok o, p) =>
    match policy.verdict st.attempt o.succeeded with
    | .succeeded => .ends (.ok st.attempt) p
    | .exhausted =>
      let (r, p) := (giveUp label st.attempt st.origin o).run p
      .ends r p
    | .backingOff =>
      match originOf st.origin o.positions with
      | .error f => .ends (.error f) p
      | .ok next =>
        match (backOff policy pace label st.attempt next).run p with
        | (.error f, p) => .ends (.error f) p
        | (.ok (), p) => .goesOn ⟨st.attempt + 1, next, o.rows, o.tokens, p⟩

end Stage

/-- The stages from a given one on, after which at most `left` more follow. -/
def stagesFrom : Nat → Stage σ → List (Stage σ)
  | 0, st => [st]
  | left + 1, st =>
    match st.turn policy pace label round with
    | .ends _ _ => [st]
    | .goesOn next => st :: stagesFrom left next

/-- The first stage of a run: all rows, each at its own position. -/
def firstStage (rows : List Row) (tokens : Option (List Writing)) (p : Paced σ) : Stage σ :=
  ⟨1, (List.range rows.length).map Int.ofNat, rows, tokens, p⟩

/-- The stages of a run. -/
def stages (rows : List Row) (tokens : Option (List Writing)) (p : Paced σ) : List (Stage σ) :=
  stagesFrom policy pace label round (policy.attempts - 1) (firstStage rows tokens p)

/-- A run from a stage on: it passes through stages, and ends with an answer in a state. -/
inductive Runs : Stage σ → List (Stage σ) → Except Failure Nat → Paced σ → Prop where
  /-- The stage is the last one. -/
  | last {st : Stage σ} {r : Except Failure Nat} {p : Paced σ}
      (h : st.turn policy pace label round = .ends r p) : Runs st [st] r p
  /-- The stage leads to another one. -/
  | next {st st' : Stage σ} {l : List (Stage σ)} {r : Except Failure Nat} {p : Paced σ}
      (h : st.turn policy pace label round = .goesOn st') (rest : Runs st' l r p) :
      Runs st (st :: l) r p

variable {policy pace label round} {st st' : Stage σ} {l : List (Stage σ)}
  {r : Except Failure Nat} {p p' : Paced σ} {o : Outcome}

/-! ### What a turn does -/

/-- A state after the wait that follows an attempt. -/
def waited (label : String) (attempt : Nat) (outstanding : List Int) (seconds : Float)
    (p : Paced σ) : Paced σ :=
  { inner := Logged.note (.retryScheduled label attempt outstanding.length
      (Number.roundPlaces 3 seconds)) p.inner
    draws := p.draws + 1
    waits := p.waits ++ [seconds] }

lemma backOff_run {attempt : Nat} {outstanding : List Int} {seconds : Float}
    (h : policy.wait attempt (pace.sample p.draws) = .ok seconds) :
    (backOff policy pace label attempt outstanding).run p =
      (if pace.interrupts p.waits.length then .error (.interrupted .waiting outstanding) else .ok (),
        waited label attempt outstanding seconds p) := by
  unfold backOff
  rw [Action.run_bind_of_ok (Action.run_get p), Action.run_bind_of_ok (Action.run_modify _ p),
    Action.run_bind_of_ok (by rw [h]; rfl), Action.run_bind_of_ok (Action.run_note _ _),
    Action.run_bind_of_ok (Action.run_get _), Action.run_bind_of_ok (Action.run_modify _ _)]
  cases hinterrupt : pace.interrupts p.waits.length <;> simp [Logged.note, waited]

/-- A wait that is not defined does not begin. -/
lemma backOff_run_of_overflow {attempt : Nat} {outstanding : List Int} {cause : Overflow}
    (h : policy.wait attempt (pace.sample p.draws) = .error cause) :
    (backOff policy pace label attempt outstanding).run p =
      (.error (.overflow cause), { p with draws := p.draws + 1 }) := by
  unfold backOff
  rw [Action.run_bind_of_ok (Action.run_get p), Action.run_bind_of_ok (Action.run_modify _ p),
    Action.run_bind_of_error (by rw [h]; rfl)]

/-- The rows that are given up, when they are known to the caller by given positions. -/
def givenUp (positions : List Int) (o : Outcome) : List RejectedRow :=
  (positions.zip o.rejects).map fun (n, r) => ⟨n, r.row, r.token, r.messages⟩

lemma giveUp_run {attempt : Nat} {origin next : List Int}
    (h : originOf origin o.positions = .ok next) :
    (giveUp label attempt origin o).run p =
      (.error (.rejected (givenUp next o) attempt),
        Logged.note (.retriesExhausted label attempt next.length) p) := by
  unfold giveUp
  rw [Action.run_bind_of_ok (by rw [h]; rfl), Action.run_bind_of_ok (Action.run_note _ _)]
  rfl

namespace Stage

omit [Logged σ] in
lemma result_of_round {r : Except Failure Outcome} {w : σ}
    (h : (round st.rows st.tokens).run st.state.inner = (r, w)) :
    st.result round = (r, { st.state with inner := w }) := by
  simp [result, inner, h]

lemma turn_of_error {f : Failure} (h : st.result round = (.error f, p)) :
    st.turn policy pace label round = .ends (.error (forCaller label st.origin f)) p := by
  rw [turn, h]

lemma turn_of_succeeded (h : st.result round = (.ok o, p)) (ho : o.rejects = []) :
    st.turn policy pace label round = .ends (.ok st.attempt) p := by
  rw [turn, h]
  simp [Policy.verdict, Outcome.succeeded, ho]

lemma turn_of_exhausted {next : List Int} (h : st.result round = (.ok o, p)) (ho : o.rejects ≠ [])
    (hlast : policy.attempts ≤ st.attempt) (hnext : originOf st.origin o.positions = .ok next) :
    st.turn policy pace label round =
      .ends (.error (.rejected (givenUp next o) st.attempt))
        (Logged.note (.retriesExhausted label st.attempt next.length) p) := by
  have hverdict : policy.verdict st.attempt o.succeeded = .exhausted := by
    simp [Policy.verdict, Outcome.succeeded, ho, Policy.isLast, hlast]
  rw [turn, h]
  simp only [hverdict, giveUp_run hnext]

omit [Logged σ] in
lemma verdict_of_lt (hsome : o.rejects ≠ []) (hlt : st.attempt < policy.attempts) :
    policy.verdict st.attempt o.succeeded = .backingOff := by
  have hnot : ¬ policy.attempts ≤ st.attempt := by omega
  simp [Policy.verdict, Outcome.succeeded, hsome, Policy.isLast, hnot]

/-- A stage with rejected rows and attempts left waits, and the wait ends the run or leads to the
stage with these rows. -/
lemma turn_of_backingOff {next : List Int} {seconds : Float} (h : st.result round = (.ok o, p))
    (ho : o.rejects ≠ []) (hlt : st.attempt < policy.attempts)
    (hnext : originOf st.origin o.positions = .ok next)
    (hwait : policy.wait st.attempt (pace.sample p.draws) = .ok seconds) :
    st.turn policy pace label round =
      if pace.interrupts p.waits.length then
        .ends (.error (.interrupted .waiting next)) (waited label st.attempt next seconds p)
      else .goesOn ⟨st.attempt + 1, next, o.rows, o.tokens,
        waited label st.attempt next seconds p⟩ := by
  rw [turn, h]
  simp only [verdict_of_lt ho hlt, hnext, backOff_run hwait]
  cases pace.interrupts p.waits.length <;> rfl

/-- A stage with rejected rows and attempts left ends the run if the wait is not defined. -/
lemma turn_of_overflow {next : List Int} {cause : Overflow} (h : st.result round = (.ok o, p))
    (ho : o.rejects ≠ []) (hlt : st.attempt < policy.attempts)
    (hnext : originOf st.origin o.positions = .ok next)
    (hwait : policy.wait st.attempt (pace.sample p.draws) = .error cause) :
    st.turn policy pace label round =
      .ends (.error (.overflow cause)) { p with draws := p.draws + 1 } := by
  rw [turn, h]
  simp only [verdict_of_lt ho hlt, hnext, backOff_run_of_overflow hwait]

/-- What has happened in a turn that leads to another stage. -/
lemma turn_goesOn (h : st.turn policy pace label round = .goesOn st') :
    ∃ o p next p', st.result round = (.ok o, p) ∧ o.rejects ≠ [] ∧ st.attempt < policy.attempts ∧
      originOf st.origin o.positions = .ok next ∧
      (backOff policy pace label st.attempt next).run p = (.ok (), p') ∧
      st' = ⟨st.attempt + 1, next, o.rows, o.tokens, p'⟩ := by
  unfold turn at h
  split at h
  · simp at h
  · next o p hresult =>
      split at h
      · simp at h
      · simp at h
      · next hverdict =>
          have hgoes : o.succeeded = false ∧ policy.isLast st.attempt = false := by
            unfold Policy.verdict at hverdict
            cases hsucceeded : o.succeeded <;> cases hlast : policy.isLast st.attempt <;>
              simp [hsucceeded, hlast] at hverdict ⊢
          have hsome : o.rejects ≠ [] := by simpa [Outcome.succeeded] using hgoes.1
          have hlt : st.attempt < policy.attempts := by simpa [Policy.isLast] using hgoes.2
          split at h
          · simp at h
          · next next hnext =>
              split at h
              · simp at h
              · next p' hwait =>
                  simp only [Turn.goesOn.injEq] at h
                  exact ⟨o, p, next, p', hresult, hsome, hlt, hnext, hwait, h.symm⟩

lemma attempt_of_goesOn (h : st.turn policy pace label round = .goesOn st') :
    st'.attempt = st.attempt + 1 ∧ st.attempt < policy.attempts := by
  obtain ⟨o, p, next, p', -, -, hlt, -, -, rfl⟩ := turn_goesOn h
  exact ⟨rfl, hlt⟩

end Stage

/-! ### A run passes through the stages -/

/-- The loop of the rounds takes one turn after the other. -/
lemma rounds_run {left : Nat} (hleft : policy.attempts = st.attempt + left) :
    (rounds policy pace label round left st.attempt st.origin st.rows st.tokens).run st.state =
      match st.turn policy pace label round with
      | .ends r p => (r, p)
      | .goesOn next =>
        (rounds policy pace label round (left - 1) next.attempt next.origin next.rows
          next.tokens).run next.state := by
  unfold Stage.turn
  conv_lhs => unfold rounds
  rw [Action.run_bind_of_ok (Action.run_outcome (inner (round st.rows st.tokens)) st.state)]
  rw [show (inner (round st.rows st.tokens)).run st.state = st.result round from rfl]
  -- the loop decides by what is left, the turn by the number of the attempt
  rcases st.result round with ⟨f | o, p⟩
  · rfl
  · dsimp only
    cases hsucceeded : o.succeeded with
    | true => rfl
    | false =>
        cases left with
        | zero =>
            have hverdict : policy.verdict st.attempt false = .exhausted := by
              simp [Policy.verdict, Policy.isLast, hleft]
            rw [hverdict]
            rfl
        | succ left =>
            have hverdict : policy.verdict st.attempt false = .backingOff := by
              simp [Policy.verdict, Policy.isLast, hleft]
            rw [hverdict]
            simp only [Bool.false_eq_true, if_false]
            rcases hnext : originOf st.origin o.positions with f | next
            · rfl
            · rw [Action.run_bind_of_ok (Action.run_answer (.ok next) p)]
              rcases hwait : (backOff policy pace label st.attempt next).run p with ⟨f | _, p'⟩
              · rw [Action.run_bind_of_error hwait]
                simp only [hwait]
              · rw [Action.run_bind_of_ok hwait]
                simp only [hwait]
                rfl

/-- A run of the loop from a stage on passes through the stages from there on. -/
lemma runs_stagesFrom {left : Nat} (hleft : policy.attempts = st.attempt + left) :
    Runs policy pace label round st (stagesFrom policy pace label round left st)
      ((rounds policy pace label round left st.attempt st.origin st.rows st.tokens).run st.state).1
      ((rounds policy pace label round left st.attempt st.origin st.rows st.tokens).run
        st.state).2 := by
  induction left generalizing st with
  | zero =>
      rw [rounds_run hleft]
      rcases hturn : st.turn policy pace label round with ⟨r, p⟩ | next
      · exact .last hturn
      · have := (Stage.attempt_of_goesOn hturn).2
        omega
  | succ left ih =>
      rw [rounds_run hleft, stagesFrom]
      rcases hturn : st.turn policy pace label round with ⟨r, p⟩ | next
      · exact .last hturn
      · refine .next hturn (ih ?_)
        have := (Stage.attempt_of_goesOn hturn).1
        omega

omit [Logged σ] in
lemma attempts_eq (policy : Policy) (rows : List Row) (tokens : Option (List Writing))
    (p : Paced σ) :
    policy.attempts = (firstStage rows tokens p).attempt + (policy.attempts - 1) := by
  have := policy.attempts_pos
  simp only [firstStage]
  omega

/-- A run whose first round fails ends there. -/
lemma run_of_error {rows : List Row} {tokens : Option (List Writing)} {f : Failure}
    (h : (firstStage rows tokens p).result round = (.error f, p')) :
    (run policy pace label round rows tokens).run p =
      (.error (forCaller label (firstStage rows tokens p).origin f), p') := by
  have hturn : (firstStage rows tokens p).turn policy pace label round = .ends _ p' :=
    Stage.turn_of_error h
  refine (rounds_run (attempts_eq policy rows tokens p)).trans ?_
  rw [hturn]

/-- It has no other stage. -/
lemma stages_of_error {rows : List Row} {tokens : Option (List Writing)} {f : Failure}
    (h : (firstStage rows tokens p).result round = (.error f, p')) :
    stages policy pace label round rows tokens p = [firstStage rows tokens p] := by
  have hturn : (firstStage rows tokens p).turn policy pace label round = .ends _ p' :=
    Stage.turn_of_error h
  rw [stages]
  cases policy.attempts - 1 with
  | zero => rw [stagesFrom]
  | succ left => rw [stagesFrom, hturn]

/-- A run whose first stage goes on to one that ends the run ends there. -/
lemma run_of_goesOn {rows : List Row} {tokens : Option (List Writing)}
    (h : (firstStage rows tokens p).turn policy pace label round = .goesOn st)
    (hends : st.turn policy pace label round = .ends r p') :
    (run policy pace label round rows tokens).run p = (r, p') := by
  have hnext := Stage.attempt_of_goesOn h
  have hleft : policy.attempts = st.attempt + (policy.attempts - 1 - 1) := by
    have := attempts_eq policy rows tokens p
    omega
  refine (rounds_run (attempts_eq policy rows tokens p)).trans ?_
  rw [h]
  dsimp only
  rw [rounds_run hleft, hends]

/-- A run whose first round rejects rows, and whose second round fails on them, ends with this
failure as the caller is told it. -/
lemma run_of_error_next {rows : List Row} {tokens : Option (List Writing)} {w w' : σ}
    {next : List Int} {seconds : Float} {f : Failure}
    (hround : (round rows tokens).run p.inner = (.ok o, w)) (ho : o.rejects ≠ [])
    (hlt : 1 < policy.attempts)
    (hnext : originOf ((List.range rows.length).map Int.ofNat) o.positions = .ok next)
    (hwait : policy.wait 1 (pace.sample p.draws) = .ok seconds)
    (hpasses : pace.interrupts p.waits.length = false)
    (hround' : (round o.rows o.tokens).run
      (waited label 1 next seconds { p with inner := w }).inner = (.error f, w')) :
    (run policy pace label round rows tokens).run p =
      (.error (forCaller label next f),
        { waited label 1 next seconds { p with inner := w } with inner := w' }) := by
  have hresult : (firstStage rows tokens p).result round = (.ok o, { p with inner := w }) :=
    Stage.result_of_round hround
  have hturn : (firstStage rows tokens p).turn policy pace label round =
      .goesOn ⟨2, next, o.rows, o.tokens, waited label 1 next seconds { p with inner := w }⟩ :=
    (Stage.turn_of_backingOff hresult ho hlt hnext hwait).trans (if_neg (by simp [hpasses]))
  exact run_of_goesOn hturn (Stage.turn_of_error (Stage.result_of_round hround'))

/-- A run passes through its stages and ends as the last of them does. -/
theorem runs_stages (policy : Policy) (pace : Pace) (label : String) (round : Round σ)
    (rows : List Row) (tokens : Option (List Writing)) (p : Paced σ) :
    Runs policy pace label round (firstStage rows tokens p)
      (stages policy pace label round rows tokens p)
      ((run policy pace label round rows tokens).run p).1
      ((run policy pace label round rows tokens).run p).2 :=
  runs_stagesFrom (attempts_eq policy rows tokens p)

namespace Runs

lemma exists_cons (h : Runs policy pace label round st l r p) : ∃ l', l = st :: l' := by
  cases h with
  | last _ => exact ⟨[], rfl⟩
  | next _ _ => exact ⟨_, rfl⟩

/-- Every stage leads to the one after it. -/
lemma isChain (h : Runs policy pace label round st l r p) :
    l.IsChain fun a b => a.turn policy pace label round = .goesOn b := by
  induction h with
  | last _ => exact .singleton _
  | @next st st' l r p hturn hrest ih =>
      obtain ⟨l', rfl⟩ := hrest.exists_cons
      exact .cons_cons hturn ih

/-- The run ends with the turn of its last stage. -/
lemma exists_last (h : Runs policy pace label round st l r p) :
    ∃ last, l.getLast? = some last ∧ last.turn policy pace label round = .ends r p := by
  induction h with
  | last hturn => exact ⟨_, rfl, hturn⟩
  | @next st st' l r p hturn hrest ih =>
      obtain ⟨l', rfl⟩ := hrest.exists_cons
      obtain ⟨last, hlast, hends⟩ := ih
      exact ⟨last, by rw [List.getLast?_cons_cons, hlast], hends⟩

/-- What holds of the first stage and is kept by every turn holds of every stage.  To keep it, a
turn may rely on what is known of the stage it starts from. -/
lemma forall_mem {P I : Stage σ → Prop} (h : Runs policy pace label round st l r p)
    (hkeeps : ∀ a b, P a → I a → a.turn policy pace label round = .goesOn b → I b)
    (hall : ∀ a ∈ l, P a) (hst : I st) : ∀ a ∈ l, I a := by
  induction h with
  | last _ => simpa using hst
  | @next st st' l r p hturn hrest ih =>
      intro a ha
      rcases List.mem_cons.1 ha with rfl | ha
      · exact hst
      · exact ih (fun b hb => hall b (by simp [hb])) (hkeeps _ _ (hall _ (by simp)) hst hturn) a ha

/-- The stages are numbered by their attempts. -/
lemma attempt_eq (h : Runs policy pace label round st l r p) {i : Nat} {a : Stage σ}
    (ha : l[i]? = some a) : a.attempt = st.attempt + i := by
  induction h generalizing i with
  | last _ =>
      cases i with
      | zero => simp_all
      | succ i => simp at ha
  | @next st st' l r p hturn hrest ih =>
      cases i with
      | zero => simp_all
      | succ i =>
          have := ih (by simpa using ha)
          rw [this, (Stage.attempt_of_goesOn hturn).1]
          omega

/-- Attempts are counted from one on, and no stage goes beyond those that are allowed. -/
lemma attempt_mem (h : Runs policy pace label round st l r p) (hpos : 0 < st.attempt)
    (hle : st.attempt ≤ policy.attempts) :
    ∀ a ∈ l, 0 < a.attempt ∧ a.attempt ≤ policy.attempts := by
  refine h.forall_mem (P := fun _ => True) (I := fun a => 0 < a.attempt ∧ a.attempt ≤ policy.attempts)
    (fun a b _ _ hturn => ?_) (fun _ _ => trivial) ⟨hpos, hle⟩
  obtain ⟨hb, hlt⟩ := Stage.attempt_of_goesOn hturn
  omega

end Runs

end Retry

end TableFeed
