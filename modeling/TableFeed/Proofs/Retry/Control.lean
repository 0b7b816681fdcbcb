import TableFeed.Proofs.Retry.Positions

/-!
# The control of a run

A run goes from round to round as its policy says.  This module counts: how many rounds there are,
how many waits there are between them and how long each lasts, and how the run ends.  A round may be
any action that names rows which it was given (`Stage.Ranged`).  It may also fail, at any time.

`Stage.Decides` lists all that a stage may lead to, and `Stage.Timely` says what a stage knows of the
waits before it.  The main result is `run_controlled`: a run ends after no more rounds than its
policy allows, and what it answers, how often it waits and for how long is known from the rounds.
-/

namespace TableFeed.Retry

open Position

variable {σ : Type}

/-! ### What rounds do -/

namespace Stage

/-- The round of a stage rejects no row. -/
def Accepts (round : Round σ) (st : Stage σ) : Prop :=
  ∃ o p, st.result round = (.ok o, p) ∧ o.positions = []

/-- The round of a stage rejects rows. -/
def Rejects (round : Round σ) (st : Stage σ) : Prop :=
  ∃ o p, st.result round = (.ok o, p) ∧ o.positions ≠ []

/-- The round of a stage fails and leaves a state. -/
def Fails (round : Round σ) (st : Stage σ) (f : Failure) (p : Paced σ) : Prop :=
  st.result round = (.error f, p)

/-- The round of a stage names only rows that it was given, counted from either end. -/
def Ranged (round : Round σ) (st : Stage σ) : Prop :=
  ∀ o p, st.result round = (.ok o, p) →
    ∀ n ∈ o.positions, -(st.rows.length : Int) ≤ n ∧ n < st.rows.length

variable {round : Round σ} {st : Stage σ} {p : Paced σ}

lemma Accepts.not_rejects (h : st.Accepts round) : ¬ st.Rejects round := by
  obtain ⟨o, p, hresult, hnone⟩ := h
  rintro ⟨o', p', hresult', hsome⟩
  obtain ⟨ho, -⟩ := Prod.mk.inj (hresult.symm.trans hresult')
  exact hsome (Except.ok.inj ho ▸ hnone)

lemma Rejects.not_accepts (h : st.Rejects round) : ¬ st.Accepts round :=
  fun haccepts => haccepts.not_rejects h

lemma Fails.not_accepts {f : Failure} (h : st.Fails round f p) : ¬ st.Accepts round := by
  rintro ⟨o, p', hresult, -⟩
  simp [Fails, hresult] at h

lemma Fails.not_rejects {f : Failure} (h : st.Fails round f p) : ¬ st.Rejects round := by
  rintro ⟨o, p', hresult, -⟩
  simp [Fails, hresult] at h

end Stage

/-- A run is told of rows that a round gave up as the round told of them. -/
lemma eq_rejected_of_forCaller {label : String} {origin : List Int} {f : Failure}
    {failures : List RejectedRow} {n : Int} (h : forCaller label origin f = .rejected failures n) :
    f = .rejected failures n := by
  by_cases hinterrupted : ∃ during positions, f = .interrupted during positions
  · obtain ⟨during, positions, rfl⟩ := hinterrupted
    rw [forCaller, originOf, liftFault] at h
    cases hitems : positions.mapM (Position.item origin) <;> simp [hitems, Except.mapError] at h
  · have hother : ∀ during positions, f ≠ .interrupted during positions :=
      fun during positions hf => hinterrupted ⟨during, positions, hf⟩
    rwa [forCaller_of_other hother] at h

lemma exists_item?_of_range {α : Type} {xs : List α} {n : Int} (hlow : -(xs.length : Int) ≤ n)
    (hhigh : n < xs.length) : ∃ x, item? xs n = some x := by
  cases n with
  | ofNat m =>
      have hm : m < xs.length := Int.ofNat_lt.1 hhigh
      exact ⟨xs[m], by simp [item?, hm]⟩
  | negSucc m =>
      have hm : m < xs.reverse.length := by
        rw [List.length_reverse]
        omega
      exact ⟨xs.reverse[m], by rw [item?, List.getElem?_eq_getElem hm]⟩

/-- A round knows nothing of the waits. -/
lemma Stage.draws_result {round : Round σ} {st : Stage σ} {r : Except Failure Outcome} {p : Paced σ}
    (h : st.result round = (r, p)) : p.draws = st.state.draws ∧ p.waits = st.state.waits := by
  obtain ⟨-, rfl⟩ := Prod.mk.inj h
  exact ⟨rfl, rfl⟩

/-! ### Waits -/

/-- The waits of a run that begins in a state: each lasts as long as the policy says for the attempt
before it and the sample that is drawn for it. -/
def Sleeps (policy : Policy) (pace : Pace) (p : Paced σ) (sleeps : List Float) : Prop :=
  ∀ j seconds, sleeps[j]? = some seconds →
    policy.wait (j + 1 : Nat) (pace.sample (p.draws + j)) = .ok seconds

namespace Sleeps

variable {policy : Policy} {pace : Pace} {p : Paced σ} {sleeps sleeps' : List Float}

lemma nil : Sleeps policy pace p [] := by
  intro j seconds h
  simp at h

lemma concat (h : Sleeps policy pace p sleeps) {seconds : Float}
    (hseconds : policy.wait (sleeps.length + 1 : Nat) (pace.sample (p.draws + sleeps.length)) =
      .ok seconds) : Sleeps policy pace p (sleeps ++ [seconds]) := by
  intro j seconds' hj
  rcases Nat.lt_trichotomy j sleeps.length with hlt | rfl | hgt
  · exact h j seconds' (by rwa [List.getElem?_append_left hlt] at hj)
  · obtain rfl : seconds = seconds' := by simpa using hj
    exact hseconds
  · have hlength : (sleeps ++ [seconds]).length ≤ j := by simpa using hgt
    rw [List.getElem?_eq_none hlength] at hj
    simp at hj

/-- How long the waits last is determined, so the first waits are the beginning of all. -/
lemma eq_take (h : Sleeps policy pace p sleeps) (h' : Sleeps policy pace p sleeps')
    (hle : sleeps.length ≤ sleeps'.length) : sleeps = sleeps'.take sleeps.length := by
  refine List.ext_getElem (by simpa using hle) fun j hj hj' => ?_
  have hlt : j < sleeps'.length := hj.trans_le hle
  have hwait := h j sleeps[j] (List.getElem?_eq_getElem hj)
  have hwait' := h' j sleeps'[j] (List.getElem?_eq_getElem hlt)
  rw [hwait] at hwait'
  rw [List.getElem_take]
  exact Except.ok.inj hwait'

end Sleeps

/-- What a stage knows of the waits before it, of which there is one for each attempt. -/
structure Stage.Timely (policy : Policy) (pace : Pace) (p : Paced σ) (st : Stage σ) : Prop where
  length_origin : st.rows.length = st.origin.length
  pos : 0 < st.attempt
  le : st.attempt ≤ policy.attempts
  draws_eq : st.state.draws + 1 = p.draws + st.attempt
  slept : ∃ sleeps, st.state.waits = p.waits ++ sleeps ∧ sleeps.length + 1 = st.attempt ∧
    Sleeps policy pace p sleeps

lemma Stage.Timely.first (policy : Policy) (pace : Pace) (rows : List Row)
    (tokens : Option (List Writing)) (p : Paced σ) : (firstStage rows tokens p).Timely policy pace p where
  length_origin := by simp [firstStage]
  pos := Nat.one_pos
  le := policy.attempts_pos
  draws_eq := rfl
  slept := ⟨[], (List.append_nil _).symm, rfl, .nil⟩

/-- A wait after the round of a stage is one more of the waits that the policy says. -/
lemma Stage.Timely.concat {policy : Policy} {pace : Pace} {p : Paced σ} {st : Stage σ}
    (h : st.Timely policy pace p) {seconds : Float}
    (hwait : policy.wait st.attempt (pace.sample st.state.draws) = .ok seconds) :
    ∃ sleeps, st.state.waits ++ [seconds] = p.waits ++ sleeps ∧ sleeps.length = st.attempt ∧
      Sleeps policy pace p sleeps := by
  obtain ⟨sleeps, hslept, hlength, hsleeps⟩ := h.slept
  have hsample : st.state.draws = p.draws + sleeps.length := by
    have := h.draws_eq
    omega
  rw [← hlength, hsample] at hwait
  refine ⟨sleeps ++ [seconds], ?_, ?_, hsleeps.concat hwait⟩
  · rw [hslept, List.append_assoc]
  · rw [List.length_append, List.length_singleton, hlength]

/-! ### One turn -/

variable [Logged σ] {policy : Policy} {pace : Pace} {label : String} {round : Round σ}

/-- What a stage leads to. -/
inductive Stage.Decides (policy : Policy) (pace : Pace) (label : String) (round : Round σ)
    (st : Stage σ) : Turn σ → Prop where
  /-- No row is rejected. -/
  | accepts (p : Paced σ) (h : st.Accepts round) (hwaits : p.waits = st.state.waits) :
      Decides policy pace label round st (.ends (.ok st.attempt) p)
  /-- Rows are rejected by the last attempt. -/
  | exhausts (failures : List RejectedRow) (p : Paced σ) (h : st.Rejects round)
      (hlast : st.attempt = policy.attempts) (hwaits : p.waits = st.state.waits) :
      Decides policy pace label round st (.ends (.error (.rejected failures st.attempt)) p)
  /-- The wait for the next attempt is interrupted. -/
  | wakes (outstanding : List Int) (seconds : Float) (p : Paced σ) (h : st.Rejects round)
      (hlt : st.attempt < policy.attempts)
      (hwait : policy.wait st.attempt (pace.sample st.state.draws) = .ok seconds)
      (hinterrupt : pace.interrupts st.state.waits.length = true)
      (hwaits : p.waits = st.state.waits ++ [seconds]) :
      Decides policy pace label round st (.ends (.error (.interrupted .waiting outstanding)) p)
  /-- There is another round. -/
  | continues (seconds : Float) (next : Stage σ) (h : st.Rejects round)
      (hlt : st.attempt < policy.attempts)
      (hwait : policy.wait st.attempt (pace.sample st.state.draws) = .ok seconds)
      (hinterrupt : pace.interrupts st.state.waits.length = false)
      (hattempt : next.attempt = st.attempt + 1) (hrows : next.rows.length = next.origin.length)
      (hdraws : next.state.draws = st.state.draws + 1)
      (hwaits : next.state.waits = st.state.waits ++ [seconds]) :
      Decides policy pace label round st (.goesOn next)
  /-- The round fails. -/
  | fails (f : Failure) (p : Paced σ) (h : st.Fails round f p) :
      Decides policy pace label round st (.ends (.error (forCaller label st.origin f)) p)

namespace Stage

variable {st st' : Stage σ} {p p' : Paced σ} {r : Except Failure Nat}

/-- A stage does one of the things that are listed, if its waits are defined and its round names what
it was given. -/
lemma Timely.decides (h : st.Timely policy pace p) (hdefined : policy.Defined)
    (hranged : st.Ranged round) :
    st.Decides policy pace label round (st.turn policy pace label round) := by
  rcases hresult : st.result round with ⟨f | o, p₁⟩
  · rw [turn_of_error hresult]
    exact .fails f p₁ hresult
  · obtain ⟨hdraws, hwaits⟩ := draws_result hresult
    by_cases hnone : o.positions = []
    · have hrejects : o.rejects = [] := List.map_eq_nil_iff.1 hnone
      rw [turn_of_succeeded hresult hrejects]
      exact .accepts p₁ ⟨o, p₁, hresult, hnone⟩ hwaits
    · have hrejects : o.rejects ≠ [] := fun hempty => hnone (List.map_eq_nil_iff.2 hempty)
      have hsome : st.Rejects round := ⟨o, p₁, hresult, hnone⟩
      -- what the round names is among its rows, and so among those of the caller
      obtain ⟨next, hpicks⟩ : ∃ next, Picks o.positions st.origin next := by
        refine exists_picks_of_item? fun n hn => ?_
        obtain ⟨hlow, hhigh⟩ := hranged o p₁ hresult n hn
        rw [h.length_origin] at hlow hhigh
        exact exists_item?_of_range hlow hhigh
      have hnext := originOf_eq_ok hpicks
      rcases Nat.lt_or_ge st.attempt policy.attempts with hlt | hge
      · obtain ⟨seconds, hwait⟩ := hdefined.wait h.pos hlt (pace.sample p₁.draws)
        rw [turn_of_backingOff hresult hrejects hlt hnext hwait, hwaits]
        rw [hdraws] at hwait
        have hslept : (waited label st.attempt next seconds p₁).waits =
            st.state.waits ++ [seconds] := by rw [waited, hwaits]
        cases hinterrupt : pace.interrupts st.state.waits.length with
        | true => exact .wakes next seconds _ hsome hlt hwait hinterrupt hslept
        | false =>
            have hrows : o.rows.length = next.length := by
              rw [hpicks.length_eq, Outcome.rows, Outcome.positions, List.length_map, List.length_map]
            exact .continues seconds _ hsome hlt hwait hinterrupt rfl hrows (by rw [waited, hdraws]) hslept
      · have hlast : st.attempt = policy.attempts := Nat.le_antisymm h.le hge
        rw [turn_of_exhausted hresult hrejects hge hnext]
        exact .exhausts _ _ hsome hlast hwaits

omit [Logged σ] in
/-- The next stage knows of one more wait. -/
lemma Timely.next (h : st.Timely policy pace p)
    (hdecides : st.Decides policy pace label round (.goesOn st')) : st'.Timely policy pace p := by
  cases hdecides with
  | continues seconds _ hrejects hlt hwait hinterrupt hattempt hrows hdraws hwaits =>
      obtain ⟨sleeps, hslept, hlength, hsleeps⟩ := h.concat hwait
      have hdrawn := h.draws_eq
      exact ⟨hrows, by omega, by omega, by omega, sleeps, hwaits.trans hslept, by omega, hsleeps⟩

omit [Logged σ] in
/-- At the end there is one wait less than rounds, unless the last wait was interrupted. -/
lemma Timely.exists_sleeps (h : st.Timely policy pace p)
    (hends : st.Decides policy pace label round (.ends r p')) :
    ∃ sleeps, p'.waits = p.waits ++ sleeps ∧ Sleeps policy pace p sleeps ∧
      (sleeps.length + 1 = st.attempt ∧
          (st.Accepts round ∨ st.attempt = policy.attempts ∨ ∃ f, st.Fails round f p') ∨
        sleeps.length = st.attempt ∧ pace.interrupts st.state.waits.length = true ∧
          ∃ outstanding, r = .error (.interrupted .waiting outstanding)) := by
  obtain ⟨sleeps, hslept, hcount, hsleeps⟩ := h.slept
  cases hends with
  | accepts _ haccepts hwaits =>
      exact ⟨sleeps, hwaits.trans hslept, hsleeps, .inl ⟨hcount, .inl haccepts⟩⟩
  | exhausts _ _ _ hlast hwaits =>
      exact ⟨sleeps, hwaits.trans hslept, hsleeps, .inl ⟨hcount, .inr (.inl hlast)⟩⟩
  | fails f _ hfails =>
      have hwaits := (draws_result hfails).2
      exact ⟨sleeps, hwaits.trans hslept, hsleeps, .inl ⟨hcount, .inr (.inr ⟨f, hfails⟩)⟩⟩
  | wakes outstanding seconds _ _ _ hwait hinterrupt hwaits =>
      obtain ⟨sleeps, hslept, hcount, hsleeps⟩ := h.concat hwait
      exact ⟨sleeps, hwaits.trans hslept, hsleeps, .inr ⟨hcount, hinterrupt, outstanding, rfl⟩⟩

namespace Decides

omit [Logged σ] in
lemma of_goesOn (h : st.Decides policy pace label round (.goesOn st')) :
    st.Rejects round ∧ pace.interrupts st.state.waits.length = false := by
  cases h with
  | continues _ _ hrejects _ _ hinterrupt => exact ⟨hrejects, hinterrupt⟩

omit [Logged σ] in
lemma eq_ok_iff (h : st.Decides policy pace label round (.ends r p')) {k : Nat} :
    r = .ok k ↔ st.attempt = k ∧ st.Accepts round := by
  cases h with
  | accepts _ haccepts => simp [haccepts]
  | exhausts _ _ hrejects => simp [hrejects.not_accepts]
  | wakes _ _ _ hrejects => simp [hrejects.not_accepts]
  | fails _ _ hfails => simp [hfails.not_accepts]

omit [Logged σ] in
/-- A round that fails ends the run, with the same failure unless it was interrupted. -/
lemma of_fails (h : st.Decides policy pace label round (.ends r p')) {f : Failure} {q : Paced σ}
    (hfails : st.Fails round f q) : r = .error (forCaller label st.origin f) ∧ p' = q := by
  cases h with
  | accepts _ haccepts => exact absurd haccepts hfails.not_accepts
  | exhausts _ _ hrejects => exact absurd hrejects hfails.not_rejects
  | wakes _ _ _ hrejects => exact absurd hrejects hfails.not_rejects
  | fails _ _ hfails' =>
      obtain ⟨hf, hq⟩ := Prod.mk.inj (hfails.symm.trans hfails')
      exact ⟨by rw [Except.error.inj hf], hq.symm⟩

omit [Logged σ] in
/-- Rows are given up by the last attempt, or by a round that fails in the same way. -/
lemma eq_rejected_iff (h : st.Decides policy pace label round (.ends r p')) {n : Nat} :
    (∃ failures, r = .error (.rejected failures n) ∧
        ∀ q, ¬ st.Fails round (.rejected failures n) q) ↔
      st.attempt = n ∧ n = policy.attempts ∧ st.Rejects round := by
  constructor
  · rintro ⟨failures, hr, hnone⟩
    cases h with
    | accepts _ _ => simp at hr
    | exhausts _ _ hrejects hlast =>
        obtain ⟨rfl, rfl⟩ : _ ∧ st.attempt = n := by simpa using hr
        exact ⟨rfl, hlast, hrejects⟩
    | wakes _ _ _ _ => simp at hr
    | fails f _ hfails =>
        have hf : f = .rejected failures n := eq_rejected_of_forCaller (Except.error.inj hr)
        exact absurd (hf ▸ hfails) (hnone _)
  · rintro ⟨hattempt, hlast, hrejects⟩
    cases h with
    | accepts _ haccepts => exact absurd hrejects haccepts.not_rejects
    | exhausts failures _ _ _ =>
        exact ⟨failures, by rw [hattempt], fun q hfails => hfails.not_rejects hrejects⟩
    | wakes _ _ _ _ hlt => omega
    | fails _ _ hfails => exact absurd hrejects hfails.not_rejects

end Decides

end Stage

/-! ### The whole run -/

variable {l : List (Stage σ)} {p p' : Paced σ} {r : Except Failure Nat} {st : Stage σ}

/-- All stages but the last lead to another one. -/
lemma Runs.exists_concat (h : Runs policy pace label round st l r p') :
    ∃ before last, l = before ++ [last] ∧ last.turn policy pace label round = .ends r p' ∧
      ∀ a ∈ before, ∃ b, a.turn policy pace label round = .goesOn b := by
  induction h with
  | last hturn => exact ⟨[], _, rfl, hturn, by simp⟩
  | @next st st' l r p' hturn hrest ih =>
      obtain ⟨before, last, rfl, hends, hgoes⟩ := ih
      refine ⟨st :: before, last, rfl, hends, ?_⟩
      simpa using ⟨⟨st', hturn⟩, hgoes⟩

/-- How a run is controlled that passes through stages, with the waits between them. -/
structure Controlled (policy : Policy) (pace : Pace) (round : Round σ) (p : Paced σ)
    (l : List (Stage σ)) (sleeps : List Float) (r : Except Failure Nat) (p' : Paced σ) : Prop where
  /-- There are no more rounds than attempts. -/
  length_le : l.length ≤ policy.attempts
  attempt_eq : ∀ (i : Nat) (a : Stage σ), l[i]? = some a → a.attempt = i + 1
  /-- The answer is the number of the first round that rejects no row. -/
  ok_iff : ∀ k, r = .ok k ↔ ∃ before a after, l = before ++ a :: after ∧ before.length + 1 = k ∧
    (∀ b ∈ before, b.Rejects round) ∧ a.Accepts round
  /-- It is the last one, and there is one wait less. -/
  of_ok : ∀ k, r = .ok k → l.length = k ∧ sleeps.length + 1 = k
  /-- The run gives up, unless it is a round that fails in this way, if all attempts reject rows. -/
  rejected_iff : (∃ failures, r = .error (.rejected failures policy.attempts) ∧
      ∀ a ∈ l, ∀ q, ¬ a.Fails round (.rejected failures policy.attempts) q) ↔
    l.length = policy.attempts ∧ ∀ a ∈ l, a.Rejects round
  of_rejected : l.length = policy.attempts → (∀ a ∈ l, a.Rejects round) →
    sleeps.length + 1 = policy.attempts
  /-- The waits are those that the policy says, and each lies between two rounds. -/
  sleeps_spec : Sleeps policy pace p sleeps
  waits_eq : p'.waits = p.waits ++ sleeps
  between : ∀ (i : Nat) (a : Stage σ), l[i]? = some a →
    i ≤ sleeps.length ∧ a.state.waits = p.waits ++ sleeps.take i
  /-- After a wait that is interrupted there is no round. -/
  interrupted : ∀ j < sleeps.length, pace.interrupts (p.waits.length + j) = true →
    l.length = j + 1 ∧ sleeps.length = j + 1 ∧ ∃ outstanding, r = .error (.interrupted .waiting outstanding)
  /-- A round that fails is the last one, and the run fails in the state that the round left, and in the
  same way unless the round was interrupted. -/
  failed : ∀ a ∈ l, ∀ f q, a.Fails round f q → l.getLast? = some a ∧ p' = q ∧
    ((∀ during positions, f ≠ .interrupted during positions) → r = .error f)
  /-- There is no other reason for which a run ends. -/
  ends : (∃ a ∈ l, a.Accepts round) ∨ l.length = policy.attempts ∨ (∃ a ∈ l, ∃ f q, a.Fails round f q) ∨
    ∃ j < sleeps.length, pace.interrupts (p.waits.length + j) = true

/-- A run taken apart at its last stage: every stage before it rejects rows and waits undisturbed. -/
structure Halts (policy : Policy) (pace : Pace) (label : String) (round : Round σ) (p : Paced σ)
    (before : List (Stage σ)) (last : Stage σ) (r : Except Failure Nat) (p' : Paced σ) : Prop where
  attempt_eq : ∀ (i : Nat) (a : Stage σ), (before ++ [last])[i]? = some a → a.attempt = i + 1
  timely : ∀ a ∈ before ++ [last], a.Timely policy pace p
  goes : ∀ b ∈ before, b.Rejects round ∧ pace.interrupts b.state.waits.length = false
  ends : last.Decides policy pace label round (.ends r p')

/-- A run halts if each of its stages knows of the waits before it and does one of the things that are
listed. -/
lemma Runs.halts (h : Runs policy pace label round st l r p') (hfirst : st.attempt = 1)
    (htimely : ∀ a ∈ l, a.Timely policy pace p)
    (hdecides : ∀ a ∈ l, a.Decides policy pace label round (a.turn policy pace label round)) :
    ∃ before last, l = before ++ [last] ∧ Halts policy pace label round p before last r p' := by
  obtain ⟨before, last, rfl, hturn, hgoes⟩ := h.exists_concat
  refine ⟨before, last, rfl, fun i a ha => ?_, htimely, fun b hb => ?_,
    hturn ▸ hdecides last (by simp)⟩
  · rw [h.attempt_eq ha, hfirst, Nat.add_comm]
  · obtain ⟨b', hgoes⟩ := hgoes b hb
    exact Stage.Decides.of_goesOn (hgoes ▸ hdecides b (by simp [hb]))

namespace Halts

variable {before : List (Stage σ)} {last : Stage σ} {sleeps : List Float}

omit [Logged σ]

lemma length_eq (h : Halts policy pace label round p before last r p') :
    (before ++ [last]).length = last.attempt := by
  have hattempt := h.attempt_eq before.length last (by simp)
  rw [hattempt, List.length_append, List.length_singleton]

/-- A stage whose round does not reject rows is the last one. -/
lemma eq_last (h : Halts policy pace label round p before last r p') {before' after : List (Stage σ)}
    {a : Stage σ} (hl : before ++ [last] = before' ++ a :: after) (hnot : ¬ a.Rejects round) :
    before' = before ∧ a = last := by
  rcases List.eq_nil_or_concat after with rfl | ⟨after', b, rfl⟩
  · obtain ⟨hbefore', ha⟩ := List.append_inj' hl rfl
    exact ⟨hbefore'.symm, (List.cons.inj ha).1.symm⟩
  · have hl : before ++ [last] = (before' ++ a :: after') ++ [b] := by simpa using hl
    obtain ⟨hbefore', -⟩ := List.append_inj' hl rfl
    exact absurd (h.goes a (by simp [hbefore'])).1 hnot

lemma ok_iff (h : Halts policy pace label round p before last r p') {k : Nat} :
    r = .ok k ↔ ∃ before' a after, before ++ [last] = before' ++ a :: after ∧ before'.length + 1 = k ∧
      (∀ b ∈ before', b.Rejects round) ∧ a.Accepts round := by
  have hlength : before.length + 1 = last.attempt := by simpa using h.length_eq
  constructor
  · intro hr
    obtain ⟨hk, haccepts⟩ := h.ends.eq_ok_iff.1 hr
    exact ⟨before, last, [], rfl, hlength.trans hk, fun b hb => (h.goes b hb).1, haccepts⟩
  · rintro ⟨before', a, after, hl, hk, -, haccepts⟩
    obtain ⟨rfl, rfl⟩ := h.eq_last hl haccepts.not_rejects
    exact h.ends.eq_ok_iff.2 ⟨hlength.symm.trans hk, haccepts⟩

lemma rejected_iff (h : Halts policy pace label round p before last r p') :
    (∃ failures, r = .error (.rejected failures policy.attempts) ∧
        ∀ a ∈ before ++ [last], ∀ q, ¬ a.Fails round (.rejected failures policy.attempts) q) ↔
      (before ++ [last]).length = policy.attempts ∧ ∀ a ∈ before ++ [last], a.Rejects round := by
  constructor
  · rintro ⟨failures, hr, hnone⟩
    obtain ⟨hattempt, -, hrejects⟩ := h.ends.eq_rejected_iff.1 ⟨failures, hr, hnone last (by simp)⟩
    refine ⟨h.length_eq.trans hattempt, fun a ha => ?_⟩
    rcases List.mem_append.1 ha with ha | ha
    · exact (h.goes a ha).1
    · exact List.mem_singleton.1 ha ▸ hrejects
  · rintro ⟨hlength, hrejects⟩
    obtain ⟨failures, hr, -⟩ :=
      h.ends.eq_rejected_iff.2 ⟨h.length_eq.symm.trans hlength, rfl, hrejects last (by simp)⟩
    exact ⟨failures, hr, fun a ha q hfails => hfails.not_rejects (hrejects a ha)⟩

/-- Before a stage there is one wait for each stage before it. -/
lemma between (h : Halts policy pace label round p before last r p')
    (hsleeps : Sleeps policy pace p sleeps) (hlength : before.length ≤ sleeps.length) (i : Nat)
    (a : Stage σ) (ha : (before ++ [last])[i]? = some a) :
    i ≤ sleeps.length ∧ a.state.waits = p.waits ++ sleeps.take i := by
  obtain ⟨sleeps', hslept, hcount, hsleeps'⟩ := (h.timely a (List.mem_of_getElem? ha)).slept
  have hi : i < before.length + 1 := by simpa using (List.getElem?_eq_some_iff.1 ha).1
  have hattempt := h.attempt_eq i a ha
  obtain rfl : sleeps'.length = i := by omega
  have hle : sleeps'.length ≤ sleeps.length := by omega
  exact ⟨hle, by rw [hslept, ← hsleeps'.eq_take hsleeps hle]⟩

/-- A stage that is not the last one was reached after waits that were not interrupted. -/
lemma calm (h : Halts policy pace label round p before last r p')
    (hsleeps : Sleeps policy pace p sleeps) (hlength : before.length ≤ sleeps.length) {j : Nat}
    (hj : j < before.length) : pace.interrupts (p.waits.length + j) = false := by
  have hstage : (before ++ [last])[j]? = some before[j] := by
    rw [List.getElem?_append_left hj, List.getElem?_eq_getElem hj]
  obtain ⟨hle, hslept⟩ := h.between hsleeps hlength j before[j] hstage
  have hcalm := (h.goes before[j] (List.getElem_mem hj)).2
  rwa [hslept, List.length_append, List.length_take, Nat.min_eq_left hle] at hcalm

lemma failed (h : Halts policy pace label round p before last r p') {a : Stage σ}
    (ha : a ∈ before ++ [last]) {f : Failure} {q : Paced σ} (hfails : a.Fails round f q) :
    a = last ∧ r = .error (forCaller label last.origin f) ∧ p' = q := by
  obtain ⟨before', after, hl⟩ := List.append_of_mem ha
  obtain ⟨-, rfl⟩ := h.eq_last hl hfails.not_rejects
  exact ⟨rfl, h.ends.of_fails hfails⟩

/-- A run that halts is controlled. -/
lemma controlled (h : Halts policy pace label round p before last r p') :
    ∃ sleeps, Controlled policy pace round p (before ++ [last]) sleeps r p' := by
  have hlast : last ∈ before ++ [last] := by simp
  have hlength : before.length + 1 = last.attempt := by simpa using h.length_eq
  obtain ⟨sleeps, hwaits, hsleeps, hcount⟩ := (h.timely last hlast).exists_sleeps h.ends
  have hle : before.length ≤ sleeps.length := by omega
  refine ⟨sleeps, ?_⟩
  exact {
    length_le := h.length_eq ▸ (h.timely last hlast).le
    attempt_eq := h.attempt_eq
    ok_iff := fun k => h.ok_iff
    of_ok := fun k hr => by
      obtain ⟨hk, -⟩ := h.ends.eq_ok_iff.1 hr
      obtain ⟨hcount, -⟩ | ⟨-, -, outstanding, herror⟩ := hcount
      · exact ⟨h.length_eq.trans hk, hcount.trans hk⟩
      · simp [hr] at herror
    rejected_iff := h.rejected_iff
    of_rejected := fun hall hrejects => by
      obtain ⟨failures, hr, -⟩ := h.rejected_iff.2 ⟨hall, hrejects⟩
      obtain ⟨hcount, -⟩ | ⟨-, -, outstanding, herror⟩ := hcount
      · exact hcount.trans (h.length_eq.symm.trans hall)
      · simp [hr] at herror
    sleeps_spec := hsleeps
    waits_eq := hwaits
    between := h.between hsleeps hle
    interrupted := fun j hj hinterrupt => by
      have hge : before.length ≤ j := by
        by_contra hlt
        simp [h.calm hsleeps hle (Nat.not_le.1 hlt)] at hinterrupt
      obtain ⟨hcount, -⟩ | ⟨hcount, -, hr⟩ := hcount
      · omega
      · rw [h.length_eq]
        exact ⟨by omega, by omega, hr⟩
    failed := fun a ha f q hfails => by
      obtain ⟨rfl, hr, hq⟩ := h.failed ha hfails
      exact ⟨by simp, hq, fun hother => by rw [hr, forCaller_of_other hother]⟩
    ends := by
      obtain ⟨-, haccepts | hattempt | ⟨f, hfails⟩⟩ | ⟨hcount, hinterrupt, -⟩ := hcount
      · exact .inl ⟨last, hlast, haccepts⟩
      · exact .inr (.inl (h.length_eq.trans hattempt))
      · exact .inr (.inr (.inl ⟨last, hlast, f, p', hfails⟩))
      · obtain ⟨hle, hslept⟩ := h.between hsleeps hle before.length last (by simp)
        rw [hslept, List.length_append, List.length_take, Nat.min_eq_left hle] at hinterrupt
        exact .inr (.inr (.inr ⟨before.length, by omega, hinterrupt⟩)) }

end Halts

/-- A run is controlled by its policy: it ends after no more rounds than attempts, with the first round
that rejects no row, with the last attempt, with a wait that is interrupted or with a round that
fails. -/
theorem run_controlled (policy : Policy) (pace : Pace) (label : String) (round : Round σ)
    (rows : List Row) (tokens : Option (List Writing)) (p : Paced σ) (hdefined : policy.Defined)
    (hranged : ∀ st ∈ stages policy pace label round rows tokens p, st.Ranged round) :
    let l := stages policy pace label round rows tokens p
    let q := (run policy pace label round rows tokens).run p
    Runs policy pace label round (firstStage rows tokens p) l q.1 q.2 ∧
      ∃ sleeps, Controlled policy pace round p l sleeps q.1 q.2 := by
  intro l q
  have hruns : Runs policy pace label round (firstStage rows tokens p) l q.1 q.2 :=
    runs_stages policy pace label round rows tokens p
  generalize hr : q.1 = r at hruns
  generalize hp' : q.2 = p' at hruns
  refine ⟨hruns, ?_⟩
  have htimely : ∀ a ∈ l, a.Timely policy pace p := by
    refine hruns.forall_mem (P := fun a => a.Ranged round) (fun a b ha htimely hturn => ?_) hranged
      (.first policy pace rows tokens p)
    have hdecides : a.Decides policy pace label round (a.turn policy pace label round) :=
      htimely.decides hdefined ha
    rw [hturn] at hdecides
    exact htimely.next hdecides
  obtain ⟨before, last, hl, hhalts⟩ := hruns.halts rfl htimely fun a ha =>
    (htimely a ha).decides hdefined (hranged a ha)
  exact hl ▸ hhalts.controlled

omit [Logged σ] in
/-- Rounds that name only what they were given name rows that are there. -/
lemma Stage.Honest.ranged (h : st.Honest round) : st.Ranged round := by
  intro o p hresult n hn
  have hfits : o.Fits st.rows st.tokens := by simpa [Honest, hresult] using h
  obtain ⟨m, hm, rfl⟩ := hfits.within n hn
  simp only [Int.ofNat_eq_natCast]
  omega

lemma rejects_rejectFirst {st : Stage (World Unit)} (h : st.rows ≠ []) : st.Rejects rejectFirst := by
  obtain ⟨row, rest, hrows⟩ := List.exists_cons_of_ne_nil h
  exact ⟨⟨[⟨0, row, st.tokens.bind (item? · 0), ["no"]⟩], st.tokens.isSome, []⟩, st.state,
    by simp [Stage.result, inner, rejectFirst, hrows, item?], by simp [Outcome.positions]⟩

/-- The first of two rows is rejected by all three attempts, between which there are two waits. -/
theorem run_controlled_rejectFirst :
    let rows : List Row := [.bool true, .null]
    let pace : Pace := ⟨fun _ => 0.5, fun _ => false⟩
    let p : Paced (World Unit) := { inner := { remote := (), pool := ⟨1, 1, false, false, []⟩ } }
    let l := stages .steep pace "p.d.t" rejectFirst rows none p
    let q := (run .steep pace "p.d.t" rejectFirst rows none).run p
    Policy.steep.Defined ∧ (∀ st ∈ l, st.Ranged rejectFirst) ∧ l.length = 3 ∧
      (∃ failures, q.1 = .error (.rejected failures 3)) ∧ q.2.waits.length = 2 := by
  intro rows pace p l q
  have hranged : ∀ st ∈ l, st.Ranged rejectFirst := fun st _ => (honest_rejectFirst st).ranged
  obtain ⟨hruns, sleeps, hcontrolled⟩ := run_controlled .steep pace "p.d.t" rejectFirst rows none p
    Policy.steep_defined hranged
  have hrows : ∀ a ∈ l, a.rows ≠ [] := by
    refine hruns.forall_mem (P := fun _ => True) (fun a b _ _ hturn => ?_) (fun _ _ => trivial)
      (by simp [firstStage, rows])
    obtain ⟨o, p₁, next, p₂, -, hsome, -, -, -, rfl⟩ := Stage.turn_goesOn hturn
    exact fun hnil => hsome (List.map_eq_nil_iff.1 hnil)
  have hrejects : ∀ a ∈ l, a.Rejects rejectFirst := fun a ha => rejects_rejectFirst (hrows a ha)
  have hlength : l.length = Policy.steep.attempts := by
    obtain ⟨a, ha, haccepts⟩ | hlength | ⟨a, ha, f, q', hfails⟩ | ⟨j, -, hinterrupt⟩ :=
      hcontrolled.ends
    · exact absurd (hrejects a ha) haccepts.not_rejects
    · exact hlength
    · exact absurd (hrejects a ha) hfails.not_rejects
    · simp [pace] at hinterrupt
  obtain ⟨failures, hr, -⟩ := hcontrolled.rejected_iff.2 ⟨hlength, hrejects⟩
  have hsleeps : sleeps.length + 1 = 3 := hcontrolled.of_rejected hlength hrejects
  have hwaits : q.2.waits = sleeps := hcontrolled.waits_eq
  exact ⟨Policy.steep_defined, hranged, hlength, ⟨failures, hr⟩, by rw [hwaits]; omega⟩

end TableFeed.Retry
