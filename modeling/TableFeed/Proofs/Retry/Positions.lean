import TableFeed.Proofs.Batch.Cuts
import TableFeed.Insert.World
import TableFeed.Proofs.Retry.Stages

/-!
# A run keeps track of the caller's rows

A round names rows by their positions among the rows that it was given.  The origin of a stage says
where these rows stand among the caller's, and it has to be composed with what the round names: for
the next stage, for the rows that are given up, and for an interruption, each time with the origin
of the very round that named them.

A round may be any action.  It is `Stage.Honest` if it names only rows that it was given, and the
main result `run_tracks` is that a run of honest rounds keeps track: every stage has the caller's
rows and tokens at its origin, and every failure speaks of the caller's positions.
-/

namespace TableFeed

open Position

/-! ### Rounds that name what they were given -/

/-- An outcome that names rows of the round, each at most once, with their tokens. -/
structure Outcome.Fits (rows : List Row) (tokens : Option (List Writing)) (o : Outcome) : Prop where
  tokened_eq : o.tokened = tokens.isSome
  nodup : o.positions.Nodup
  within : ∀ n ∈ o.positions, Within rows.length n
  row_eq : ∀ r ∈ o.rejects, item? rows r.position = some r.row
  token_eq : ∀ r ∈ o.rejects, r.token = tokens.bind (item? · r.position)

namespace Outcome.Fits

variable {rows : List Row} {tokens : Option (List Writing)} {o : Outcome}

/-- The rejected rows are the rows of the round at the positions that were named. -/
lemma picks_rows (h : o.Fits rows tokens) : Picks o.positions rows o.rows := by
  rw [Picks, Outcome.rows, Outcome.positions, List.map_map, List.map_map]
  exact List.map_congr_left fun r hr => (h.row_eq r hr).symm

/-- The tokens of the rejected rows are those of the round at the positions that were named. -/
lemma picks_tokens (h : o.Fits rows tokens) (htokens : Covering rows tokens) :
    Option.Rel (Picks o.positions) tokens o.tokens := by
  rw [Outcome.tokens, h.tokened_eq]
  cases tokens with
  | none => exact .none
  | some ts =>
      refine .some ?_
      have hall : ∀ r ∈ o.rejects, ∃ t, r.token = some t ∧ item? ts r.position = some t := by
        intro r hr
        have hwithin : Within ts.length r.position := by
          obtain ⟨m, hm, hposition⟩ := h.within _ (List.mem_map_of_mem hr)
          exact ⟨m, hm.trans_le (htokens ts rfl), hposition⟩
        obtain ⟨t, -, ht⟩ := hwithin.exists_item
        exact ⟨t, by rw [h.token_eq r hr, Option.bind_some, ht], ht⟩
      rw [Outcome.positions]
      generalize o.rejects = rejects at hall
      induction rejects with
      | nil => simp
      | cons r rest ih =>
          obtain ⟨t, htoken, hitem⟩ := hall r (by simp)
          rw [List.filterMap_cons_some htoken, List.map_cons]
          exact picks_cons.2 ⟨t, _, rfl, hitem, ih fun r hr => hall r (by simp [hr])⟩

end Outcome.Fits

namespace Retry

variable {σ : Type} {rows : List Row} {tokens : Option (List Writing)}

/-- A stage whose round leaves an outcome that fits its rows, or is interrupted and names positions
of its rows, or fails in some other way. -/
def Stage.Honest (round : Round σ) (st : Stage σ) : Prop :=
  match (st.result round).1 with
  | .ok o => o.Fits st.rows st.tokens
  | .error (.interrupted _ positions) => ∀ n ∈ positions, Within st.rows.length n
  | .error _ => True

/-! ### What a stage knows -/

/-- A stage that knows where its rows stand among the caller's rows. -/
structure Stage.Tracks (rows : List Row) (tokens : Option (List Writing)) (st : Stage σ) : Prop where
  nodup : st.origin.Nodup
  within : ∀ n ∈ st.origin, Within rows.length n
  rows_picked : Picks st.origin rows st.rows
  tokens_picked : Option.Rel (Picks st.origin) tokens st.tokens

/-- A rejected row of a round and what the caller is told of it.  The row stands at the position
`told.position` among the caller's rows, and that is the one which the round means. -/
structure Told (rows : List Row) (tokens : Option (List Writing)) (origin : List Int) (r : Reject)
    (told : RejectedRow) : Prop where
  position_eq : item? origin r.position = some told.position
  row_eq : item? rows told.position = some told.row
  token_eq : told.token = tokens.bind (item? · told.position)
  messages_eq : told.messages = r.messages

namespace Stage.Tracks

lemma first (p : Paced σ) (htokens : Matching rows tokens) :
    (firstStage rows tokens p).Tracks rows tokens where
  nodup := List.nodup_range.map fun _ _ h => Int.ofNat.inj h
  within n hn := by
    obtain ⟨m, hm, rfl⟩ := List.mem_map.1 hn
    exact ⟨m, List.mem_range.1 hm, rfl⟩
  rows_picked := picks_range rows
  tokens_picked := by
    cases tokens with
    | none => exact .none
    | some ts =>
        refine .some ?_
        rw [firstStage, ← htokens ts rfl]
        exact picks_range ts

variable {st : Stage σ} {o : Outcome} {next : List Int}

lemma length_rows (h : st.Tracks rows tokens) : st.rows.length = st.origin.length :=
  h.rows_picked.length_eq

lemma matching (h : st.Tracks rows tokens) : Matching st.rows st.tokens := by
  intro ts hts
  have hrel := h.tokens_picked
  rw [hts] at hrel
  cases hrel with
  | some hpicks => rw [h.length_rows, hpicks.length_eq]

/-- Positions of the round are positions of the origin. -/
lemma exists_next (h : st.Tracks rows tokens) {positions : List Int}
    (hpositions : ∀ n ∈ positions, Within st.rows.length n) :
    ∃ next, Picks positions st.origin next :=
  exists_picks fun n hn => h.length_rows ▸ hpositions n hn

/-- What the round rejects is known to the caller at the composed positions. -/
lemma after (h : st.Tracks rows tokens) (ho : o.Fits st.rows st.tokens)
    (hnext : Picks o.positions st.origin next) (attempt : Nat) (p : Paced σ) :
    (⟨attempt, next, o.rows, o.tokens, p⟩ : Stage σ).Tracks rows tokens where
  nodup := hnext.nodup ho.nodup h.nodup fun n hn => h.length_rows ▸ ho.within n hn
  within n hn := h.within n (hnext.subset hn)
  rows_picked := h.rows_picked.trans hnext ho.picks_rows
  tokens_picked := rel_picks_trans h.tokens_picked hnext (ho.picks_tokens h.matching.covering)

/-- No position is new, and none is named twice. -/
lemma subperm_next (h : st.Tracks rows tokens) (ho : o.Fits st.rows st.tokens)
    (hnext : Picks o.positions st.origin next) : next.Subperm st.origin :=
  List.subperm_of_subset (h.after ho hnext 0 st.state).nodup hnext.subset

/-- The caller is told of each rejected row at its own position. -/
lemma told (h : st.Tracks rows tokens) (ho : o.Fits st.rows st.tokens)
    (hnext : Picks o.positions st.origin next) :
    List.Forall₂ (Told rows tokens st.origin) o.rejects (givenUp next o) := by
  have hone : ∀ r ∈ o.rejects, ∀ n, item? st.origin r.position = some n →
      Told rows tokens st.origin r ⟨n, r.row, r.token, r.messages⟩ := by
    intro r hr n hn
    refine ⟨hn, ?_, ?_, rfl⟩
    · rw [← h.rows_picked.item?_eq hn, ho.row_eq r hr]
    · rw [ho.token_eq r hr, bind_item?_eq h.tokens_picked hn]
  rw [givenUp]
  rw [Outcome.positions] at hnext
  generalize o.rejects = rejects at hone hnext
  induction rejects generalizing next with
  | nil => simp
  | cons r rest ih =>
      obtain ⟨n, next', rfl, hn, hnext'⟩ := picks_cons.1 hnext
      exact .cons (hone r (by simp) n hn) (ih (fun r hr => hone r (by simp [hr])) hnext')

end Stage.Tracks

/-- The rows that are given up are named by the positions that they are given. -/
lemma positions_givenUp {o : Outcome} {origin next : List Int}
    (hnext : Picks o.positions origin next) :
    (givenUp next o).map RejectedRow.position = next := by
  have hlength : next.length = o.rejects.length := by
    rw [hnext.length_eq, Outcome.positions, List.length_map]
  rw [givenUp, List.map_map]
  exact List.map_fst_zip hlength.le

/-- The rows that are given up are those that were rejected. -/
lemma rows_givenUp {o : Outcome} {origin next : List Int} (hnext : Picks o.positions origin next) :
    (givenUp next o).map RejectedRow.row = o.rows := by
  have hlength : next.length = o.rejects.length := by
    rw [hnext.length_eq, Outcome.positions, List.length_map]
  have hrows : (givenUp next o).map RejectedRow.row =
      ((next.zip o.rejects).map Prod.snd).map Reject.row := by
    rw [givenUp, List.map_map, List.map_map]
    rfl
  rw [hrows, List.map_snd_zip hlength.ge, Outcome.rows]

/-! ### A run of honest rounds -/

variable [Logged σ] {policy : Policy} {pace : Pace} {label : String} {round : Round σ}
  {st st' : Stage σ}

/-- What a stage leads to, told in the caller's positions. -/
inductive Stage.Leads (policy : Policy) (pace : Pace) (label : String) (round : Round σ)
    (rows : List Row) (tokens : Option (List Writing)) (st : Stage σ) : Turn σ → Prop where
  /-- No row was rejected. -/
  | succeeded {o : Outcome} {p : Paced σ} (hresult : st.result round = (.ok o, p))
      (hnone : o.rejects = []) :
      Leads policy pace label round rows tokens st (.ends (.ok st.attempt) p)
  /-- Rows were rejected by the last attempt. -/
  | exhausted {o : Outcome} {p : Paced σ} {next : List Int}
      (hresult : st.result round = (.ok o, p)) (hsome : o.rejects ≠ [])
      (hlast : st.attempt = policy.attempts) (hnext : Picks o.positions st.origin next)
      (htold : List.Forall₂ (Told rows tokens st.origin) o.rejects (givenUp next o)) :
      Leads policy pace label round rows tokens st
        (.ends (.error (.rejected (givenUp next o) st.attempt))
          (Logged.note (.retriesExhausted label st.attempt next.length) p))
  /-- The wait for the next attempt was interrupted. -/
  | waiting {o : Outcome} {p : Paced σ} {next : List Int} {seconds : Float}
      (hresult : st.result round = (.ok o, p)) (hsome : o.rejects ≠ [])
      (hlt : st.attempt < policy.attempts) (hnext : Picks o.positions st.origin next)
      (hwait : policy.wait st.attempt (pace.sample p.draws) = .ok seconds)
      (hinterrupt : pace.interrupts p.waits.length = true) :
      Leads policy pace label round rows tokens st
        (.ends (.error (.interrupted .waiting next)) (waited label st.attempt next seconds p))
  /-- The rejected rows go into another round. -/
  | goesOn {o : Outcome} {p : Paced σ} {next : List Int} {seconds : Float}
      (hresult : st.result round = (.ok o, p)) (hsome : o.rejects ≠ [])
      (hlt : st.attempt < policy.attempts) (hnext : Picks o.positions st.origin next)
      (hwait : policy.wait st.attempt (pace.sample p.draws) = .ok seconds)
      (hinterrupt : pace.interrupts p.waits.length = false) :
      Leads policy pace label round rows tokens st (.goesOn ⟨st.attempt + 1, next, o.rows, o.tokens,
        waited label st.attempt next seconds p⟩)
  /-- The round was interrupted. -/
  | interrupted {during : Interruption} {positions outstanding : List Int} {p : Paced σ}
      (hresult : st.result round = (.error (.interrupted during positions), p))
      (houtstanding : Picks positions st.origin outstanding) :
      Leads policy pace label round rows tokens st
        (.ends (.error (.interrupted (.inserting label) outstanding)) p)
  /-- The round failed in some other way. -/
  | failed {f : Failure} {p : Paced σ} (hresult : st.result round = (.error f, p))
      (hother : ∀ during positions, f ≠ .interrupted during positions) :
      Leads policy pace label round rows tokens st (.ends (.error f) p)

namespace Stage.Tracks

/-- A stage that keeps track tells the caller in the caller's positions, or ends because the wait
for the next attempt is not defined. -/
lemma leads_or_overflows (h : st.Tracks rows tokens) (hhonest : st.Honest round)
    (hle : st.attempt ≤ policy.attempts) :
    st.Leads policy pace label round rows tokens (st.turn policy pace label round) ∨
      ∃ o p cause, st.result round = (.ok o, p) ∧ o.rejects ≠ [] ∧ st.attempt < policy.attempts ∧
        policy.wait st.attempt (pace.sample p.draws) = .error cause ∧
        st.turn policy pace label round =
          .ends (.error (.overflow cause)) { p with draws := p.draws + 1 } := by
  rcases hresult : st.result round with ⟨f | o, p⟩
  · rw [turn_of_error hresult]
    by_cases hinterrupted : ∃ during positions, f = .interrupted during positions
    · obtain ⟨during, positions, rfl⟩ := hinterrupted
      obtain ⟨outstanding, hpicks⟩ := h.exists_next (by simpa [Honest, hresult] using hhonest)
      rw [forCaller_of_interrupted during hpicks]
      exact .inl (.interrupted hresult hpicks)
    · have hother : ∀ during positions, f ≠ .interrupted during positions :=
        fun during positions hf => hinterrupted ⟨during, positions, hf⟩
      rw [forCaller_of_other hother]
      exact .inl (.failed hresult hother)
  · have hfits : o.Fits st.rows st.tokens := by simpa [Honest, hresult] using hhonest
    obtain ⟨next, hpicks⟩ := h.exists_next hfits.within
    have hnext := originOf_eq_ok hpicks
    by_cases hnone : o.rejects = []
    · rw [turn_of_succeeded hresult hnone]
      exact .inl (.succeeded hresult hnone)
    · rcases Nat.lt_or_ge st.attempt policy.attempts with hlt | hge
      · rcases hwait : policy.wait st.attempt (pace.sample p.draws) with cause | seconds
        · exact .inr ⟨o, p, cause, rfl, hnone, hlt, hwait,
            turn_of_overflow hresult hnone hlt hnext hwait⟩
        · rw [turn_of_backingOff hresult hnone hlt hnext hwait]
          cases hinterrupt : pace.interrupts p.waits.length with
          | true => exact .inl (.waiting hresult hnone hlt hpicks hwait hinterrupt)
          | false => exact .inl (.goesOn hresult hnone hlt hpicks hwait hinterrupt)
      · rw [turn_of_exhausted hresult hnone hge hnext]
        exact .inl (.exhausted hresult hnone (Nat.le_antisymm hle hge) hpicks (h.told hfits hpicks))

/-- If all waits are defined, a stage that keeps track tells the caller in the caller's positions. -/
lemma leads (h : st.Tracks rows tokens) (hhonest : st.Honest round) (hdefined : policy.Defined)
    (hpos : 0 < st.attempt) (hle : st.attempt ≤ policy.attempts) :
    st.Leads policy pace label round rows tokens (st.turn policy pace label round) := by
  rcases h.leads_or_overflows hhonest hle with hleads | ⟨o, p, cause, -, -, hlt, hwait, -⟩
  · exact hleads
  · obtain ⟨seconds, hseconds⟩ := hdefined.wait hpos hlt (pace.sample p.draws)
    simp [hseconds] at hwait

/-- A turn that leads to another stage keeps track, and drops positions only. -/
lemma of_goesOn (h : st.Tracks rows tokens) (hhonest : st.Honest round)
    (hturn : st.turn policy pace label round = .goesOn st') :
    st'.Tracks rows tokens ∧ st'.origin.Subperm st.origin := by
  obtain ⟨o, p, next, p', hresult, -, -, hnext, -, rfl⟩ := turn_goesOn hturn
  have hfits : o.Fits st.rows st.tokens := by simpa [Honest, hresult] using hhonest
  obtain ⟨next', hpicks⟩ := h.exists_next hfits.within
  obtain rfl : next' = next := by simpa [originOf_eq_ok hpicks] using hnext
  exact ⟨h.after hfits hpicks _ _, h.subperm_next hfits hpicks⟩

end Stage.Tracks

lemma Runs.tracks {l : List (Stage σ)} {r : Except Failure Nat} {p : Paced σ}
    (hruns : Runs policy pace label round st l r p) (hhonest : ∀ a ∈ l, a.Honest round)
    (hst : st.Tracks rows tokens) : ∀ a ∈ l, a.Tracks rows tokens :=
  hruns.forall_mem (fun _ _ ha htracks hturn => (htracks.of_goesOn ha hturn).1) hhonest hst

/-- A run of honest rounds keeps track.  The rows and tokens that a stage gives to its round are the
caller's at the positions in its origin, which are distinct, and which are among those of the stage
before.  How the run ends is told in the positions that the last stage knows. -/
theorem run_tracks (policy : Policy) (pace : Pace) (label : String) (round : Round σ)
    (rows : List Row) (tokens : Option (List Writing)) (p : Paced σ) (htokens : Matching rows tokens)
    (hdefined : policy.Defined)
    (hhonest : ∀ st ∈ stages policy pace label round rows tokens p, st.Honest round) :
    Runs policy pace label round (firstStage rows tokens p)
        (stages policy pace label round rows tokens p)
        ((run policy pace label round rows tokens).run p).1
        ((run policy pace label round rows tokens).run p).2 ∧
      (∀ st ∈ stages policy pace label round rows tokens p, st.Tracks rows tokens) ∧
      (stages policy pace label round rows tokens p).IsChain
        (fun st st' => st'.attempt = st.attempt + 1 ∧ st'.origin.Subperm st.origin) ∧
      ∃ last, (stages policy pace label round rows tokens p).getLast? = some last ∧
        last.Leads policy pace label round rows tokens
          (.ends ((run policy pace label round rows tokens).run p).1
            ((run policy pace label round rows tokens).run p).2) := by
  have hruns := runs_stages policy pace label round rows tokens p
  set l := stages policy pace label round rows tokens p
  have hfirst := Stage.Tracks.first p htokens
  have htracks := hruns.tracks hhonest hfirst
  obtain ⟨last, hlast, hends⟩ := hruns.exists_last
  have hmem : last ∈ l := List.mem_of_getLast? hlast
  obtain ⟨hpos, hle⟩ := hruns.attempt_mem Nat.one_pos policy.attempts_pos last hmem
  refine ⟨hruns, htracks, ?_, last, hlast,
    hends ▸ (htracks last hmem).leads (hhonest last hmem) hdefined hpos hle⟩
  refine hruns.isChain.imp_of_mem_imp fun a b ha _ hturn => ?_
  exact ⟨(Stage.attempt_of_goesOn hturn).1, ((htracks a ha).of_goesOn (hhonest a ha) hturn).2⟩

/-- A round that rejects the first of its rows. -/
def rejectFirst : Round (World Unit) := fun rows tokens =>
  pure ⟨(item? rows 0).toList.map fun row => ⟨0, row, tokens.bind (item? · 0), ["no"]⟩,
    tokens.isSome, []⟩

lemma honest_rejectFirst (st : Stage (World Unit)) : st.Honest rejectFirst := by
  rcases hrows : st.rows with _ | ⟨row, rest⟩
  · have hresult : (st.result rejectFirst).1 = .ok ⟨[], st.tokens.isSome, []⟩ := by
      simp [Stage.result, inner, rejectFirst, hrows, item?]
    rw [Stage.Honest, hresult]
    exact ⟨rfl, by simp [Outcome.positions], by simp [Outcome.positions], by simp, by simp⟩
  · have hresult : (st.result rejectFirst).1 =
        .ok ⟨[⟨0, row, st.tokens.bind (item? · 0), ["no"]⟩], st.tokens.isSome, []⟩ := by
      simp [Stage.result, inner, rejectFirst, hrows, item?]
    rw [Stage.Honest, hresult, hrows]
    refine ⟨rfl, by simp [Outcome.positions], ?_, by simp [item?], by simp⟩
    intro n hn
    obtain rfl : n = 0 := by simpa [Outcome.positions] using hn
    exact ⟨0, by simp, rfl⟩

/-- The first of two rows is rejected three times over, and the caller is told so. -/
theorem run_tracks_rejectFirst :
    let rows : List Row := [.bool true, .null]
    let tokens : Option (List Writing) := some ["a", "b"]
    let pace : Pace := ⟨fun _ => 0.5, fun _ => false⟩
    let p : Paced (World Unit) := { inner := { remote := (), pool := ⟨1, 1, false, false, []⟩ } }
    Matching rows tokens ∧ Policy.steep.Defined ∧
      (∀ st ∈ stages .steep pace "p.d.t" rejectFirst rows tokens p, st.Honest rejectFirst) ∧
      ∃ last, (stages .steep pace "p.d.t" rejectFirst rows tokens p).getLast? = some last ∧
        last.Leads .steep pace "p.d.t" rejectFirst rows tokens
          (.ends ((run .steep pace "p.d.t" rejectFirst rows tokens).run p).1
            ((run .steep pace "p.d.t" rejectFirst rows tokens).run p).2) := by
  intro rows tokens pace p
  have htokens : Matching rows tokens := by
    intro ts hts
    obtain rfl := Option.some.inj hts
    rfl
  have hhonest : ∀ st ∈ stages .steep pace "p.d.t" rejectFirst rows tokens p,
      st.Honest rejectFirst := fun st _ => honest_rejectFirst st
  obtain ⟨-, -, -, hlast⟩ := run_tracks .steep pace "p.d.t" rejectFirst rows tokens p htokens
    Policy.steep_defined hhonest
  exact ⟨htokens, Policy.steep_defined, hhonest, hlast⟩

end Retry

end TableFeed
