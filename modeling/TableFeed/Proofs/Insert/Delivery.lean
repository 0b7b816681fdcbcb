import TableFeed.Proofs.Insert.Runs

/-!
# What an insert delivers

The calls that an insert adds to the pool fall into rounds.  The rounds, as the pool shows them when
the insert is over, are a list of dispatches; `World.Delivery` says of this list what holds of every
run, however it ends: a round sends each of its rows once, in the caller's order, with its token; the
first round sends all rows; and every later one sends exactly those that were reported in the round
before it.  So a row that was accepted is not sent again, and a row that was rejected is given up
only when the insert ends.

The main result is `World.insertAll_delivers`.  It holds for all limits of batches.
-/

namespace TableFeed

open Position World Retry

variable {σ : Type} {c : Client σ} {s : Schedule} {pace : Pace} {options : InsertOptions}
  {table : TableName} {rows : List Row} {tokens : Option (List Writing)}

namespace Dispatch

/-- The batches hold the caller's rows and tokens at the origin, which ascends.  The positions of
the batches count the rows of the round, so that each of them is sent once. -/
structure Sends (rows : List Row) (tokens : Option (List Writing)) (d : Dispatch) : Prop where
  ascending : d.origin.Pairwise (· < ·)
  within : ∀ n ∈ d.origin, Within rows.length n
  positions_eq : d.batches.flatMap Batch.positions = (List.range d.origin.length).map Int.ofNat
  rows_picked : Picks d.origin rows (d.batches.flatMap Batch.rows)
  tokens_picked : ∀ ts, tokens = some ts →
    Picks d.origin ts (d.batches.flatMap fun b => b.tokens.getD [])
  tokens_length : ∀ b ∈ d.batches, b.tokens.map List.length = tokens.map fun _ => b.rows.length

/-- How an insert ends with the dispatch of the round with a given number, in the state that it
leaves.  The wait for the calls of the round and the wait that may follow have numbers, too. -/
inductive Ended (s : Schedule) (pace : Pace) (policy : Policy) (table : TableName) (w : World σ)
    (d : Dispatch) (attempt wait sleep : Nat) : Except Failure Nat → Prop where
  /-- Nothing was reported. -/
  | accepted (hanswered : d.Answered w) (hnone : ∀ n, ¬ d.Reported w n) :
      Ended s pace policy table w d attempt wait sleep (.ok attempt)
  /-- The rows that were reported after the last attempt are given up. -/
  | exhausted {failures : List RejectedRow} (hanswered : d.Answered w) (hsome : failures ≠ [])
      (hlast : attempt = policy.attempts)
      (hfailures : ∀ n, n ∈ failures.map RejectedRow.position ↔ d.Reported w n) :
      Ended s pace policy table w d attempt wait sleep (.error (.rejected failures attempt))
  /-- The wait before the rows that were reported are sent again was interrupted. -/
  | waiting {outstanding : List Int} (hanswered : d.Answered w) (hlt : attempt < policy.attempts)
      (hinterrupt : pace.interrupts sleep = true)
      (houtstanding : ∀ n, n ∈ outstanding ↔ d.Reported w n) :
      Ended s pace policy table w d attempt wait sleep (.error (.interrupted .waiting outstanding))
  /-- The wait for the calls was interrupted. -/
  | interrupted {outstanding : List Int} (hinterrupt : s.interrupts wait = true)
      (houtstanding : outstanding ⊆ d.origin) :
      Ended s pace policy table w d attempt wait sleep
        (.error (.interrupted (.inserting table.spec) outstanding))
  /-- A call has failed. -/
  | failed {b : Batch} {n : Nat} {f : Failure} (hcall : (b, n) ∈ d.calls)
      (houtcome : w.pool.outcome? n = some (.error f)) :
      Ended s pace policy table w d attempt wait sleep (.error (.transport table b.start f))
  /-- An entry of the reports names no row of its batch. -/
  | refused {f : Failure} (hanswered : d.Answered w) (hunusable : ¬ d.Usable w)
      (hf : (∃ cause, f = .report cause) ∨ f = .fault .unwritable) :
      Ended s pace policy table w d attempt wait sleep (.error f)

end Dispatch

namespace World

/-- What an insert delivers: the dispatches of its rounds. -/
structure Delivery (s : Schedule) (pace : Pace) (policy : Policy) (table : TableName)
    (rows : List Row) (tokens : Option (List Writing)) (p p' : Paced (World σ))
    (ds : List Dispatch) (r : Except Failure Nat) : Prop where
  /-- The jobs of the rounds follow the jobs that were in the pool. -/
  submitted : p'.inner.pool.jobs = p.inner.pool.jobs ++ ds.flatMap (Dispatch.jobs table)
  /-- The calls of a round are numbered after those of the rounds before it. -/
  numbered : ∀ before d after, ds = before ++ d :: after →
    d.first = p.inner.pool.size + (before.flatMap (Dispatch.jobs table)).length
  /-- Every round sends the caller's rows at its origin. -/
  sends : ∀ d ∈ ds, d.Sends rows tokens
  /-- The first round sends all rows. -/
  first : ds.head?.map Dispatch.origin = some ((List.range rows.length).map Int.ofNat)
  /-- Every other round sends the rows that were reported in the round before it. -/
  next : ds.IsChain fun d d' => d.Answered p'.inner ∧ ∀ n, n ∈ d'.origin ↔ d.Reported p'.inner n
  /-- A row that is sent was reported in all earlier rounds. -/
  later : ds.Pairwise fun d d' => ∀ n ∈ d'.origin, d.Reported p'.inner n
  /-- There are no more rounds than attempts. -/
  length_le : ds.length ≤ policy.attempts
  /-- The insert ends with the last round. -/
  ended : ∃ before last, ds = before ++ [last] ∧
    last.Ended s pace policy table p'.inner (before.length + 1) (p.inner.waits + before.length)
      (p.waits.length + before.length) r

end World

/-! ### A run of an insert delivers -/

variable {limits : BatchLimits} {policy : Policy} {st : Stage (World σ)} {l : List (Stage (World σ))}
  {r : Except Failure Nat} {p p' : Paced (World σ)} {w w' : World σ}

lemma Dispatch.reported_iff {d : Dispatch} {js : List Job} (h : d.Answered w)
    (hext : w.pool.Extends js w'.pool) (n : Int) : d.Reported w' n ↔ d.Reported w n := by
  rw [Dispatch.Reported, Dispatch.Reported, d.entries_eq h hext]

lemma Dispatch.Reported.mem_origin {d : Dispatch} {n : Int} (h : d.Reported w n) : n ∈ d.origin := by
  obtain ⟨x, hx, m, hm, hn⟩ := h
  exact mem_of_item? hn

/-- Origins only get smaller: what is so of the rows of a round in the round before it is so in all
rounds before it. -/
lemma pairwise_of_isChain {P : Dispatch → Int → Prop} (hP : ∀ d n, P d n → n ∈ d.origin)
    {ds : List Dispatch} (h : ds.IsChain fun d d' => ∀ n ∈ d'.origin, P d n) :
    ds.Pairwise fun d d' => ∀ n ∈ d'.origin, P d n := by
  let R : Dispatch → Dispatch → Prop := fun d d' => ∀ n ∈ d'.origin, P d n
  have : Trans R R R := ⟨fun h h' n hn => h n (hP _ n (h' n hn))⟩
  exact List.IsChain.pairwise (R := R) h

namespace Retry

lemma Stage.Able.sends (limits : BatchLimits) (h : st.Able rows tokens) :
    (st.dispatch limits).Sends rows tokens := by
  have hcuts := h.cuts limits
  have hpicked := h.tracks.tokens_picked
  refine ⟨h.ascending, h.tracks.within, ?_, ?_, ?_, ?_⟩
  · rw [hcuts.positions_eq, ← List.range_eq_range', h.tracks.length_rows]
    rfl
  · rw [hcuts.rows_eq]
    exact h.tracks.rows_picked
  · rintro ts rfl
    generalize hus : st.tokens = us at hpicked hcuts
    cases hpicked with
    | some hpicks =>
        rw [hcuts.tokens_eq (h.tracks.matching _ hus)]
        exact hpicks
  · intro b hb
    rw [hcuts.tokens_length h.tracks.matching b hb]
    generalize st.tokens = us at hpicked
    cases hpicked <;> rfl

namespace Inserts

/-- The dispatches of the stages, up to the last one, and how the insert ends with it. -/
lemma exists_ended (h : Inserts c s limits table pace policy rows tokens (st :: l) r p)
    (hsized : Sized rows) (hattempt : st.attempt = 1) (hp' : p'.inner.pool = p.inner.pool) :
    ∃ before last, (st :: l).map (Stage.dispatch limits) = before ++ [last] ∧
      last.Ended s pace policy table p'.inner (before.length + 1)
        (st.state.inner.waits + before.length) (st.state.waits.length + before.length) r := by
  obtain ⟨last, hlast, hends⟩ := h.exists_last
  obtain ⟨before, hsplit⟩ := List.getLast?_eq_some_iff.1 hlast
  obtain ⟨-, hwaits, hsleeps, hnumber⟩ := h.passes.at_split hsplit
  have hmem : last ∈ st :: l := List.mem_of_getLast? hlast
  obtain ⟨js, hext⟩ := h.passes.left_extends last hmem
  rw [← hp'] at hext
  have hready := (h.ready last hmem).1
  refine ⟨before.map (Stage.dispatch limits), last.dispatch limits, by simp [hsplit], ?_⟩
  rw [List.length_map, ← hwaits, ← hsleeps, Nat.add_comm before.length, ← hattempt, ← hnumber]
  -- what was reported on the last round is what the next origin would have been
  have hreported : ∀ {next : List Int}, last.Replied c s limits table →
      Picks (last.outcome c s limits table).positions last.origin next →
      ∀ n, n ∈ next ↔ (last.dispatch limits).Reported p'.inner n := by
    intro next hreplied hnext n
    rw [Stage.outcome, Outcome.positions_naming] at hnext
    rw [Dispatch.reported_iff hreplied.answered hext,
      hready.mem_iff_reported hsized hreplied.usable hnext]
  cases hends with
  | accepted hreplied hnone =>
      have hnil : Picks (last.outcome c s limits table).positions last.origin [] := by
        rw [hnone]
        simp
      refine .accepted (hreplied.answered.extends hext) fun n => ?_
      rw [← hreported hreplied hnil]
      simp
  | exhausted hreplied hsome hlast hnext =>
      have hpositions := positions_givenUp hnext
      refine .exhausted (hreplied.answered.extends hext) ?_ hlast fun n => ?_
      · intro hnil
        apply hsome
        rw [← hpositions, hnil]
        rfl
      · rw [hpositions]
        exact hreported hreplied hnext n
  | waiting hreplied hsome hlt hnext hinterrupt =>
      exact .waiting (hreplied.answered.extends hext) hlt hinterrupt (hreported hreplied hnext)
  | interrupted hinterrupt houtstanding => exact .interrupted hinterrupt houtstanding
  | failed hfirst =>
      obtain ⟨n, hcall, houtcome⟩ := exists_of_firstFailed? hfirst
      exact .failed hcall (hext.outcome_kept _ _ houtcome)
  | refused hanswered hunusable hf =>
      refine .refused (hanswered.extends hext) ?_ hf
      rwa [Dispatch.Usable, Dispatch.entries_eq hanswered hext]

/-- A run of an insert from its first stage on delivers.  It may begin and end in other states than
the insert does, as long as these have the same pool and the same waits. -/
lemma delivers {p₀ : Paced (World σ)}
    (h : Inserts c s limits table pace policy rows tokens (firstStage rows tokens p₀ :: l) r p)
    (hsized : Sized rows) (hle : ∀ a ∈ firstStage rows tokens p₀ :: l, a.attempt ≤ policy.attempts)
    {q q' : Paced (World σ)} (hpool : q.inner.pool = p₀.inner.pool)
    (hwaits : q.inner.waits = p₀.inner.waits) (hsleeps : q.waits = p₀.waits)
    (hpool' : q'.inner.pool = p.inner.pool) :
    Delivery s pace policy table rows tokens q q'
      ((firstStage rows tokens p₀ :: l).map (Stage.dispatch limits)) r := by
  have hchain : ((firstStage rows tokens p₀ :: l).map (Stage.dispatch limits)).IsChain fun d d' =>
      d.Answered q'.inner ∧ ∀ n, n ∈ d'.origin ↔ d.Reported q'.inner n := by
    rw [List.isChain_map]
    refine h.isChain.imp_of_mem_imp fun a b ha _ hfollows => ?_
    -- the reports on a round are the same when the insert is over as right after the round
    obtain ⟨js, hext⟩ := h.passes.left_extends a ha
    rw [← hpool'] at hext
    obtain ⟨hreplied, -, -, -, hpicks, -⟩ := hfollows
    rw [Stage.outcome, Outcome.positions_naming] at hpicks
    refine ⟨hreplied.answered.extends hext, fun n => ?_⟩
    rw [Dispatch.reported_iff hreplied.answered hext]
    exact (h.ready a ha).1.mem_iff_reported hsized hreplied.usable hpicks n
  refine ⟨?_, ?_, ?_, rfl, hchain, ?_, ?_, ?_⟩
  · rw [hpool, hpool', h.passes.pool.jobs_eq, List.flatMap_map]
    rfl
  · intro before d after hsplit
    obtain ⟨l₁, l₂, hl, rfl, hl₂⟩ := List.map_eq_append_iff.1 hsplit
    obtain ⟨a, l₃, rfl, rfl, -⟩ := List.map_eq_cons_iff.1 hl₂
    rw [h.passes.first_eq hl, hpool]
    rfl
  · intro d hd
    obtain ⟨a, ha, rfl⟩ := List.mem_map.1 hd
    exact ((h.ready a ha).1.able hsized).sends limits
  · exact pairwise_of_isChain (fun d n hn => hn.mem_origin)
      (hchain.imp fun d d' hnext n hn => (hnext.2 n).1 hn)
  · obtain ⟨last, hlast, -⟩ := h.exists_last
    obtain ⟨before, hsplit⟩ := List.getLast?_eq_some_iff.1 hlast
    obtain ⟨-, -, -, hnumber⟩ := h.passes.at_split hsplit
    rw [show (firstStage rows tokens p₀).attempt = 1 from rfl] at hnumber
    have hlast := hle last (List.mem_of_getLast? hlast)
    rw [List.length_map, hsplit, List.length_append, List.length_singleton]
    omega
  · rw [hwaits, hsleeps]
    exact h.exists_ended hsized rfl hpool'

end Inserts

end Retry

/-! ### The whole insert -/

namespace World

/-- Every insert of rows that all have a size and whose tokens match delivers: whatever the client
reports, in whatever order the calls run, and wherever the user interrupts. -/
theorem insertAll_delivers (c : Client σ) (s : Schedule) (pace : Pace) (options : InsertOptions)
    (table : TableName) (rows : List Row) (tokens : Option (List Writing)) (p : Paced (World σ))
    (hsized : Sized rows) (htokens : Matching rows tokens) (hdefined : options.policy.Defined)
    (hopen : p.inner.pool.closed = false) (hc : Client.Plain c) :
    ∃ ds, Delivery s pace options.policy table rows tokens p
      ((insertAll c s pace options (some table) rows tokens).run p).2 ds
      (((insertAll c s pace options (some table) rows tokens).run p).1.map Summary.attempts) := by
  obtain ⟨l, r, p', log, hl, hinserts, hinsert, -⟩ := insertAll_inserts c s pace options table p
    hsized htokens hdefined hopen .trivial .intro
    fun a _ ha _ => hc.stage (ha.performs c s options.limits table hsized)
  have hr' : (r.map (summaryOf table rows p'.inner.tally)).map Summary.attempts = r := by
    cases r <;> rfl
  rw [hinsert, hr']
  exact ⟨_, hinserts.delivers hsized (hinserts.attempt_le options.policy.attempts_pos)
    rfl rfl rfl rfl⟩

/-- Two equal rows go to a client that rejects the first row of every batch, one row a batch. -/
theorem insertAll_delivers_rejected :
    let row : Row := .mapping [(.text "a", .bool true)]
    let c := Client.answering fun _ => [⟨.int 0, "no", .null⟩]
    let pace : Pace := ⟨fun _ => 0.5, fun _ => false⟩
    let options : InsertOptions := ⟨⟨1, 1⟩, .steep⟩
    let r := (insertAll c idle pace options (some ⟨"p", "d", "t"⟩) [row, row] (some ["x", "y"])).run
      (fresh ())
    Sized [row, row] ∧ Matching [row, row] (some ["x", "y"]) ∧ options.policy.Defined ∧
      (fresh ()).inner.pool.closed = false ∧ Client.Plain c ∧
      ∃ ds, Delivery idle pace .steep ⟨"p", "d", "t"⟩ [row, row] (some ["x", "y"]) (fresh ()) r.2 ds
        (r.1.map Summary.attempts) := by
  intro row c pace options r
  have hsized : Sized [row, row] := by
    intro row' hrow'
    obtain rfl : row' = row := by simpa using hrow'
    exact ⟨_, rfl⟩
  have htokens : Matching [row, row] (some ["x", "y"]) := by
    intro ts hts
    obtain rfl := Option.some.inj hts
    rfl
  have hc : Client.Plain c := by
    intro job st report hreport x hx
    rw [Client.ends_answering] at hreport
    obtain rfl : [⟨.int 0, "no", .null⟩] = report := Option.some.inj (Except.ok.inj hreport)
    obtain rfl := List.mem_singleton.1 hx
    exact .inr ⟨0, rfl⟩
  exact ⟨hsized, htokens, Policy.steep_defined, rfl, hc,
    insertAll_delivers c idle pace options ⟨"p", "d", "t"⟩ [row, row] (some ["x", "y"]) (fresh ())
      hsized htokens Policy.steep_defined rfl hc⟩

end World

end TableFeed
