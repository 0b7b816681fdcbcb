import TableFeed.Proofs.Insert.Delivery
import TableFeed.Proofs.Insert.Unsent

/-!
# The course of an insert

`World.Delivery` describes inserts whose reports are plain, on a pool that is open and under a policy
whose waits are defined.  The course of an insert is told here without any of that: of every insert,
whatever it is given, whatever the indices in the reports are, and wherever the user interrupts.

`World.Course` says of the dispatches of the rounds that each round but the last one was not
interrupted and has settled, and that the next one sends the rows that it rejected.
`World.Concludes` says how the insert ends.

The main results are

* `World.insertAll_courses`: every insert takes a course and concludes;
* `World.insertAll_reaches`: on the way it takes steps of a load;
* `World.insertAll_adds`: what is told on the way.
-/

namespace TableFeed

open Position World Retry

variable {σ : Type} {c : Client σ} {s : Schedule} {pace : Pace} {options : InsertOptions}
  {table : TableName} {rows : List Row} {tokens : Option (List Writing)} {limits : BatchLimits}
  {policy : Policy} {st st' : Stage (World σ)} {l : List (Stage (World σ))}
  {r : Except Failure Nat} {p p' : Paced (World σ)} {w : World σ}

/-- What the policy makes of a round that was answered.  The round and the sleep that may follow it
have numbers; the last number says how many sleeps have begun when the insert is over. -/
inductive Dispatch.Decided (pace : Pace) (policy : Policy) (w : World σ) (d : Dispatch)
    (attempt sleep : Nat) : Except Failure Nat → Nat → Prop where
  /-- Nothing is rejected. -/
  | accepted (hnone : ∀ n, ¬ d.Rejects w n) : Decided pace policy w d attempt sleep (.ok attempt) sleep
  /-- The rows that were rejected by the last attempt are given up. -/
  | exhausted {failures : List RejectedRow} (hlast : attempt = policy.attempts)
      (hfailures : ∀ n, n ∈ failures.map RejectedRow.position ↔ d.Rejects w n) :
      Decided pace policy w d attempt sleep (.error (.rejected failures attempt)) sleep
  /-- The sleep before the next attempt is not defined. -/
  | overflow {cause : Overflow} (hlt : attempt < policy.attempts) :
      Decided pace policy w d attempt sleep (.error (.overflow cause)) sleep
  /-- The sleep before the next attempt was interrupted. -/
  | waiting {outstanding : List Int} (hsleep : pace.interrupts sleep = true)
      (hascending : outstanding.Pairwise (· < ·))
      (houtstanding : ∀ n, n ∈ outstanding ↔ d.Rejects w n) :
      Decided pace policy w d attempt sleep (.error (.interrupted .waiting outstanding)) (sleep + 1)

/-- How an insert ends with the dispatch of its last round, in the state that it leaves.  The wait for
the calls of the round has a number, too. -/
inductive Dispatch.Finishes (s : Schedule) (pace : Pace) (policy : Policy) (table : TableName)
    (w : World σ) (d : Dispatch) (attempt wait sleep : Nat) : Except Failure Nat → Nat → Prop where
  /-- The round was answered, and there is no further one. -/
  | decided {r : Except Failure Nat} {sleeps : Nat} (hinterrupt : s.interrupts wait = false)
      (hsettled : d.Settled w) (hdecided : d.Decided pace policy w attempt sleep r sleeps) :
      Finishes s pace policy table w d attempt wait sleep r sleeps
  /-- The wait for the calls was interrupted. -/
  | interrupted {outstanding : List Int} (hinterrupt : s.interrupts wait = true)
      (hascending : outstanding.Pairwise (· < ·))
      (houtstanding : ∀ n, n ∈ outstanding ↔ d.Unfinished w n) :
      Finishes s pace policy table w d attempt wait sleep
        (.error (.interrupted (.inserting table.spec) outstanding)) sleep
  /-- A call has failed. -/
  | failed {b : Batch} {f : Failure} (hinterrupt : s.interrupts wait = false)
      (hfirst : w.firstFailed? d.calls = some (b, f)) :
      Finishes s pace policy table w d attempt wait sleep (.error (.transport table b.start f)) sleep
  /-- The reports are of no use. -/
  | refused {f : Failure} (hinterrupt : s.interrupts wait = false) (hrefused : d.Refused w f) :
      Finishes s pace policy table w d attempt wait sleep (.error f) sleep

namespace World

/-- The dispatches of the rounds of an insert, as the pool shows them when the insert is over. -/
structure Course (s : Schedule) (pace : Pace) (table : TableName) (rows : List Row)
    (tokens : Option (List Writing)) (p p' : Paced (World σ)) (ds : List Dispatch) : Prop where
  /-- The jobs of the rounds follow the jobs that were in the pool. -/
  submitted : p'.inner.pool.jobs = p.inner.pool.jobs ++ ds.flatMap (Dispatch.jobs table)
  /-- The calls of a round are numbered after those of the rounds before it. -/
  numbered : ∀ before d after, ds = before ++ d :: after →
    d.first = p.inner.pool.size + (before.flatMap (Dispatch.jobs table)).length
  /-- There is a wait for the calls of each round. -/
  waits_eq : p'.inner.waits = p.inner.waits + ds.length
  /-- Every round sends the caller's rows at its origin. -/
  sends : ∀ d ∈ ds, d.Sends rows tokens
  /-- The first round sends all rows. -/
  first : ∀ d, ds.head? = some d → d.origin = (List.range rows.length).map Int.ofNat
  /-- Every other round sends the rows that were rejected in the round before it. -/
  next : ds.IsChain fun d d' =>
    d.Settled p'.inner ∧ ∀ n, n ∈ d'.origin ↔ d.Rejects p'.inner n
  /-- Neither the wait for the calls of a round nor the sleep after it was interrupted, if another
  round follows. -/
  uninterrupted : ∀ before d d' after, ds = before ++ d :: d' :: after →
    s.interrupts (p.inner.waits + before.length) = false ∧
      pace.interrupts (p.waits.length + before.length) = false

/-- How an insert with given dispatches ends. -/
inductive Concludes (s : Schedule) (pace : Pace) (policy : Policy) (table : TableName)
    (p p' : Paced (World σ)) (ds : List Dispatch) : Except Failure Nat → Prop where
  /-- Nothing is sent. -/
  | unsent {f : Failure} (hnone : ds = []) (hsleeps : p'.waits = p.waits) (hf : Refuses f) :
      Concludes s pace policy table p p' ds (.error f)
  /-- The insert ends with a round. -/
  | finished {before : List Dispatch} {d : Dispatch} {r : Except Failure Nat}
      (hsplit : ds = before ++ [d])
      (hfinishes : d.Finishes s pace policy table p'.inner (before.length + 1)
        (p.inner.waits + before.length) (p.waits.length + before.length) r p'.waits.length) :
      Concludes s pace policy table p p' ds r

end World

/-! ### Stages and their dispatches -/

namespace Retry

/-- How a stage ends a run, told of its dispatch and of any state with the pool that its round
leaves. -/
lemma Stage.Able.finishes (h : st.Able rows tokens)
    (hmoves : st.Moves c s limits table pace policy (.ends r p))
    (hpool : w.pool = (st.left c s limits table).pool) :
    (st.dispatch limits).Finishes s pace policy table w st.attempt st.state.inner.waits
      st.state.waits.length r p.waits.length := by
  have hext : (st.left c s limits table).pool.Extends [] w.pool := hpool ▸ .refl _
  have hsettled : ∀ {o}, st.Replies c s limits table o → (st.dispatch limits).Settled w :=
    fun hreplies => (settled hreplies).extends hext
  have hrejects : ∀ {o next}, st.Replies c s limits table o → Picks o.positions st.origin next →
      ∀ n, n ∈ next ↔ (st.dispatch limits).Rejects w n := fun hreplies hnext n =>
    (h.mem_iff_rejects hreplies hnext n).trans (Dispatch.rejects_iff hreplies.answered hext n).symm
  cases hmoves with
  | @accepted o hreplies hnone =>
      have hnil : Picks o.positions st.origin [] := by
        rw [Outcome.positions, hnone]
        exact picks_nil.2 rfl
      refine .decided hreplies.interrupts_eq (hsettled hreplies) (.accepted fun n hn => ?_)
      exact absurd ((hrejects hreplies hnil n).2 hn) (by simp)
  | exhausted hreplies _ hlast hnext =>
      refine .decided hreplies.interrupts_eq (hsettled hreplies) (.exhausted hlast ?_)
      rw [positions_givenUp hnext]
      exact hrejects hreplies hnext
  | overflow hreplies _ hlt _ =>
      exact .decided hreplies.interrupts_eq (hsettled hreplies) (.overflow hlt)
  | waiting hreplies _ _ hnext _ hinterrupt =>
      rw [waited, List.length_append]
      exact .decided hreplies.interrupts_eq (hsettled hreplies)
        (.waiting hinterrupt (h.pairwise_next hreplies hnext) (hrejects hreplies hnext))
  | @interrupted outstanding hinterrupt hpicks =>
      have hunfinished : Picks (w.outstanding (st.dispatch limits).calls) st.origin outstanding := by
        rwa [World.outstanding, show w.isOpen = (st.left c s limits table).isOpen by
          funext n; rw [isOpen, isOpen, hpool]]
      have hcalls : ∀ x ∈ (st.dispatch limits).calls, x.2 < w.pool.size := fun x hx =>
        lt_size_of_mem_zipIdx table (hpool ▸ (h.performs c s limits table).pool)
          (List.mem_map_of_mem hx)
      exact .interrupted hinterrupt (h.pairwise_outstanding hunfinished)
        (mem_iff_unfinished hcalls hunfinished)
  | failed hinterrupt hfirst =>
      refine .failed hinterrupt ?_
      rwa [firstFailed?, hpool]
  | refused hinterrupt hanswered hf =>
      exact .refused hinterrupt ((h.refused hanswered hf).extends hext)

/-- A stage that another one follows was not interrupted and has settled, and the other one takes
the rows that were rejected. -/
lemma Stage.Able.next (h : st.Able rows tokens)
    (hmoves : st.Moves c s limits table pace policy (.goesOn st')) {js : List Job}
    (hext : (st.left c s limits table).pool.Extends js w.pool) :
    (st.dispatch limits).Settled w ∧
      (∀ n, n ∈ st'.origin ↔ (st.dispatch limits).Rejects w n) ∧
      s.interrupts st.state.inner.waits = false ∧ pace.interrupts st.state.waits.length = false := by
  cases hmoves with
  | goesOn hreplies _ _ hnext _ hinterrupt =>
      refine ⟨(settled hreplies).extends hext, fun n => ?_, hreplies.interrupts_eq, hinterrupt⟩
      rw [Dispatch.rejects_iff hreplies.answered hext]
      exact h.mem_iff_rejects hreplies hnext n

/-- Two states with the same pool and the same waits. -/
structure Alongside (p q : Paced (World σ)) : Prop where
  pool_eq : q.inner.pool = p.inner.pool
  waits_eq : q.inner.waits = p.inner.waits
  sleeps_eq : q.waits = p.waits

/-- An insert that ends where it began has taken the course without a round. -/
lemma Alongside.course_nil {q q' : Paced (World σ)} (h : Alongside q q') :
    Course s pace table rows tokens q q' [] where
  submitted := by simp [h.pool_eq]
  numbered := by simp
  waits_eq := h.waits_eq
  sends := by simp
  first := by simp
  next := .nil
  uninterrupted := by simp

namespace Runs

variable {p₀ q q' : Paced (World σ)}

/-- What a stage of a run knows of the one that follows it, told of any state with the pool that the
run leaves. -/
lemma follows
    (h : Runs policy pace table.spec (round c s limits table) (firstStage rows tokens p₀) l r p)
    (hfirst : (firstStage rows tokens p₀).Able rows tokens) (hpool : w.pool = p.inner.pool)
    (hst : st ∈ l) (hturn : st.turn policy pace table.spec (round c s limits table) = .goesOn st') :
    (st.dispatch limits).Settled w ∧
      (∀ n, n ∈ st'.origin ↔ (st.dispatch limits).Rejects w n) ∧
      s.interrupts st.state.inner.waits = false ∧
      pace.interrupts st.state.waits.length = false := by
  obtain ⟨hpasses, hable⟩ := h.passes hfirst policy.attempts_pos
  obtain ⟨hst', hle⟩ := hable st hst
  obtain ⟨js, hext⟩ := hpasses.left_extends st hst
  rw [← hpool] at hext
  exact hst'.next (hturn ▸ hst'.moves hle) hext

/-- A run from the first stage on takes a course.  It may begin and end beside the states of the
insert. -/
lemma course
    (h : Runs policy pace table.spec (round c s limits table) (firstStage rows tokens p₀) l r p)
    (hfirst : (firstStage rows tokens p₀).Able rows tokens) (hq : Alongside p₀ q)
    (hq' : Alongside p q') :
    Course s pace table rows tokens q q' (l.map (Stage.dispatch limits)) := by
  obtain ⟨hpasses, hable⟩ := h.passes hfirst policy.attempts_pos
  have hchain := h.isChain
  obtain ⟨l', hl⟩ := h.exists_cons
  rw [hl] at hpasses
  refine ⟨?_, ?_, ?_, ?_, ?_, ?_, ?_⟩
  · rw [hq.pool_eq, hq'.pool_eq, hpasses.pool.jobs_eq, hl, List.flatMap_map]
    rfl
  · intro before d after hds
    obtain ⟨l₁, l₂, hl₁, rfl, hl₂⟩ := List.map_eq_append_iff.1 hds
    obtain ⟨a, l₃, rfl, rfl, -⟩ := List.map_eq_cons_iff.1 hl₂
    rw [hpasses.first_eq (hl.symm.trans hl₁), hq.pool_eq]
    rfl
  · rw [hq.waits_eq, hq'.waits_eq, hpasses.waits_eq, List.length_map, hl]
    rfl
  · intro d hd
    obtain ⟨a, ha, rfl⟩ := List.mem_map.1 hd
    exact (hable a ha).1.sends limits
  · intro d hd
    rw [hl, List.map_cons, List.head?_cons] at hd
    obtain rfl := Option.some.inj hd
    rfl
  · rw [List.isChain_map]
    refine hchain.imp_of_mem_imp fun a b ha _ hturn => ?_
    obtain ⟨hsettled, horigin, -⟩ := h.follows hfirst hq'.pool_eq ha hturn
    exact ⟨hsettled, horigin⟩
  · intro before d d' after hds
    obtain ⟨l₁, l₂, hl₁, rfl, hl₂⟩ := List.map_eq_append_iff.1 hds
    obtain ⟨a, l₃, rfl, rfl, hl₃⟩ := List.map_eq_cons_iff.1 hl₂
    obtain ⟨b, l₄, rfl, rfl, -⟩ := List.map_eq_cons_iff.1 hl₃
    obtain ⟨-, hcount, hcount', -⟩ := hpasses.at_split (hl.symm.trans hl₁)
    rw [hl₁, List.isChain_append_cons_cons] at hchain
    obtain ⟨-, -, hwait, hsleep⟩ := h.follows hfirst hq'.pool_eq (by simp [hl₁]) hchain.2.1
    rw [hcount] at hwait
    rw [hcount'] at hsleep
    rw [List.length_map, hq.waits_eq, hq.sleeps_eq]
    exact ⟨hwait, hsleep⟩

/-- A run concludes with its last stage. -/
lemma concludes
    (h : Runs policy pace table.spec (round c s limits table) (firstStage rows tokens p₀) l r p)
    (hfirst : (firstStage rows tokens p₀).Able rows tokens) (hq : Alongside p₀ q)
    (hq' : Alongside p q') :
    Concludes s pace policy table q q' (l.map (Stage.dispatch limits)) r := by
  obtain ⟨hpasses, hable⟩ := h.passes hfirst policy.attempts_pos
  obtain ⟨last, hlast, hends⟩ := h.exists_last
  obtain ⟨before, hsplit⟩ := List.getLast?_eq_some_iff.1 hlast
  obtain ⟨l', hl⟩ := h.exists_cons
  rw [hl] at hpasses
  obtain ⟨-, hcount, hcount', hattempt⟩ := hpasses.at_split (hl.symm.trans hsplit)
  obtain ⟨hable', hle⟩ := hable last (List.mem_of_getLast? hlast)
  have hmoves := hends ▸ hable'.moves hle
  obtain ⟨log, hinner⟩ := hmoves.inner_eq
  have hfinishes := hable'.finishes (w := q'.inner) hmoves (by rw [hq'.pool_eq, hinner])
  rw [hcount, hcount', hattempt] at hfinishes
  refine .finished (show _ = before.map (Stage.dispatch limits) ++ [last.dispatch limits] by
    simp [hsplit]) ?_
  rw [List.length_map, hq.waits_eq, hq.sleeps_eq, hq'.sleeps_eq, Nat.add_comm before.length 1]
  exact hfinishes

end Runs

end Retry

/-! ### The whole insert -/

namespace World

variable {q : Except Failure Summary × Paced (World σ)}

/-- Every insert takes a course and concludes, whatever it is given, whatever the client reports, in
whatever order the calls run, and wherever the user interrupts. -/
theorem insertAll_courses (hq : (insertAll c s pace options (some table) rows tokens).run p = q) :
    ∃ ds, Course s pace table rows tokens p q.2 ds ∧
      Concludes s pace options.policy table p q.2 ds (q.1.map Summary.attempts) := by
  rcases insertAll_cases hq with ⟨f, log, tally, hf, -, rfl⟩ | ⟨hfirst, l, r, p', hruns, rfl⟩
  · exact ⟨[], Alongside.course_nil ⟨rfl, rfl, rfl⟩, .unsent rfl rfl hf⟩
  · obtain ⟨log, hconcluded⟩ := concluded_eq table rows r p'
    have hr : (r.map (summaryOf table rows p'.inner.tally)).map Summary.attempts = r := by
      cases r <;> rfl
    rw [hconcluded, hr]
    exact ⟨_, hruns.course hfirst ⟨rfl, rfl, rfl⟩ ⟨rfl, rfl, rfl⟩,
      hruns.concludes hfirst ⟨rfl, rfl, rfl⟩ ⟨rfl, rfl, rfl⟩⟩

/-- Every insert gets where it gets to in steps of a load. -/
theorem insertAll_reaches (hq : (insertAll c s pace options (some table) rows tokens).run p = q) :
    Reaches c table p.inner q.2.inner := by
  rcases insertAll_cases hq with ⟨f, log, tally, -, -, rfl⟩ | ⟨hfirst, l, r, p', hruns, rfl⟩
  · exact Reaches.aside rfl rfl
  · obtain ⟨l, rfl⟩ := hruns.exists_cons
    obtain ⟨hpasses, -⟩ := hruns.passes hfirst options.policy.attempts_pos
    obtain ⟨log, hconcluded⟩ := concluded_eq table rows r p'
    rw [hconcluded]
    have hbegin : Step c table p.inner (uncounted p).inner := .aside _ _ rfl rfl
    have hrun : Reaches c table (uncounted p).inner p'.inner := hpasses.reaches
    exact .head hbegin (hrun.tail (.aside _ _ rfl rfl))

/-- An insert that fails without giving up rows is not told to have ended. -/
theorem insertAll_adds (hq : (insertAll c s pace options (some table) rows tokens).run p = q)
    {f : Failure} (hf : q.1 = .error f) (hsilent : Silent q.1) :
    Event.Adds p.inner.log q.2.inner.log := by
  rcases insertAll_cases hq with ⟨g, log, tally, -, hadds, rfl⟩ | ⟨hfirst, l, r, p', hruns, rfl⟩
  · exact hadds
  · cases r with
    | ok attempts => simp [concluded] at hf
    | error g => exact hruns.adds hfirst options.policy.attempts_pos hsilent.cast

/-! ### What is read off a course -/

variable {ds : List Dispatch} {d : Dispatch} {x : Batch × Nat}

/-- An insert with a last round ends with it. -/
lemma Concludes.of_last {r : Except Failure Nat} (h : Concludes s pace policy table p p' ds r)
    {before : List Dispatch} (hsplit : ds = before ++ [d]) :
    d.Finishes s pace policy table p'.inner (before.length + 1) (p.inner.waits + before.length)
      (p.waits.length + before.length) r p'.waits.length := by
  cases h with
  | unsent hnone _ _ => simp [hnone] at hsplit
  | @finished before' d' _ hsplit' hfinishes =>
      obtain ⟨rfl, hd⟩ := List.append_inj' (hsplit.symm.trans hsplit') rfl
      obtain rfl : d = d' := (List.cons.inj hd).1
      exact hfinishes

namespace Course

/-- The calls of a round are the jobs that were submitted for it. -/
lemma job_eq (h : Course s pace table rows tokens p p' ds) (hd : d ∈ ds) (hx : x ∈ d.calls) :
    p'.inner.pool.jobs[x.2]? = some ⟨table, x.1⟩ := by
  obtain ⟨before, after, rfl⟩ := List.append_of_mem hd
  obtain ⟨hle, hb⟩ := List.mk_mem_zipIdx_iff_le_and_getElem?_sub.1 hx
  have hfirst := h.numbered before d after rfl
  have hbefore : (p.inner.pool.jobs ++ before.flatMap (Dispatch.jobs table)).length = d.first := by
    rw [List.length_append, Pool.length_jobs, hfirst]
  have hlt : x.2 - d.first < (d.jobs table).length := by
    rw [Dispatch.jobs, List.length_map]
    exact (List.getElem?_eq_some_iff.1 hb).1
  rw [h.submitted, List.flatMap_append, List.flatMap_cons, ← List.append_assoc,
    List.getElem?_append_right (by rwa [hbefore]), hbefore, List.getElem?_append_left hlt,
    Dispatch.jobs, List.getElem?_map, hb]
  rfl

/-- A client that ends calls only in some ways has ended the calls of the rounds so. -/
lemma endsAs {P : Job → Ending → Prop} (h : Course s pace table rows tokens p p' ds)
    (hreaches : Reaches c table p.inner p'.inner) (hc : Client.Ends c P) (hd : d ∈ ds)
    (hx : x ∈ d.calls) {e : Ending} (he : p'.inner.pool.outcome? x.2 = some e) : P ⟨table, x.1⟩ e := by
  obtain ⟨before, after, hsplit⟩ := List.append_of_mem hd
  have hle : p.inner.pool.size ≤ x.2 := by
    have hfirst := h.numbered before d after hsplit
    have hnumber := List.le_snd_of_mem_zipIdx hx
    omega
  obtain ⟨job, hcall⟩ := Pool.outcome?_eq_some.1 he
  have hjob := h.job_eq hd hx
  rw [Pool.jobs, List.getElem?_map, hcall] at hjob
  obtain rfl := Option.some.inj hjob
  exact hreaches.endsAs hc (Pool.EndsAs.of_size p.inner.pool) _ _ e hle hcall

end Course

end World

end TableFeed
