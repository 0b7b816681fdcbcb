import TableFeed.Proofs.Insert.Stages

/-!
# What lies along the stages of an insert

A run of an insert does the rounds of its stages one after the other.  Between two rounds nothing
changes but what the operator is told, and one wait is begun.  The predicate `Passes` says no more
than that; what happens to the remote store and to the pool on the way is read off it, whatever else
is known of the run.

The main results are

* `Runs.passes`: a run from an able stage passes through stages that are all able;
* `Passes.reaches` and `Passes.pool`: it takes steps of a load, and adds the jobs of its rounds to
  the pool, one round after the other;
* `Passes.waits_eq`: it waits once for each round;
* `Passes.left_extends`: what a round left in the pool is still there at the end;
* `Passes.at_split`: what lies before a stage;
* `Runs.adds`: a run that fails tells of nothing but what is told on the way, unless it gives up rows.
-/

namespace TableFeed.Retry

open World

variable {σ : Type} {c : Client σ} {s : Schedule} {limits : BatchLimits} {table : TableName}
  {pace : Pace} {policy : Policy} {rows : List Row} {tokens : Option (List Writing)}
  {st st' : Stage (World σ)} {l : List (Stage (World σ))} {r : Except Failure Nat}
  {p : Paced (World σ)}

/-- A stage that begins where the round of another one has left the store and the pool. -/
structure Stage.Leaves (c : Client σ) (s : Schedule) (limits : BatchLimits) (table : TableName)
    (st st' : Stage (World σ)) : Prop where
  inner_eq : ∃ log, st'.state.inner = { st.left c s limits table with log := log }
  length_waits : st'.state.waits.length = st.state.waits.length + 1
  attempt_eq : st'.attempt = st.attempt + 1
  adds : Event.Adds (st.left c s limits table).log st'.state.inner.log

/-- A run along its stages, each of which does its round. -/
inductive Passes (c : Client σ) (s : Schedule) (limits : BatchLimits) (table : TableName) :
    List (Stage (World σ)) → Paced (World σ) → Prop where
  /-- The stage is the last one. -/
  | last {st : Stage (World σ)} {p : Paced (World σ)} (performs : st.Performs c s limits table)
      (inner_eq : ∃ log, p.inner = { st.left c s limits table with log := log }) :
      Passes c s limits table [st] p
  /-- The stage is followed by another one. -/
  | next {st st' : Stage (World σ)} {l : List (Stage (World σ))} {p : Paced (World σ)}
      (performs : st.Performs c s limits table) (leaves : st.Leaves c s limits table st')
      (rest : Passes c s limits table (st' :: l) p) : Passes c s limits table (st :: st' :: l) p

namespace Passes

/-- The remote store and the pool get from the first stage to the end in steps of the load. -/
lemma reaches (h : Passes c s limits table (st :: l) p) : Reaches c table st.state.inner p.inner := by
  generalize hl : st :: l = l' at h
  induction h generalizing st l with
  | last hperforms hinner =>
      obtain ⟨rfl, -⟩ := List.cons.inj hl
      obtain ⟨log, hinner⟩ := hinner
      exact hperforms.reaches.trans (Reaches.aside (by rw [hinner]) (by rw [hinner]))
  | next hperforms hleaves _ ih =>
      obtain ⟨rfl, -⟩ := List.cons.inj hl
      obtain ⟨log, hinner⟩ := hleaves.inner_eq
      exact (hperforms.reaches.trans (Reaches.aside (by rw [hinner]) (by rw [hinner]))).trans
        (ih rfl)

/-- The rounds add their jobs to the pool, one round after the other. -/
lemma pool (h : Passes c s limits table (st :: l) p) :
    st.state.inner.pool.Extends ((st :: l).flatMap fun a => (a.dispatch limits).jobs table)
      p.inner.pool := by
  generalize hl : st :: l = l' at h
  induction h generalizing st l with
  | last hperforms hinner =>
      obtain ⟨rfl, rfl⟩ := List.cons.inj hl
      obtain ⟨log, hinner⟩ := hinner
      rw [hinner]
      simpa using hperforms.pool
  | next hperforms hleaves _ ih =>
      obtain ⟨rfl, rfl⟩ := List.cons.inj hl
      obtain ⟨log, hinner⟩ := hleaves.inner_eq
      have hrest := ih rfl
      rw [hinner] at hrest
      exact hperforms.pool.trans hrest

/-- What a round leaves in the pool is still there at the end. -/
lemma left_extends (h : Passes c s limits table l p) :
    ∀ a ∈ l, ∃ js, (a.left c s limits table).pool.Extends js p.inner.pool := by
  induction h with
  | last _ hinner =>
      obtain ⟨log, hinner⟩ := hinner
      intro a ha
      obtain rfl := List.mem_singleton.1 ha
      exact ⟨[], by rw [hinner]; exact .refl _⟩
  | next _ hleaves hrest ih =>
      obtain ⟨log, hinner⟩ := hleaves.inner_eq
      intro a ha
      rcases List.mem_cons.1 ha with rfl | ha
      · have hpool := hrest.pool
        rw [hinner] at hpool
        exact ⟨_, hpool⟩
      · exact ih a ha

/-- Before a stage lie the jobs of the rounds before it, a wait for each of them and a wait after
each of them. -/
lemma at_split {before after : List (Stage (World σ))} {a : Stage (World σ)}
    (h : Passes c s limits table (st :: l) p) (hl : st :: l = before ++ a :: after) :
    st.state.inner.pool.Extends (before.flatMap fun b => (b.dispatch limits).jobs table)
        a.state.inner.pool ∧
      a.state.inner.waits = st.state.inner.waits + before.length ∧
      a.state.waits.length = st.state.waits.length + before.length ∧
      a.attempt = st.attempt + before.length := by
  generalize hl' : st :: l = l' at h
  induction h generalizing st l before with
  | last _ _ =>
      obtain ⟨rfl, rfl⟩ := List.cons.inj hl'
      obtain ⟨rfl, rfl, -⟩ : before = [] ∧ st = a ∧ [] = after := by
        cases before <;> simp_all
      exact ⟨.refl _, rfl, rfl, rfl⟩
  | @next b b' l' p hperforms hleaves _ ih =>
      obtain ⟨rfl, rfl⟩ := List.cons.inj hl'
      cases before with
      | nil =>
          obtain ⟨rfl, -⟩ := List.cons.inj hl
          exact ⟨.refl _, rfl, rfl, rfl⟩
      | cons b before =>
          obtain ⟨rfl, hrest⟩ := List.cons.inj hl
          obtain ⟨hpool, hwaits, hsleeps, hattempt⟩ := ih hrest rfl
          obtain ⟨log, hinner⟩ := hleaves.inner_eq
          rw [hinner] at hpool hwaits
          -- the round of the first stage adds its jobs, its wait and the wait that follows it
          refine ⟨hperforms.pool.trans hpool, ?_, ?_, ?_⟩
          · rw [hwaits, List.length_cons, hperforms.waits_eq]
            omega
          · rw [hsleeps, hleaves.length_waits, List.length_cons]
            omega
          · rw [hattempt, hleaves.attempt_eq, List.length_cons]
            omega

/-- There is a wait for the calls of each round. -/
lemma waits_eq (h : Passes c s limits table (st :: l) p) :
    p.inner.waits = st.state.inner.waits + (st :: l).length := by
  generalize hl : st :: l = l' at h
  induction h generalizing st l with
  | last hperforms hinner =>
      obtain ⟨rfl, -⟩ := List.cons.inj hl
      obtain ⟨log, hinner⟩ := hinner
      rw [hinner]
      exact hperforms.waits_eq
  | next hperforms hleaves _ ih =>
      obtain ⟨rfl, -⟩ := List.cons.inj hl
      obtain ⟨log, hinner⟩ := hleaves.inner_eq
      rw [ih rfl, hinner, hperforms.waits_eq]
      simp only [List.length_cons]
      omega

/-- Until a round is over, nothing is told but what is told on the way. -/
lemma adds (h : Passes c s limits table (st :: l) p) :
    ∀ a ∈ st :: l, Event.Adds st.state.inner.log (a.left c s limits table).log := by
  generalize hl : st :: l = l' at h
  induction h generalizing st l with
  | last hperforms _ =>
      obtain ⟨rfl, -⟩ := List.cons.inj hl
      simpa using hperforms.adds
  | next hperforms hleaves _ ih =>
      obtain ⟨rfl, -⟩ := List.cons.inj hl
      intro a ha
      rcases List.mem_cons.1 ha with rfl | ha
      · exact hperforms.adds
      · exact (hperforms.adds.trans hleaves.adds).trans (ih rfl a ha)

/-- A round is numbered in the pool after the jobs of the rounds before it. -/
lemma first_eq {before after : List (Stage (World σ))} {a : Stage (World σ)}
    (h : Passes c s limits table (st :: l) p) (hl : st :: l = before ++ a :: after) :
    (a.dispatch limits).first = st.state.inner.pool.size +
      ((before.map (Stage.dispatch limits)).flatMap (Dispatch.jobs table)).length := by
  obtain ⟨hpool, -⟩ := h.at_split hl
  rw [Stage.dispatch, hpool.size_eq, List.flatMap_map]

end Passes

/-! ### Runs pass -/

namespace Stage.Moves

lemma leaves (h : st.Moves c s limits table pace policy (.goesOn st')) :
    st.Leaves c s limits table st' := by
  cases h with
  | goesOn _ _ _ _ _ _ => exact ⟨⟨_, rfl⟩, by simp [waited], rfl, .one (.retryScheduled _ _ _ _) _⟩

lemma inner_eq (h : st.Moves c s limits table pace policy (.ends r p)) :
    ∃ log, p.inner = { st.left c s limits table with log := log } := by
  cases h with
  | accepted _ _ => exact ⟨_, rfl⟩
  | exhausted _ _ _ _ => exact ⟨_, rfl⟩
  | overflow _ _ _ _ => exact ⟨_, rfl⟩
  | waiting _ _ _ _ _ _ => exact ⟨_, rfl⟩
  | interrupted _ _ => exact ⟨_, rfl⟩
  | failed _ _ => exact ⟨_, rfl⟩
  | refused _ _ _ => exact ⟨_, rfl⟩

/-- A run that fails is not told to have ended, unless it gives up rows. -/
lemma adds {f : Failure} (h : st.Moves c s limits table pace policy (.ends (.error f) p))
    (hf : Silent (.error f : Except Failure Nat)) :
    Event.Adds (st.left c s limits table).log p.inner.log := by
  cases h with
  | exhausted _ _ _ _ => exact absurd rfl (hf _ _)
  | overflow _ _ _ _ => exact .refl _
  | waiting _ _ _ _ _ _ => exact .one (.retryScheduled _ _ _ _) _
  | interrupted _ _ => exact .refl _
  | failed _ _ => exact .refl _
  | refused _ _ _ => exact .refl _

end Stage.Moves

/-- A run from an able stage passes through stages that are all able. -/
theorem Runs.passes (h : Runs policy pace table.spec (round c s limits table) st l r p)
    (hst : st.Able rows tokens) (hle : st.attempt ≤ policy.attempts) :
    Passes c s limits table l p ∧
      ∀ a ∈ l, a.Able rows tokens ∧ a.attempt ≤ policy.attempts := by
  induction h with
  | @last st _ _ hturn =>
      have hmoves : st.Moves c s limits table pace policy _ := hst.moves hle
      rw [hturn] at hmoves
      exact ⟨.last (hst.performs c s limits table) hmoves.inner_eq, by simpa using ⟨hst, hle⟩⟩
  | @next st st' l r p hturn hrest ih =>
      have hmoves : st.Moves c s limits table pace policy _ := hst.moves hle
      rw [hturn] at hmoves
      obtain ⟨hattempt, hlt⟩ := Stage.attempt_of_goesOn hturn
      obtain ⟨hpasses, hall⟩ := ih (hst.of_goesOn hle hturn) (by omega)
      obtain ⟨l', rfl⟩ := hrest.exists_cons
      refine ⟨.next (hst.performs c s limits table) hmoves.leaves hpasses, fun a ha => ?_⟩
      rcases List.mem_cons.1 ha with rfl | ha
      · exact ⟨hst, hle⟩
      · exact hall a ha

/-- A run that fails without giving up rows is not told to have ended. -/
lemma Runs.adds {f : Failure}
    (h : Runs policy pace table.spec (round c s limits table) st l (.error f) p)
    (hst : st.Able rows tokens) (hle : st.attempt ≤ policy.attempts)
    (hf : Silent (.error f : Except Failure Nat)) : Event.Adds st.state.inner.log p.inner.log := by
  obtain ⟨hpasses, hable⟩ := h.passes hst hle
  obtain ⟨last, hlast, hends⟩ := h.exists_last
  obtain ⟨l', rfl⟩ := h.exists_cons
  have hmem := List.mem_of_getLast? hlast
  have hmoves : last.Moves c s limits table pace policy _ := (hable last hmem).1.moves (hable last hmem).2
  rw [hends] at hmoves
  exact (hpasses.adds last hmem).trans (hmoves.adds hf)

end TableFeed.Retry
