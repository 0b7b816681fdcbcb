import TableFeed.Proofs.Insert.Passes
import TableFeed.Proofs.Insert.Ready

/-!
# Runs of an insert

The predicate `Inserts` describes a run of an insert along its stages: every stage is ready and does
its round, each stage follows the one before it, and the run ends as the last stage says.  Whatever
holds of a whole insert is shown by induction on it.

The main results are

* `Runs.inserts`: a run whose reports have integers for indices, or none, is a run of an insert;
* `World.insertAll_inserts`: an insert is such a run, with a summary.
-/

namespace TableFeed

open Position World Retry

variable {σ : Type} {c : Client σ} {s : Schedule} {limits : BatchLimits} {table : TableName}
  {pace : Pace} {policy : Policy} {rows : List Row} {tokens : Option (List Writing)}
  {st st' : Stage (World σ)} {l : List (Stage (World σ))} {r : Except Failure Nat}
  {p : Paced (World σ)}

namespace Retry

lemma Stage.Follows.leaves (h : st.Follows c s limits table pace policy st') :
    st.Leaves c s limits table st' := by
  obtain ⟨seconds, -, hstate⟩ := h.state_eq
  refine ⟨⟨_, by rw [hstate]; rfl⟩, by simp [hstate, waited], h.attempt_eq, ?_⟩
  rw [hstate]
  exact .one (.retryScheduled _ _ _ _) _

lemma Stage.Ends.inner_eq (h : st.Ends c s limits table pace policy r p) :
    ∃ log, p.inner = { st.left c s limits table with log := log } := by
  cases h with
  | accepted _ _ => exact ⟨_, rfl⟩
  | exhausted _ _ _ _ => exact ⟨_, rfl⟩
  | waiting _ _ _ _ _ => exact ⟨_, rfl⟩
  | interrupted _ _ => exact ⟨_, rfl⟩
  | failed _ => exact ⟨_, rfl⟩
  | refused _ _ _ => exact ⟨_, rfl⟩

/-- A run of an insert: every stage is ready and was answered in integers, each follows the one
before it, and the run ends with the last one. -/
inductive Inserts (c : Client σ) (s : Schedule) (limits : BatchLimits) (table : TableName)
    (pace : Pace) (policy : Policy) (rows : List Row) (tokens : Option (List Writing)) :
    List (Stage (World σ)) → Except Failure Nat → Paced (World σ) → Prop where
  /-- The stage is the last one. -/
  | last {st : Stage (World σ)} {r : Except Failure Nat} {p : Paced (World σ)}
      (ready : st.Ready rows tokens) (performs : st.Performs c s limits table)
      (ends : st.Ends c s limits table pace policy r p) :
      Inserts c s limits table pace policy rows tokens [st] r p
  /-- The stage is followed by another one. -/
  | next {st st' : Stage (World σ)} {l : List (Stage (World σ))} {r : Except Failure Nat}
      {p : Paced (World σ)} (ready : st.Ready rows tokens)
      (performs : st.Performs c s limits table)
      (follows : st.Follows c s limits table pace policy st')
      (rest : Inserts c s limits table pace policy rows tokens (st' :: l) r p) :
      Inserts c s limits table pace policy rows tokens (st :: st' :: l) r p

/-- What the rounds of an insert keep, whatever the operator is told. -/
structure Invariant (c : Client σ) (s : Schedule) (limits : BatchLimits) (table : TableName)
    (rows : List Row) (tokens : Option (List Writing)) (I : World σ → Prop) : Prop where
  round : ∀ a : Stage (World σ), a.Ready rows tokens → a.Performs c s limits table →
    I a.state.inner → I (a.left c s limits table)
  log : ∀ w log, I w → I { w with log := log }

lemma Invariant.trivial : Invariant c s limits table rows tokens fun _ => True :=
  ⟨fun _ _ _ _ => .intro, fun _ _ _ => .intro⟩

/-- A run from a ready stage is a run of an insert, and keeps what its rounds keep. -/
lemma Runs.inserts {I : World σ → Prop}
    (h : Runs policy pace table.spec (round c s limits table) st l r p)
    (hsized : Sized rows) (hdefined : policy.Defined)
    (hI : Invariant c s limits table rows tokens I)
    (hplain : ∀ a ∈ l, a.Ready rows tokens → I (a.left c s limits table) →
      a.Plain c s limits table)
    (hst : st.Ready rows tokens) (hbegin : I st.state.inner) (hpos : 0 < st.attempt)
    (hle : st.attempt ≤ policy.attempts) :
    Inserts c s limits table pace policy rows tokens l r p ∧
      ∀ a ∈ l, I (a.left c s limits table) := by
  induction h with
  | @last st _ _ hturn =>
      have hperforms := hst.performs c s limits table hsized
      have hleft := hI.round st hst hperforms hbegin
      have hp := hplain _ (List.mem_singleton_self _) hst hleft
      exact ⟨.last hst hperforms (hst.ends hsized hp hdefined hpos hle hturn), by simpa using hleft⟩
  | @next st st' l r p hturn hrest ih =>
      have hperforms := hst.performs c s limits table hsized
      -- that the reports are plain may depend on what the round keeps, so this comes first
      have hleft := hI.round st hst hperforms hbegin
      have hp := hplain st List.mem_cons_self hst hleft
      obtain ⟨hfollows, hready⟩ := hst.follows hsized hp hle hturn
      obtain ⟨hattempt, hlt⟩ := Stage.attempt_of_goesOn hturn
      obtain ⟨log, hinner⟩ := hfollows.leaves.inner_eq
      have hbegin' : I st'.state.inner := by
        rw [hinner]
        exact hI.log _ log hleft
      obtain ⟨hinserts, hkept⟩ := ih (fun a ha => hplain a (List.mem_cons_of_mem _ ha)) hready
        hbegin' (by omega) (by omega)
      obtain ⟨l', rfl⟩ := hrest.exists_cons
      refine ⟨.next hst hperforms hfollows hinserts, fun a ha => ?_⟩
      rcases List.mem_cons.1 ha with rfl | ha
      · exact hleft
      · exact hkept a ha

namespace Inserts

lemma passes (h : Inserts c s limits table pace policy rows tokens l r p) :
    Passes c s limits table l p := by
  induction h with
  | last _ hperforms hends => exact .last hperforms hends.inner_eq
  | next _ hperforms hfollows _ ih => exact .next hperforms hfollows.leaves ih

lemma ready (h : Inserts c s limits table pace policy rows tokens l r p) :
    ∀ a ∈ l, a.Ready rows tokens ∧ a.Performs c s limits table := by
  induction h with
  | last hready hperforms _ => simp [hready, hperforms]
  | next hready hperforms _ _ ih =>
      intro a ha
      rcases List.mem_cons.1 ha with rfl | ha
      · exact ⟨hready, hperforms⟩
      · exact ih a ha

lemma isChain (h : Inserts c s limits table pace policy rows tokens l r p) :
    l.IsChain fun a b => a.Follows c s limits table pace policy b := by
  induction h with
  | last _ _ _ => exact .singleton _
  | next _ _ hfollows _ ih => exact .cons_cons hfollows ih

lemma exists_last (h : Inserts c s limits table pace policy rows tokens l r p) :
    ∃ last, l.getLast? = some last ∧ last.Ends c s limits table pace policy r p := by
  induction h with
  | last _ _ hends => exact ⟨_, rfl, hends⟩
  | next _ _ _ _ ih =>
      obtain ⟨last, hlast, hends⟩ := ih
      exact ⟨last, by rw [List.getLast?_cons_cons, hlast], hends⟩

/-- No stage goes beyond the attempts that are allowed, if the first one does not. -/
lemma attempt_le (h : Inserts c s limits table pace policy rows tokens (st :: l) r p)
    (hle : st.attempt ≤ policy.attempts) : ∀ a ∈ st :: l, a.attempt ≤ policy.attempts := by
  generalize hl : st :: l = l' at h
  induction h generalizing st l with
  | last _ _ _ =>
      obtain ⟨rfl, -⟩ := List.cons.inj hl
      simpa using hle
  | next _ _ hfollows _ ih =>
      obtain ⟨rfl, -⟩ := List.cons.inj hl
      intro a ha
      rcases List.mem_cons.1 ha with rfl | ha
      · exact hle
      · exact ih (by rw [hfollows.attempt_eq]; exact hfollows.lt) rfl a ha

end Inserts

end Retry

/-! ### The whole insert -/

namespace World

/-- A state in which an insert has not counted anything. -/
def uncounted (p : Paced (World σ)) : Paced (World σ) :=
  { p with inner := { p.inner with tally := {} } }

end World

lemma Retry.Stage.Ready.first (p : Paced (World σ)) (htokens : Matching rows tokens)
    (hopen : p.inner.pool.closed = false) :
    (firstStage rows tokens (uncounted p)).Ready rows tokens :=
  ⟨.first _ htokens, pairwise_range _, hopen⟩

namespace World

/-- A client whose reports have integers for indices, or none. -/
def Client.Plain (c : Client σ) : Prop :=
  Client.Ends c fun _ e => ∀ report, e = .ok (some report) → ∀ x ∈ report, x.Plain

/-- A stage whose calls go to such a client is answered in integers. -/
lemma Client.Plain.stage (hc : Client.Plain c) (hperforms : st.Performs c s limits table) :
    st.Plain c s limits table := by
  rintro ⟨b, x⟩ hx
  obtain ⟨n, report, hcall, houtcome, hmem⟩ := mem_entriesOf.1 hx
  exact hperforms.endsAs hc hcall houtcome report rfl x hmem

/-- What an insert that succeeded in a number of attempts amounts to, by what it has counted. -/
def summaryOf (table : TableName) (rows : List Row) (t : Tally) (attempts : Nat) : Summary :=
  ⟨table, rows.length, attempts, t.batches, t.retried⟩

/-- How an insert ends when its rounds have ended: with a summary, of which the operator is told, or
with their failure. -/
def concluded (table : TableName) (rows : List Row) (r : Except Failure Nat) (p : Paced (World σ)) :
    Except Failure Summary × Paced (World σ) :=
  match r with
  | .ok attempts => (.ok (summaryOf table rows p.inner.tally attempts),
      Logged.note (.insertCompleted table rows.length attempts p.inner.tally.batches) p)
  | .error f => (.error f, p)

lemma concluded_eq (table : TableName) (rows : List Row) (r : Except Failure Nat)
    (p : Paced (World σ)) : ∃ log, concluded table rows r p =
      (r.map (summaryOf table rows p.inner.tally), { p with inner := { p.inner with log := log } }) := by
  cases r with
  | ok attempts => exact ⟨_, rfl⟩
  | error f => exact ⟨_, rfl⟩

/-- An insert of rows with matching tokens is a run of rounds. -/
lemma insertAll_run (c : Client σ) (s : Schedule) (pace : Pace) (options : InsertOptions)
    (table : TableName) (p : Paced (World σ)) (htokens : Matching rows tokens) :
    (insertAll c s pace options (some table) rows tokens).run p =
      concluded table rows
        ((run options.policy pace table.spec (round c s options.limits table) rows tokens).run
          (uncounted p)).1
        ((run options.policy pace table.spec (round c s options.limits table) rows tokens).run
          (uncounted p)).2 := by
  have hrequest : checkRequest (some table) rows tokens = .ok table := by
    unfold checkRequest
    cases tokens with
    | none => rfl
    | some ts => simp [htokens ts rfl]
  have hreset : (Retry.inner (modify fun w : World σ => { w with tally := {} })).run p =
      (.ok (), uncounted p) := rfl
  unfold insertAll
  rw [Action.run_bind_of_ok (by rw [hrequest]; rfl), Action.run_bind_of_ok hreset]
  rcases hrun : (run options.policy pace table.spec (round c s options.limits table) rows
    tokens).run (uncounted p) with ⟨f | attempts, p'⟩
  · rw [Action.run_bind_of_error hrun]
    rfl
  · rw [Action.run_bind_of_ok hrun, Action.run_bind_of_ok (Action.run_get p'),
      Action.run_bind_of_ok (Action.run_note _ p')]
    rfl

/-- An insert of rows that all have a size and whose tokens match is a run of an insert from its first
stage on, provided that all indices are integers or absent.  This may be read off what its rounds
keep. -/
theorem insertAll_inserts {I : World σ → Prop} (c : Client σ) (s : Schedule) (pace : Pace)
    (options : InsertOptions) (table : TableName) (p : Paced (World σ)) (hsized : Sized rows)
    (htokens : Matching rows tokens) (hdefined : options.policy.Defined)
    (hopen : p.inner.pool.closed = false)
    (hI : Invariant c s options.limits table rows tokens I) (hbegin : I (uncounted p).inner)
    (hplain : ∀ a ∈ stages options.policy pace table.spec (round c s options.limits table) rows tokens
      (uncounted p), a.Ready rows tokens → I (a.left c s options.limits table) →
        a.Plain c s options.limits table) :
    ∃ l r p' log,
      stages options.policy pace table.spec (round c s options.limits table) rows tokens
        (uncounted p) = firstStage rows tokens (uncounted p) :: l ∧
      Inserts c s options.limits table pace options.policy rows tokens
        (firstStage rows tokens (uncounted p) :: l) r p' ∧
      (insertAll c s pace options (some table) rows tokens).run p =
        (r.map (summaryOf table rows p'.inner.tally),
          { p' with inner := { p'.inner with log := log } }) ∧ I p'.inner := by
  have hruns := runs_stages options.policy pace table.spec (round c s options.limits table) rows
    tokens (uncounted p)
  have hinsert := insertAll_run c s pace options table p htokens
  generalize (run options.policy pace table.spec (round c s options.limits table) rows
    tokens).run (uncounted p) = rp at hruns hinsert
  obtain ⟨r, p'⟩ := rp
  obtain ⟨log, hconcluded⟩ := concluded_eq table rows r p'
  obtain ⟨hinserts, hkept⟩ := hruns.inserts hsized hdefined hI hplain (.first p htokens hopen) hbegin
    Nat.one_pos options.policy.attempts_pos
  obtain ⟨l, hl⟩ := hruns.exists_cons
  obtain ⟨last, hlast, hends⟩ := hinserts.exists_last
  obtain ⟨log', hinner⟩ := hends.inner_eq
  have hend : I p'.inner := by
    rw [hinner]
    exact hI.log _ log' (hkept last (List.mem_of_getLast? hlast))
  rw [hl] at hinserts
  exact ⟨l, r, p', log, hl, hinserts, hinsert.trans hconcluded, hend⟩

end World

end TableFeed
