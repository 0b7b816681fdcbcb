import TableFeed.Proofs.Insert.Verdicts

/-!
# Rows on which nothing is reported

A report spares the rows of a batch on which it says nothing.  The rows that the reports on the
rounds of an insert spare, and the rows that it gives up, are together the caller's rows, each as
often as the caller has it.

The main results are

* `Outcome.spared_cuts`: the rows that a round spares are those at the positions that are not named;
* `Inserts.perm_spared`: the rows that all rounds spare, with those that are given up, are the rows of
  the first stage.
-/

namespace TableFeed

open Position World

/-- The rows of a batch on which a report says nothing. -/
def Rejection.spared (b : Batch) (report : List Rejection) : List Row :=
  (b.rows.zipIdx.filter fun x => messagesAt report x.2 = []).map Prod.fst

lemma Rejection.spared_subset (b : Batch) (report : List Rejection) : spared b report ⊆ b.rows := by
  intro row hrow
  obtain ⟨x, hx, rfl⟩ := List.mem_map.1 hrow
  exact List.fst_mem_of_mem_zipIdx (List.mem_filter.1 hx).1

/-- The rows that the reports on the batches of a dispatch spare. -/
def Dispatch.spared {σ : Type} (w : World σ) (d : Dispatch) : List Row :=
  d.calls.flatMap fun x => Rejection.spared x.1 (w.reportOf x.2)

/-- What reports spare stays as it is, once every batch was answered. -/
lemma Dispatch.spared_extends {σ : Type} {w w' : World σ} {d : Dispatch} {js : List Job}
    (h : d.Answered w) (hext : w.pool.Extends js w'.pool) : d.spared w' = d.spared w := by
  refine List.flatMap_congr fun x hx => ?_
  obtain ⟨report, hreport⟩ := h x hx
  rw [reportOf, reportOf, hreport, hext.outcome_kept _ _ hreport]

namespace Outcome

open Rejection

variable {σ : Type} {w : World σ} {start : Nat} {rows : List Row}
  {tokens : Option (List Writing)} {batches : List Batch}

/-- The rows that the reports on batches spare are those of which nothing is said. -/
theorem spared_cuts (hcuts : Batch.Cuts start rows tokens batches) (i : Nat)
    (husable : ∀ x ∈ batches.zipIdx i, ∀ e ∈ w.reportOf x.2, e.Usable x.1) :
    (batches.zipIdx i).flatMap (fun x => spared x.1 (w.reportOf x.2)) =
      ((rows.zipIdx start).filter fun x =>
        saidOf (w.entriesOf (batches.zipIdx i)) (Int.ofNat x.2) = []).map Prod.fst := by
  induction hcuts generalizing i with
  | nil => rfl
  | @cons start rest tokens b batches hstart _ _ hrest ih =>
      have hb : ∀ e ∈ w.reportOf i, e.Usable b := husable (b, i) (by simp)
      have husable' : ∀ x ∈ batches.zipIdx (i + 1), ∀ e ∈ w.reportOf x.2, e.Usable x.1 :=
        fun x hx => husable x (by simp [hx])
      rw [List.zipIdx_cons, List.flatMap_cons, ih (i + 1) husable', List.zipIdx_append,
        List.filter_append, List.map_append, ← List.zipIdx_cons]
      congr 1
      · -- the rows of the first batch
        have hshift : b.rows.zipIdx start = b.rows.zipIdx.map fun x => (x.1, start + x.2) :=
          List.zipIdx_eq_map_add
        rw [spared, hshift, List.filter_map, List.map_map]
        refine congrArg (List.map Prod.fst) (List.filter_congr fun x hx => ?_)
        have hlt : x.2 < b.rows.length := by simpa using List.snd_lt_of_mem_zipIdx hx
        rw [Function.comp_apply, saidOf_zipIdx_cons, saidOf_batch hstart hb, if_pos (by omega),
          Nat.add_sub_cancel_left, saidOf_cuts_of_lt hrest (i + 1) husable' (by omega),
          List.append_nil]
      · -- the rows of the others
        congr 1
        refine List.filter_congr fun x hx => ?_
        have hle : start + b.rows.length ≤ x.2 := List.le_snd_of_mem_zipIdx hx
        rw [saidOf_zipIdx_cons, saidOf_batch hstart hb, if_pos (by omega),
          messagesAt_eq_nil hb (by omega), List.nil_append]

end Outcome

/-! ### The rows of an insert -/

/-- An insert that came to its end, with the rows that it has given up. -/
inductive Concluded {α : Type} : Except Failure α → List RejectedRow → Prop where
  /-- It has given up none. -/
  | accepted (a : α) : Concluded (.ok a) []
  /-- It has said which rows it has given up. -/
  | rejected (failures : List RejectedRow) (attempts : Int) :
      Concluded (.error (.rejected failures attempts)) failures

namespace Retry

variable {σ : Type} {c : Client σ} {s : Schedule} {limits : BatchLimits} {table : TableName}
  {pace : Pace} {policy : Policy} {rows : List Row} {tokens : Option (List Writing)}
  {st : Stage (World σ)} {l : List (Stage (World σ))} {r : Except Failure Nat}
  {p : Paced (World σ)} {w : World σ}

namespace Stage

/-- The rows that the round of a stage spares are those at the positions that are not named. -/
lemma Ready.spared_eq (h : st.Ready rows tokens) (hsized : Sized rows)
    (husable : (st.dispatch limits).Usable (st.left c s limits table)) :
    (st.dispatch limits).spared (st.left c s limits table) =
      without st.rows (st.outcome c s limits table).positions := by
  have hspared := Outcome.spared_cuts (h.cuts limits hsized) (st.dispatch limits).first
    fun x hx e he => husable (x.1, e) (List.mem_flatMap.2 ⟨x, hx, List.mem_map.2 ⟨e, he, rfl⟩⟩)
  rw [without, Dispatch.spared, Dispatch.calls, hspared]
  refine congrArg (List.map Prod.fst) (List.filter_congr fun x hx => ?_)
  have hlt : x.2 < st.rows.length := by simpa using List.snd_lt_of_mem_zipIdx hx
  have hmem : Int.ofNat x.2 ∈ (List.range st.rows.length).map Int.ofNat :=
    List.mem_map.2 ⟨x.2, List.mem_range.2 hlt, rfl⟩
  have hiff : Int.ofNat x.2 ∈ (st.outcome c s limits table).positions ↔
      Outcome.saidOf ((st.dispatch limits).entries (st.left c s limits table))
        (Int.ofNat x.2) ≠ [] := by
    rw [outcome, Outcome.positions_naming, Outcome.namedPositions_eq_filter, List.mem_filter,
      decide_eq_true_iff, and_iff_right hmem]
  rw [decide_eq_decide, hiff, not_not]
  rfl

/-- What a stage that was answered spares, and what it leaves, are its rows. -/
lemma Ready.perm_spared (h : st.Ready rows tokens) (hsized : Sized rows)
    (husable : (st.dispatch limits).Usable (st.left c s limits table)) {rest : List Row}
    (hrest : Picks (st.outcome c s limits table).positions st.rows rest) :
    ((st.dispatch limits).spared (st.left c s limits table) ++ rest).Perm st.rows := by
  rw [h.spared_eq hsized husable]
  refine List.perm_append_comm.trans (hrest.perm_without ?_ ?_)
  · rw [outcome, Outcome.positions_naming]
    exact Outcome.pairwise_namedPositions _ _
  · rw [outcome, Outcome.positions_naming]
    exact fun n hn => (Outcome.mem_namedPositions.1 hn).1

/-- The rows of a stage are those that the stage before it left. -/
lemma Follows.picks_rows {st' : Stage (World σ)}
    (h : st.Follows c s limits table pace policy st') (hst : st.Ready rows tokens)
    (hst' : st'.Ready rows tokens) :
    Picks (st.outcome c s limits table).positions st.rows st'.rows := by
  have hpicks := (Outcome.fits_naming st.rows st.tokens
    ((st.dispatch limits).entries (st.left c s limits table))).picks_rows
  have hrows := hst.tracks.rows_picked.trans h.picks hpicks
  rwa [← hst'.tracks.rows_picked.unique hrows] at hpicks

end Stage

namespace Inserts

/-- The rows that the rounds of a concluded insert spare, with those that are given up, are the rows
of its first stage. -/
theorem perm_spared (h : Inserts c s limits table pace policy rows tokens (st :: l) r p)
    (hsized : Sized rows) {failures : List RejectedRow} (hr : Concluded r failures) :
    (((st :: l).flatMap fun a => (a.dispatch limits).spared p.inner) ++
      failures.map RejectedRow.row).Perm st.rows := by
  generalize hl : st :: l = l' at h
  induction h generalizing st l with
  | @last a r p hready _ hends =>
      obtain ⟨rfl, rfl⟩ := List.cons.inj hl
      rw [List.flatMap_singleton]
      cases hends with
      | accepted hreplied hnone =>
          cases hr
          refine hready.perm_spared hsized hreplied.usable ?_
          rw [hnone]
          simp
      | exhausted hreplied hsome hlast hnext =>
          cases hr
          rw [rows_givenUp hnext]
          exact hready.perm_spared hsized hreplied.usable (Outcome.fits_naming _ _ _).picks_rows
      | waiting _ _ _ _ _ => cases hr
      | interrupted _ _ => cases hr
      | failed _ => cases hr
      | refused _ _ hf =>
          cases hr
          rcases hf with ⟨cause, hf⟩ | hf <;> simp at hf
  | @next a a' l r p hready hperforms hfollows hrest ih =>
      obtain ⟨rfl, rfl⟩ := List.cons.inj hl
      obtain ⟨js, hext⟩ := (Inserts.next hready hperforms hfollows hrest).passes.left_extends st (by simp)
      rw [List.flatMap_cons, Dispatch.spared_extends hfollows.replied.answered hext,
        List.append_assoc]
      -- what the later rounds spare and give up are the rows that this one left
      refine ((ih hr rfl).append_left _).trans ?_
      exact hready.perm_spared hsized hfollows.replied.usable (hfollows.picks_rows hready
        (hrest.ready a' (by simp)).1)

end Inserts

end Retry

end TableFeed
