import TableFeed.Proofs.Insert.Stages

/-!
# What the pool shows of a round

A round either settles, which means that its reports amount to an outcome, or it ends the insert.
`Dispatch.Settled` and `Dispatch.Refused` say so of the dispatch of the round and of the outcomes that
the pool holds, so that it can be told at any later time; likewise `Dispatch.Rejects` and
`Dispatch.Unfinished` say it of single rows.

The main results are

* `Stage.Able.settled` and `Stage.Able.refused`: what the reports on the batches of a stage come to;
* `Stage.Able.mem_iff_rejects`: the rows of the next round are those that were rejected;
* `Stage.Able.mem_iff_unfinished`: an interruption names the rows whose calls have not finished.
-/

namespace TableFeed

open Position World

variable {σ : Type} {c : Client σ} {s : Schedule} {limits : BatchLimits} {table : TableName}
  {rows : List Row} {tokens : Option (List Writing)} {w w' : World σ}

namespace Dispatch

/-- A position of the caller that an entry of the reports rejects, whatever indices there are. -/
def Rejects (w : World σ) (d : Dispatch) (n : Int) : Prop :=
  ∃ x ∈ d.entries w, ∃ m, x.2.Names x.1 m ∧ item? d.origin m = some n

/-- A call that carries a position of the caller. -/
def Carries (d : Dispatch) (x : Batch × Nat) (n : Int) : Prop :=
  x ∈ d.calls ∧ ∃ m ∈ x.1.positions, item? d.origin m = some n

/-- A position of the caller whose call has not finished: the pool holds no outcome for it. -/
def Unfinished (w : World σ) (d : Dispatch) (n : Int) : Prop :=
  ∃ x, d.Carries x n ∧ w.pool.outcome? x.2 = none

/-- Every batch was answered by a report, and nothing in the reports ends the insert. -/
structure Settled (w : World σ) (d : Dispatch) : Prop where
  answered : d.Answered w
  usable : (∀ x ∈ d.entries w, x.2.Plain) → d.Usable w

/-- The first entry that names no row of its batch, in the order of the batches and then of their
reports, with the entries before it. -/
def FirstUnusable (w : World σ) (d : Dispatch) (before : List (Batch × Rejection))
    (x : Batch × Rejection) : Prop :=
  ∃ after, d.entries w = before ++ x :: after ∧ (∀ y ∈ before, y.2.Usable y.1) ∧ ¬ x.2.Usable x.1

lemma FirstUnusable.not_usable {d : Dispatch} {before : List (Batch × Rejection)}
    {x : Batch × Rejection} (h : d.FirstUnusable w before x) : ¬ d.Usable w := by
  obtain ⟨after, hsplit, -, hx⟩ := h
  exact fun husable => hx (husable x (by simp [hsplit]))

lemma FirstUnusable.mem {d : Dispatch} {before : List (Batch × Rejection)} {x : Batch × Rejection}
    (h : d.FirstUnusable w before x) : x ∈ d.entries w := by
  obtain ⟨after, hsplit, -, -⟩ := h
  simp [hsplit]

/-- Every batch was answered by a report, and the insert ends with a failure that is found in the
reports.  If all indices are integers or absent, it is the first entry that names no row of its
batch. -/
structure Refused (w : World σ) (d : Dispatch) (f : Failure) : Prop where
  answered : d.Answered w
  isUnusable : Outcome.IsUnusable f
  first : (∀ x ∈ d.entries w, x.2.Plain) → ∃ before x, d.FirstUnusable w before x ∧
    f = Outcome.refusal x.1 (before.map Prod.snd).reverse x.2

/-- What is reported on batches that were all answered stays as it is. -/
lemma entries_eq {d : Dispatch} {js : List Job} (h : d.Answered w)
    (hext : w.pool.Extends js w'.pool) : d.entries w' = d.entries w :=
  entriesOf_eq h hext

lemma Rejects.mem_origin {d : Dispatch} {n : Int} (h : d.Rejects w n) : n ∈ d.origin := by
  obtain ⟨x, hx, m, hm, hn⟩ := h
  exact mem_of_item? hn

lemma Carries.mem_origin {d : Dispatch} {x : Batch × Nat} {n : Int} (h : d.Carries x n) :
    n ∈ d.origin := by
  obtain ⟨-, m, -, hn⟩ := h
  exact mem_of_item? hn

lemma rejects_iff {d : Dispatch} {js : List Job} (h : d.Answered w) (hext : w.pool.Extends js w'.pool)
    (n : Int) : d.Rejects w' n ↔ d.Rejects w n := by
  rw [Rejects, Rejects, d.entries_eq h hext]

lemma Settled.extends {d : Dispatch} {js : List Job} (h : d.Settled w)
    (hext : w.pool.Extends js w'.pool) : d.Settled w' where
  answered := h.answered.extends hext
  usable := by
    rw [Usable, d.entries_eq h.answered hext]
    exact h.usable

lemma Refused.extends {d : Dispatch} {js : List Job} {f : Failure} (h : d.Refused w f)
    (hext : w.pool.Extends js w'.pool) : d.Refused w' f where
  answered := h.answered.extends hext
  isUnusable := h.isUnusable
  first := by
    simp only [FirstUnusable, d.entries_eq h.answered hext]
    exact h.first

end Dispatch

/-! ### What an able stage shows -/

namespace Retry.Stage

variable {st : Stage (World σ)} {o : Outcome}

/-- The positions of the calls that have not finished are positions of the batches, in order. -/
lemma sublist_outstanding (w : World σ) (d : Dispatch) :
    (w.outstanding d.calls).Sublist (d.batches.flatMap Batch.positions) := by
  rw [outstanding, ← d.fst_calls, List.flatMap_map]
  exact List.filter_sublist.flatMap _

namespace Able

/-- The rows that go into the next round are those that entries of the reports reject. -/
lemma mem_iff_rejects (h : st.Able rows tokens) (hreplies : st.Replies c s limits table o)
    {next : List Int} (hnext : Picks o.positions st.origin next) (n : Int) :
    n ∈ next ↔ (st.dispatch limits).Rejects (st.left c s limits table) n := by
  obtain ⟨-, -, hnames⟩ := h.of_replies hreplies
  rw [hnext.mem_iff]
  constructor
  · rintro ⟨m, hm, hn⟩
    obtain ⟨x, hx, hname⟩ := (hnames m).1 hm
    exact ⟨x, hx, m, hname, hn⟩
  · rintro ⟨x, hx, m, hname, hn⟩
    exact ⟨m, (hnames m).2 ⟨x, hx, hname⟩, hn⟩

/-- The positions that an interruption names are those whose calls have not finished. -/
lemma mem_iff_unfinished {outstanding : List Int}
    (hcalls : ∀ x ∈ (st.dispatch limits).calls, x.2 < w.pool.size)
    (hpicks : Picks (w.outstanding (st.dispatch limits).calls) st.origin outstanding) (n : Int) :
    n ∈ outstanding ↔ (st.dispatch limits).Unfinished w n := by
  have hopen : ∀ x ∈ (st.dispatch limits).calls, w.isOpen x.2 = true ↔ w.pool.outcome? x.2 = none :=
    fun x hx => by rw [isOpen_eq (hcalls x hx), Option.isNone_iff_eq_none]
  rw [hpicks.mem_iff]
  simp only [World.outstanding, List.mem_flatMap, List.mem_filter]
  constructor
  · rintro ⟨m, ⟨x, ⟨hx, hx'⟩, hm⟩, hn⟩
    exact ⟨x, ⟨hx, m, hm, hn⟩, (hopen x hx).1 hx'⟩
  · rintro ⟨x, ⟨hx, m, hm, hn⟩, hx'⟩
    exact ⟨m, ⟨x, ⟨hx, (hopen x hx).2 hx'⟩, hm⟩, hn⟩

/-- These positions ascend. -/
lemma pairwise_outstanding (h : st.Able rows tokens) {outstanding : List Int}
    (hpicks : Picks (w.outstanding (st.dispatch limits).calls) st.origin outstanding) :
    outstanding.Pairwise (· < ·) := by
  refine hpicks.pairwise_lt ?_ h.ascending fun n hn => ?_
  · refine List.Pairwise.sublist (sublist_outstanding w (st.dispatch limits)) ?_
    rw [(h.cuts limits).positions_eq, ← List.range_eq_range']
    exact pairwise_range _
  · rw [← h.tracks.length_rows]
    exact h.within_outstanding w n hn

/-- A round that was answered with an outcome has settled. -/
lemma settled (hreplies : st.Replies c s limits table o) :
    (st.dispatch limits).Settled (st.left c s limits table) where
  answered := hreplies.answered
  usable hplain := by
    by_contra hunusable
    obtain ⟨before, x, after, hsplit, hbefore, hx⟩ := Outcome.exists_first_unusable hunusable
    have hplain' := hplain x (by simp [hsplit])
    rw [← Dispatch.paired_reports] at hsplit
    have herror : Outcome.ofReports st.rows st.tokens _ _ = _ :=
      Outcome.ofReports_of_unusable hsplit hbefore hplain' hx
    exact absurd (herror.symm.trans hreplies.outcome_eq) (by simp)

/-- A round whose reports amount to no outcome is refused. -/
lemma refused (h : st.Able rows tokens) {f : Failure}
    (hanswered : (st.dispatch limits).Answered (st.left c s limits table))
    (hf : Outcome.ofReports st.rows st.tokens (st.dispatch limits).batches
      ((st.dispatch limits).reports (st.left c s limits table)) = .error f) :
    (st.dispatch limits).Refused (st.left c s limits table) f where
  answered := hanswered
  isUnusable := Outcome.isUnusable_of_ofReports hf
  first hplain := by
    have hunusable : ¬ (st.dispatch limits).Usable (st.left c s limits table) := by
      intro husable
      rw [h.ofReports_eq_naming husable] at hf
      simp at hf
    obtain ⟨before, x, after, hsplit, hbefore, hx⟩ := Outcome.exists_first_unusable hunusable
    have hplain' := hplain x (by simp [hsplit])
    refine ⟨before, x, ⟨after, hsplit, hbefore, hx⟩, ?_⟩
    rw [← Dispatch.paired_reports] at hsplit
    rw [Outcome.ofReports_of_unusable hsplit hbefore hplain' hx] at hf
    exact (Except.error.inj hf).symm

end Able

end Retry.Stage

end TableFeed
