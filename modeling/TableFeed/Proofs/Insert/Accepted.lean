import TableFeed.Proofs.Insert.Interrupted

/-!
# Which rows an interrupted insert has delivered

A caller who resubmits the rows that an interruption names wants to know of the others that they are
in.  They are if the insert was interrupted in its sleep.  If it was interrupted in the wait for the
calls of a round, then a call of that round may have finished and its report may reject rows, or the
call may have failed; nobody has looked into this yet, and these rows are not named.

The main result is `World.insertAll_accounts`: every row is named, or accepted, or was withheld so.
-/

namespace TableFeed

open Position World

variable {σ : Type} {s : Schedule} {pace : Pace} {policy : Policy} {table : TableName}
  {rows : List Row} {tokens : Option (List Writing)} {p p' : Paced (World σ)} {w : World σ}
  {ds before after : List Dispatch} {d : Dispatch} {r : Except Failure Nat} {x : Batch × Nat}
  {n : Int}

namespace Dispatch

/-- A report on a call rejects a position of the caller. -/
def RejectedBy (d : Dispatch) (x : Batch × Nat) (report : Option (List Rejection)) (n : Int) : Prop :=
  ∃ e ∈ report.getD [], ∃ m, e.Names x.1 m ∧ item? d.origin m = some n

/-- The call that carries a position has finished with a report that does not reject it. -/
def Accepts (w : World σ) (d : Dispatch) (n : Int) : Prop :=
  ∃ x report, d.Carries x n ∧ w.pool.outcome? x.2 = some (.ok report) ∧ ¬ d.RejectedBy x report n

/-- The call that carries a position has finished, but it has failed or its report rejects the
position. -/
def Withholds (w : World σ) (d : Dispatch) (n : Int) : Prop :=
  ∃ x, d.Carries x n ∧ ((∃ f, w.pool.outcome? x.2 = some (.error f)) ∨
    ∃ report, w.pool.outcome? x.2 = some (.ok report) ∧ d.RejectedBy x report n)

/-- Every row that a round sends is carried by one of its calls. -/
lemma Sends.exists_carries (h : d.Sends rows tokens) (hn : n ∈ d.origin) : ∃ x, d.Carries x n := by
  obtain ⟨i, hi, rfl⟩ := List.mem_iff_getElem.1 hn
  have hmem : Int.ofNat i ∈ d.batches.flatMap Batch.positions := by
    rw [h.positions_eq]
    exact List.mem_map.2 ⟨i, List.mem_range.2 hi, rfl⟩
  obtain ⟨b, hb, hposition⟩ := List.mem_flatMap.1 hmem
  rw [← d.fst_calls] at hb
  obtain ⟨x, hx, rfl⟩ := List.mem_map.1 hb
  exact ⟨x, hx, Int.ofNat i, hposition, by simp [item?, List.getElem?_eq_getElem hi]⟩

/-- A call of a round whose report rejects a position makes the round reject it. -/
lemma RejectedBy.rejects {report : Option (List Rejection)} (h : d.RejectedBy x report n)
    (hx : x ∈ d.calls) (hreport : w.pool.outcome? x.2 = some (.ok report)) : d.Rejects w n := by
  obtain ⟨e, he, m, hm, hn⟩ := h
  cases report with
  | none => simp at he
  | some report => exact ⟨(x.1, e), mem_entriesOf.2 ⟨x.2, report, hx, hreport, he⟩, m, hm, hn⟩

/-- A round that was answered accepts what it does not reject. -/
lemma Sends.accepts (h : d.Sends rows tokens) (hanswered : d.Answered w) (hn : n ∈ d.origin)
    (hnot : ¬ d.Rejects w n) : d.Accepts w n := by
  obtain ⟨x, hx⟩ := h.exists_carries hn
  obtain ⟨report, hreport⟩ := hanswered x hx.1
  exact ⟨x, report, hx, hreport, fun hrejected => hnot (hrejected.rejects hx.1 hreport)⟩

/-- The call that carries a position has not finished, or the position is accepted or withheld. -/
lemma Sends.cases (h : d.Sends rows tokens) (hn : n ∈ d.origin) :
    d.Unfinished w n ∨ d.Accepts w n ∨ d.Withholds w n := by
  obtain ⟨x, hx⟩ := h.exists_carries hn
  rcases hout : w.pool.outcome? x.2 with _ | ⟨f | report⟩
  · exact .inl ⟨x, hx, hout⟩
  · exact .inr (.inr ⟨x, hx, .inl ⟨f, hout⟩⟩)
  · by_cases hrejected : d.RejectedBy x report n
    · exact .inr (.inr ⟨x, hx, .inr ⟨report, hout, hrejected⟩⟩)
    · exact .inr (.inl ⟨x, report, hx, hout, hrejected⟩)

/-- An insert that was interrupted in its sleep has accepted the other rows of the last round.  One
that was interrupted in a wait has accepted or withheld them. -/
lemma Finishes.accounts {attempt wait sleep sleeps : Nat} {during : Interruption}
    {outstanding : List Int} (h : d.Finishes s pace policy table w attempt wait sleep
      (.error (.interrupted during outstanding)) sleeps) (hsends : d.Sends rows tokens)
    (hn : n ∈ d.origin) (hnot : n ∉ outstanding) :
    d.Accepts w n ∨ during = .inserting table.spec ∧ d.Withholds w n := by
  rcases h.of_interrupted with hwait | ⟨hbegun, -⟩
  · obtain ⟨-, outstanding', hr, -, houtstanding⟩ := h.of_wait hwait
    obtain ⟨rfl, rfl⟩ := Failure.interrupted.inj (Except.error.inj hr)
    rcases hsends.cases hn with hunfinished | haccepts | hwithholds
    · exact absurd ((houtstanding n).2 hunfinished) hnot
    · exact .inl haccepts
    · exact .inr ⟨rfl, hwithholds⟩
  · obtain ⟨-, hsettled, outstanding', hr, -, houtstanding⟩ := h.of_sleep hbegun
    obtain ⟨-, rfl⟩ := Failure.interrupted.inj (Except.error.inj hr)
    refine .inl (hsends.accepts hsettled.answered hn fun hrejects => ?_)
    exact hnot ((houtstanding n).2 hrejects)

end Dispatch

namespace World

/-- A position was accepted: the last round that sends it has accepted it. -/
def Accepted (w : World σ) (ds : List Dispatch) (n : Int) : Prop :=
  ∃ before d after, ds = before ++ d :: after ∧ d.Accepts w n ∧ ∀ e ∈ after, n ∉ e.origin

/-- There is a last round that sends a position, if there is one at all. -/
lemma exists_last_sender (h : ∃ d ∈ ds, n ∈ d.origin) :
    ∃ before d after, ds = before ++ d :: after ∧ n ∈ d.origin ∧ ∀ e ∈ after, n ∉ e.origin := by
  induction ds with
  | nil => simp at h
  | cons d ds ih =>
      by_cases hrest : ∃ e ∈ ds, n ∈ e.origin
      · obtain ⟨before, e, after, rfl, he, hafter⟩ := ih hrest
        exact ⟨d :: before, e, after, rfl, he, hafter⟩
      · obtain ⟨e, he, hn⟩ := h
        rcases List.mem_cons.1 he with rfl | he
        · exact ⟨[], e, ds, rfl, hn, fun e' he' hn' => hrest ⟨e', he', hn'⟩⟩
        · exact absurd ⟨e, he, hn⟩ hrest

namespace Course

/-- A round that is followed by one that does not send a position has accepted it. -/
lemma accepts (h : Course s pace table rows tokens p p' ds) {d' : Dispatch}
    (hsplit : ds = before ++ d :: d' :: after) (hn : n ∈ d.origin) (hnot : n ∉ d'.origin) :
    d.Accepts p'.inner n := by
  have hnext := h.next
  rw [hsplit, List.isChain_append_cons_cons] at hnext
  obtain ⟨hsettled, horigin⟩ := hnext.2.1
  exact (h.sends d (by simp [hsplit])).accepts hsettled.answered hn fun hrejects =>
    hnot ((horigin n).2 hrejects)

/-- All rows are sent in the first round. -/
lemma exists_sender (h : Course s pace table rows tokens p p' ds) (hds : ds ≠ [])
    (hn : Within rows.length n) : ∃ d ∈ ds, n ∈ d.origin := by
  obtain ⟨d, ds, rfl⟩ := List.exists_cons_of_ne_nil hds
  obtain ⟨m, hm, rfl⟩ := hn
  refine ⟨d, by simp, ?_⟩
  rw [h.first d rfl]
  exact List.mem_map.2 ⟨m, List.mem_range.2 hm, rfl⟩

end Course

/-- What becomes of the rows of an insert that is interrupted.  Every row is outstanding, or it was
accepted by the last round that sent it.  Only if it was a wait for calls that was interrupted, a row
may be neither: its call has finished in that round, but has failed or rejects the row. -/
theorem insertAll_accounts (c : Client σ) (s : Schedule) (pace : Pace) (options : InsertOptions)
    (table : TableName) (rows : List Row) (tokens : Option (List Writing)) (p : Paced (World σ)) :
    let q := (insertAll c s pace options (some table) rows tokens).run p
    ∃ ds, Course s pace table rows tokens p q.2 ds ∧
      ∀ during outstanding, q.1 = .error (.interrupted during outstanding) →
        ∀ n, Within rows.length n → n ∉ outstanding →
          Accepted q.2.inner ds n ∨
            during = .inserting table.spec ∧ ∃ d, ds.getLast? = some d ∧ d.Withholds q.2.inner n := by
  intro q
  obtain ⟨ds, hcourse, hconcludes⟩ := insertAll_courses (Eq.refl q)
  refine ⟨ds, hcourse, fun during outstanding hq n hn hnot => ?_⟩
  rw [hq] at hconcludes
  obtain ⟨before, d, hsplit, hinterrupt⟩ := hconcludes.of_interrupted
  obtain ⟨before', e, after, hsplit', he, hafter⟩ :=
    exists_last_sender (hcourse.exists_sender (by simp [hsplit]) hn)
  cases after with
  | cons e' after =>
      exact .inl ⟨before', e, e' :: after, hsplit',
        hcourse.accepts hsplit' he (hafter e' (by simp)), hafter⟩
  | nil =>
      -- the row was sent in the last round, so the interruption says what became of it
      obtain ⟨rfl, hd⟩ := List.append_inj' (hsplit.symm.trans hsplit') rfl
      obtain rfl : d = e := (List.cons.inj hd).1
      have hmem : d ∈ ds := by simp [hsplit]
      obtain ⟨-, hfinishes⟩ :=
        hconcludes.of_interrupts hcourse hsplit (hinterrupt.imp_right And.right)
      rcases hfinishes.accounts (hcourse.sends d hmem) he hnot with
        haccepts | ⟨hduring, hwithholds⟩
      · exact .inl ⟨before, d, [], hsplit, haccepts, by simp⟩
      · exact .inr ⟨hduring, d, by simp [hsplit], hwithholds⟩

/-- Of two rows that go into two batches, the first one is rejected by a call that has finished when
the wait for the second one is interrupted.  It was not accepted, and it is not named. -/
theorem insertAll_withholds :
    let row : Row := .mapping []
    let c := Client.answering fun _ => [⟨.int 0, "bad", .null⟩]
    let s : Schedule := { idle with
      onSubmit := fun n _ => if n = 0 then [0] else []
      interrupts := fun _ => true }
    let pace : Pace := ⟨fun _ => 0.5, fun _ => false⟩
    let q := (insertAll c s pace ⟨⟨1, 1⟩, .steep⟩ (some ⟨"p", "d", "t"⟩) [row, row] none).run (fresh ())
    q.1 = .error (.interrupted (.inserting "p:d.t") [1]) ∧
      (∃ ds, Course s pace ⟨"p", "d", "t"⟩ [row, row] none (fresh ()) q.2 ds) ∧
      ∀ ds, Course s pace ⟨"p", "d", "t"⟩ [row, row] none (fresh ()) q.2 ds →
        ¬ Accepted q.2.inner ds 0 := by
  intro row c s pace q
  have hresult : q.1 = .error (.interrupted (.inserting "p:d.t") [1]) := by
    unfold q insertAll Retry.run Retry.rounds
    rfl
  have hcalls : q.2.inner.pool.calls = [⟨⟨⟨"p", "d", "t"⟩, ⟨0, [row], none, 2⟩⟩,
      some (.ok (some [⟨.int 0, "bad", .null⟩]))⟩, ⟨⟨⟨"p", "d", "t"⟩, ⟨1, [row], none, 2⟩⟩, none⟩] := by
    unfold q insertAll Retry.run Retry.rounds
    rfl
  obtain ⟨ds, hcourse, -⟩ := insertAll_courses (Eq.refl q)
  refine ⟨hresult, ⟨ds, hcourse⟩, ?_⟩
  rintro ds hcourse ⟨before, d, after, hsplit, ⟨⟨b, k⟩, report, ⟨hx, m, hm, hn⟩, hreport, hnot⟩, -⟩
  have hjob := hcourse.job_eq (by simp [hsplit]) hx
  rw [Pool.jobs, hcalls] at hjob
  rw [Pool.outcome?, hcalls] at hreport
  -- only the first call has finished, and its report rejects the only row that it carries
  obtain rfl : k = 0 := by
    rcases k with _ | _ | k
    · rfl
    · simp at hreport
    · simp at hreport
  obtain rfl : (⟨0, [row], none, 2⟩ : Batch) = b := (Job.mk.inj (Option.some.inj hjob)).2
  obtain rfl : some [⟨.int 0, "bad", .null⟩] = report := Except.ok.inj (Option.some.inj hreport)
  obtain rfl : m = 0 := by simpa [Batch.positions] using hm
  exact hnot ⟨_, List.mem_singleton_self _, 0, ⟨0, by simp, rfl, rfl⟩, hn⟩

end World

end TableFeed
