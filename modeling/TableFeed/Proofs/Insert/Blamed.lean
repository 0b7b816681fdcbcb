import TableFeed.Proofs.Insert.Fatal
import TableFeed.Proofs.Outcome.Indices

/-!
# The row that a failure names

A call that has failed and a report that is of no use end an insert, and what is said of either gives
the position of a batch.  This position counts the rows of the last round.  It is the caller's own
position of the first row of the batch as long as no row before it has been accepted; otherwise it is
less by the number of these rows.

The main result is `World.insertAll_blames`.
-/

namespace TableFeed

open Position World Rejection

/-- The position that a failure gives for the batch that is to blame. -/
def Failure.batchRow? : Failure → Option Int
  | .transport _ row _ => some row
  | .report (.unindexed row _) => some row
  | .report (.outside _ row _ _) => some row
  | _ => none

variable {σ : Type} {c : Client σ} {s : Schedule} {pace : Pace} {policy : Policy} {table : TableName}
  {limits : BatchLimits} {rows : List Row} {tokens : Option (List Writing)} {w w' : World σ}
  {d : Dispatch} {b : Batch} {f : Failure} {p p' : Paced (World σ)}

/-! ### The entry for which a report is of no use -/

/-- An entry for which the report on a batch is of no use. -/
inductive Rejection.Faults (b : Batch) (r : Rejection) : ReportFault → Prop where
  /-- It has no index. -/
  | unindexed {entries : List Rejection} (absent : r.index = .null) :
      Faults b r (.unindexed b.start entries)
  /-- It names no row of the batch. -/
  | outside (off : ∀ n, ¬ r.Names b n) :
      Faults b r (.outside r.index b.start b.rows.length r.message)

namespace Outcome

variable {r : Rejection} {entries : List (Batch × Rejection)} {cause : ReportFault}

lemma eq_overflow_of_placeOf {start : Int} {index : Value} {q : Rat}
    (h : placeOf start index q = .error f) : f = .overflow .integer := by
  unfold placeOf at h
  split at h
  · split at h
    · exact (Except.error.inj h).symm
    · split at h <;> simp at h
  · simp at h
  · simp at h

lemma faults_of_locate {before : List Rejection} (h : locate b before r = .error (.report cause)) :
    r.Faults b cause := by
  have hoff : ∀ n, ¬ r.Names b n := by
    intro n hn
    rw [locate_of_names hn] at h
    simp at h
  have houtside : ∀ {g : Failure}, (if r.index.isTooLong = true then
      (.error (.fault .unwritable) : Except Failure (Place × Writing))
      else .error (.report (.outside r.index b.start b.rows.length r.message))) = .error g →
        g = .report cause → r.Faults b cause := by
    intro g hg hcause
    split at hg
    · rw [← Except.error.inj hg] at hcause
      simp at hcause
    · rw [← Except.error.inj hg] at hcause
      obtain rfl := Failure.report.inj hcause
      exact .outside hoff
  unfold locate at h
  dsimp only at h
  split at h
  · next hnull =>
      obtain rfl := Failure.report.inj (Except.error.inj h)
      exact .unindexed hnull
  · split at h
    · next q _ =>
        split at h
        · rcases hplace : placeOf b.start r.index q with g | p
          · obtain rfl := eq_overflow_of_placeOf hplace
            simp [hplace, Except.map] at h
          · simp [hplace, Except.map] at h
        · exact houtside h rfl
    · exact houtside h rfl
    · split at h
      · exact houtside h rfl
      · simp at h
      · simp at h

lemma exists_faults_of_locateAll {before : List Rejection}
    (h : locateAll before entries = .error (.report cause)) :
    ∃ x ∈ entries, x.2.Faults x.1 cause := by
  induction entries generalizing before with
  | nil => simp [locateAll] at h
  | cons x rest ih =>
      obtain ⟨b, r⟩ := x
      rcases of_bind_eq_error h with h | ⟨found, -, h⟩
      · exact ⟨(b, r), by simp, faults_of_locate h⟩
      · rcases of_bind_eq_error h with h | ⟨founds, -, h⟩
        · obtain ⟨x, hx, hfaults⟩ := ih h
          exact ⟨x, by simp [hx], hfaults⟩
        · simp at h

/-- Reports that are of no use hold an entry that is to blame. -/
lemma exists_faults_of_ofReports {batches : List Batch} {reports : List (List Rejection)}
    (h : ofReports rows tokens batches reports = .error (.report cause)) :
    ∃ x ∈ paired batches reports, x.2.Faults x.1 cause := by
  rcases of_bind_eq_error h with h | ⟨found, -, h⟩
  · exact exists_faults_of_locateAll h
  · rcases of_bind_eq_error h with h | ⟨rejects, -, h⟩
    · generalize List.mapM (fetch rows tokens found) _ = r at h
      cases r <;> simp [liftFault, Except.mapError] at h
    · simp at h

end Outcome

/-! ### The batch that is to blame -/

namespace Dispatch

/-- A batch is to blame for a failure that gives its position. -/
inductive Blames (table : TableName) (w : World σ) (d : Dispatch) (b : Batch) : Failure → Prop where
  /-- Its call is the first one that has failed. -/
  | failed {f : Failure} (first : d.FirstFailed w b f) : Blames table w d b (.transport table b.start f)
  /-- The report on it is of no use. -/
  | refused {r : Rejection} {cause : ReportFault} (mem : (b, r) ∈ d.entries w)
      (faults : r.Faults b cause) : Blames table w d b (.report cause)

lemma Blames.batchRow?_eq (h : d.Blames table w b f) : f.batchRow? = some b.start := by
  cases h with
  | failed _ => rfl
  | refused _ hfaults => cases hfaults <;> rfl

lemma Blames.mem_batches (h : d.Blames table w b f) : b ∈ d.batches := by
  rw [← d.fst_calls]
  cases h with
  | failed hfirst =>
      obtain ⟨earlier, n, later, hsplit, -⟩ := hfirst
      exact List.mem_map.2 ⟨(b, n), by simp [hsplit], rfl⟩
  | refused hmem _ =>
      obtain ⟨n, report, hcall, -⟩ := mem_entriesOf.1 hmem
      exact List.mem_map.2 ⟨(b, n), hcall, rfl⟩

/-- The first row of a batch is the one that the caller gave at a position. -/
structure Opens (rows : List Row) (d : Dispatch) (b : Batch) (n : Int) : Prop where
  /-- The row is sent in the round. -/
  mem_origin : n ∈ d.origin
  /-- The position of the batch counts the rows of the round that the caller gave before it. -/
  counted : ((d.origin.filter (· < n)).length : Int) = b.start
  /-- The row is the caller's. -/
  row_eq : ∃ row, b.rows.head? = some row ∧ item? rows n = some row

/-- In a list that ascends, an item has as many smaller ones as there are before it. -/
lemma length_filter_lt {origin : List Int} (h : origin.Pairwise (· < ·)) {k : Nat} {n : Int}
    (hk : origin[k]? = some n) : (origin.filter (· < n)).length = k := by
  induction origin generalizing k with
  | nil => simp at hk
  | cons m rest ih =>
      obtain ⟨hm, hrest⟩ := List.pairwise_cons.1 h
      cases k with
      | zero =>
          obtain rfl : m = n := by simpa using hk
          have hnone : rest.filter (fun a => decide (a < m)) = [] :=
            List.filter_eq_nil_iff.2 fun a ha => by simpa using (hm a ha).le
          simp [hnone]
      | succ k =>
          have hk' : rest[k]? = some n := by simpa using hk
          have hlt : m < n := hm n (List.mem_of_getElem? hk')
          rw [List.filter_cons_of_pos (by simpa using hlt), List.length_cons, ih hrest hk']

/-- Positions without doubles have at most as many smaller ones as there are at all before a position,
and as many if and only if none is missing. -/
lemma length_filter_lt_le {origin : List Int} (h : origin.Nodup) (hle : ∀ m ∈ origin, 0 ≤ m) {n : Int}
    (hn : 0 ≤ n) : ((origin.filter (· < n)).length : Int) ≤ n ∧
      (((origin.filter (· < n)).length : Int) = n ↔ ∀ m, 0 ≤ m → m < n → m ∈ origin) := by
  have hcard : (origin.filter (· < n)).toFinset.card = (origin.filter (· < n)).length :=
    List.toFinset_card_of_nodup (h.filter _)
  have hsubset : (origin.filter (· < n)).toFinset ⊆ Finset.Ico 0 n := by
    intro m hm
    obtain ⟨hmem, hlt⟩ := List.mem_filter.1 (List.mem_toFinset.1 hm)
    exact Finset.mem_Ico.2 ⟨hle m hmem, by simpa using hlt⟩
  have hall : (Finset.Ico 0 n).card = n.toNat := by simp
  have hcount := Finset.card_le_card hsubset
  refine ⟨by omega, fun heq m hm hlt => ?_, fun hmem => ?_⟩
  · have hico := Finset.eq_of_subset_of_card_le hsubset (by omega)
    have hm' : m ∈ (origin.filter (· < n)).toFinset := hico ▸ Finset.mem_Ico.2 ⟨hm, hlt⟩
    exact (List.mem_filter.1 (List.mem_toFinset.1 hm')).1
  · have hico : Finset.Ico 0 n ⊆ (origin.filter (· < n)).toFinset := by
      intro m hm
      obtain ⟨hle, hlt⟩ := Finset.mem_Ico.1 hm
      exact List.mem_toFinset.2 (List.mem_filter.2 ⟨hmem m hle hlt, by simpa using hlt⟩)
    have := Finset.card_le_card hico
    omega

end Dispatch

namespace Retry.Stage

variable {st : Stage (World σ)}

namespace Able

/-- A batch of a stage opens with a row of the caller. -/
lemma opens (h : st.Able rows tokens) (hb : b ∈ (st.dispatch limits).batches) :
    ∃ n, (st.dispatch limits).Opens rows b n := by
  obtain ⟨m, hstart, hle, hitems, -⟩ := (h.cuts limits).of_mem hb
  rw [Nat.zero_add] at hstart
  have hlength : 0 < b.rows.length := List.length_pos_iff.2 ((h.cuts limits).nonempty_of_mem b hb)
  have hlt : m < st.origin.length := by
    rw [← h.tracks.length_rows]
    omega
  have hfirst : b.rows.head? = st.rows[m]? := by
    rw [List.head?_eq_getElem?, hitems 0 hlength, Nat.add_zero]
  have hitem : item? st.origin m = some st.origin[m] := by simp [hlt]
  have hrow : st.rows[m]? = item? rows st.origin[m] := h.tracks.rows_picked.item?_eq hitem
  refine ⟨st.origin[m], List.getElem_mem hlt, ?_, b.rows[0], ?_, ?_⟩
  · rw [hstart]
    exact congrArg Int.ofNat (Dispatch.length_filter_lt h.ascending (List.getElem?_eq_getElem hlt))
  · rw [List.head?_eq_getElem?, List.getElem?_eq_getElem hlength]
  · rw [← hrow, ← hfirst, List.head?_eq_getElem?, List.getElem?_eq_getElem hlength]

end Able

/-- If a stage ends a run with a failure that gives the position of a batch, then a batch of its round
is to blame. -/
lemma Moves.blames (hmoves : st.Moves c s limits table pace policy (.ends (.error f) p))
    (hpool : w.pool = (st.left c s limits table).pool) {row : Int} (hrow : f.batchRow? = some row) :
    ∃ b, (st.dispatch limits).Blames table w b f := by
  have hext : (st.left c s limits table).pool.Extends [] w.pool := hpool ▸ .refl _
  cases hmoves with
  | exhausted | overflow | waiting | interrupted => simp [Failure.batchRow?] at hrow
  | @failed b g _ hfirst =>
      refine ⟨b, .failed (split_of_firstFailed? ?_)⟩
      rwa [firstFailed?, hpool]
  | refused _ hanswered hf =>
      obtain ⟨cause, rfl⟩ : ∃ cause, f = .report cause := by
        cases Outcome.isUnusable_of_ofReports hf with
        | report cause => exact ⟨cause, rfl⟩
        | fault | overflow => simp [Failure.batchRow?] at hrow
      obtain ⟨⟨b, r⟩, hx, hfaults⟩ := Outcome.exists_faults_of_ofReports hf
      rw [Dispatch.paired_reports, ← Dispatch.entries_eq hanswered hext] at hx
      exact ⟨b, .refused hx hfaults⟩

end Retry.Stage

/-! ### The whole insert -/

/-- What a failure of an insert says of the batch that is to blame.  The position that it gives is that
of the first row of the batch among the rows of the round; it is the caller's position of this row if
and only if every row that the caller gave before it is sent in this round, too. -/
structure Dispatch.Blaming (table : TableName) (rows : List Row) (w : World σ) (d : Dispatch)
    (f : Failure) (row : Int) (b : Batch) (n : Int) : Prop where
  blames : d.Blames table w b f
  opens : d.Opens rows b n
  row_eq : row = b.start
  row_le : row ≤ n
  row_eq_iff : row = n ↔ ∀ m, 0 ≤ m → m < n → m ∈ d.origin

lemma Dispatch.Blames.blaming (h : d.Blames table w b f) {n row : Int} (hopens : d.Opens rows b n)
    (hsends : d.Sends rows tokens) (hrow : f.batchRow? = some row) :
    d.Blaming table rows w f row b n := by
  obtain rfl : row = b.start := Option.some.inj (hrow.symm.trans h.batchRow?_eq)
  have hnonneg : ∀ m ∈ d.origin, 0 ≤ m := by
    intro m hm
    obtain ⟨k, -, rfl⟩ := hsends.within m hm
    exact Int.natCast_nonneg k
  have hnodup : d.origin.Nodup := hsends.ascending.imp fun h => ne_of_lt h
  obtain ⟨hle, hiff⟩ := length_filter_lt_le hnodup hnonneg (hnonneg n hopens.mem_origin)
  rw [hopens.counted] at hle hiff
  exact ⟨h, hopens, rfl, hle, hiff⟩

/-- A run that ends with a failure that gives the position of a batch blames a batch of its last
round. -/
lemma Retry.Runs.blames {l : List (Stage (World σ))} {r : Except Failure Nat} {p₀ : Paced (World σ)}
    (h : Runs policy pace table.spec (round c s limits table) (firstStage rows tokens p₀) l r p)
    (hfirst : (firstStage rows tokens p₀).Able rows tokens) (hpool : w.pool = p.inner.pool)
    (hr : r = .error f) {row : Int} (hrow : f.batchRow? = some row) :
    ∃ before d b n, l.map (Stage.dispatch limits) = before ++ [d] ∧
      d.Blaming table rows w f row b n := by
  subst hr
  obtain ⟨-, hable⟩ := h.passes hfirst policy.attempts_pos
  obtain ⟨last, hlast, hends⟩ := h.exists_last
  obtain ⟨before, hsplit⟩ := List.getLast?_eq_some_iff.1 hlast
  obtain ⟨hlastAble, hle⟩ := hable last (List.mem_of_getLast? hlast)
  have hmoves : last.Moves c s limits table pace policy _ := hlastAble.moves hle
  rw [hends] at hmoves
  obtain ⟨log, hinner⟩ := hmoves.inner_eq
  obtain ⟨b, hblames⟩ := hmoves.blames (w := w) (by rw [hpool, hinner]) hrow
  obtain ⟨n, hopens⟩ := hlastAble.opens hblames.mem_batches
  exact ⟨before.map (Stage.dispatch limits), last.dispatch limits, b, n, by simp [hsplit],
    hblames.blaming hopens (hlastAble.sends limits) hrow⟩

namespace World

/-- Every insert that ends with a failure that gives the position of a batch blames a batch of its last
round.  The position is the caller's in the first round. -/
theorem insertAll_blames (c : Client σ) (s : Schedule) (pace : Pace) (options : InsertOptions)
    (table : TableName) (rows : List Row) (tokens : Option (List Writing)) (p : Paced (World σ)) :
    let q := (insertAll c s pace options (some table) rows tokens).run p
    ∃ ds, Course s pace table rows tokens p q.2 ds ∧
      ∀ f row, q.1 = .error f → f.batchRow? = some row → ∃ before d b n, ds = before ++ [d] ∧
        d.Blaming table rows q.2.inner f row b n ∧ (before = [] → row = n) := by
  intro q
  rcases insertAll_cases (Eq.refl q) with
    ⟨f, log, tally, hf, -, hq⟩ | ⟨hfirst, l, r, p', hruns, hq⟩
  · rw [hq]
    refine ⟨[], Retry.Alongside.course_nil ⟨rfl, rfl, rfl⟩, ?_⟩
    intro g row hg hrow
    obtain rfl := Except.error.inj hg
    cases hf <;> simp [Failure.batchRow?] at hrow
  · obtain ⟨log, hconcluded⟩ := concluded_eq table rows r p'
    have halong : Retry.Alongside p' q.2 := by
      rw [hq, hconcluded]
      exact ⟨rfl, rfl, rfl⟩
    have hcourse := hruns.course hfirst (q := p) ⟨rfl, rfl, rfl⟩ halong
    refine ⟨_, hcourse, fun f row hf hrow => ?_⟩
    have hr : r = .error f := by
      rw [hq, hconcluded] at hf
      exact eq_error_of_map hf
    obtain ⟨before, d, b, n, hsplit, hblaming⟩ :=
      hruns.blames (w := q.2.inner) hfirst halong.pool_eq hr hrow
    refine ⟨before, d, b, n, hsplit, hblaming, ?_⟩
    rintro rfl
    -- the first round sends all rows
    have horigin := hcourse.first d (by rw [hsplit]; rfl)
    have hmem := hblaming.opens.mem_origin
    rw [horigin] at hmem
    obtain ⟨k, hk, rfl⟩ := List.mem_map.1 hmem
    refine hblaming.row_eq_iff.2 fun m hle hlt => ?_
    obtain ⟨j, rfl⟩ := Int.eq_ofNat_of_zero_le hle
    have hj : j < k := Int.ofNat_lt.1 hlt
    rw [horigin]
    exact List.mem_map.2 ⟨j, List.mem_range.2 (hj.trans (List.mem_range.1 hk)), rfl⟩

/-- A client that accepts batches of two rows, and rejects the row of a batch that begins with the third
row.  All other calls fail. -/
def choosy (f : Failure) : Client Unit :=
  { Client.answering fun _ => [] with
    insert := fun _ b => if b.rows.length = 2 then pure none
      else if b.start = 2 then pure (some [⟨.int 0, "bad", .null⟩]) else throw f }

/-- The pool after it was given three rows. -/
def choosyPool (table : TableName) : Pool Job Ending :=
  let row : Row := .mapping []
  ⟨2, 1, true, false,
    [⟨⟨table, ⟨0, [row, row], some ["x", "y"], 4⟩⟩, some (.ok none)⟩,
      ⟨⟨table, ⟨2, [row], some ["z"], 2⟩⟩, some (.ok (some [⟨.int 0, "bad", .null⟩]))⟩]⟩

/-- The round that sends three rows leaves the third one. -/
lemma round_choosy (f : Failure) (table : TableName) :
    let row : Row := .mapping []
    ∃ log, (round (choosy f) idle ⟨1024, 2⟩ table [row, row, row] (some ["x", "y", "z"])).run
        (fresh ()).inner =
      (.ok ⟨[⟨2, row, some "z", ["bad"]⟩], true, [⟨.int 0, "bad", .null⟩]⟩,
        ⟨(), choosyPool table, log, 0, 1, ⟨1, 2, 0⟩⟩) := by
  intro row
  have hsize : rowSize row = .ok 2 := rowSize_mapping_nil
  let batches : List Batch := [⟨0, [row, row], some ["x", "y"], 4⟩, ⟨2, [row], some ["z"], 2⟩]
  have hplan : (Batch.plan ⟨1024, 2⟩ [row, row, row] (some ["x", "y", "z"])).complete =
      .ok batches := by
    simp [Batch.plan, Batch.planFrom, Batch.takeToken, hsize, BatchLimits.reached, Plan.after,
      Batch.Open.add, Batch.Open.close, Batch.Open.empty, Plan.complete, batches]
  have hreports : Outcome.ofReports [row, row, row] (some ["x", "y", "z"]) batches
      [[], [⟨.int 0, "bad", .null⟩]] =
        .ok ⟨[⟨2, row, some "z", ["bad"]⟩], true, [⟨.int 0, "bad", .null⟩]⟩ :=
    Outcome.ofReports_of_usable (fun ts hts => Option.some.inj hts ▸ rfl)
      (List.forall_mem_singleton.2 ⟨0, by decide, rfl⟩)
      (List.forall_mem_singleton.2 ⟨2, by decide, rfl⟩)
  unfold round
  rw [hplan, ← hreports]
  exact ⟨_, rfl⟩

/-- The round that sends this row again fails. -/
lemma round_choosy_again (f : Failure) (table : TableName) (log : List Event) :
    ∃ w, (round (choosy f) idle ⟨1024, 2⟩ table [.mapping []] (some ["z"])).run
        ⟨(), choosyPool table, log, 0, 1, ⟨1, 2, 0⟩⟩ = (.error (.transport table 0 f), w) ∧
      w.pool.jobs.getLast?.map (fun job => job.batch.tokens) = some (some [("z" : Writing)]) := by
  have hsize : rowSize (.mapping []) = .ok 2 := rowSize_mapping_nil
  have hplan : (Batch.plan ⟨1024, 2⟩ [.mapping []] (some ["z"])).complete =
      .ok [⟨0, [.mapping []], some ["z"], 2⟩] := by
    simp [Batch.plan, Batch.planFrom, Batch.takeToken, hsize, BatchLimits.reached, Plan.after,
      Batch.Open.add, Batch.Open.close, Batch.Open.empty, Plan.complete]
  unfold round
  rw [hplan]
  exact ⟨_, rfl, rfl⟩

/-- Of three rows, the first two go into one batch and are accepted.  The third one is rejected and sent
again, and then its call fails.  The failure gives the position of the first row. -/
theorem insertAll_blames_accepted :
    let row : Row := .mapping []
    let tokens : Option (List Writing) := some ["x", "y", "z"]
    let f : Failure := .refused .unavailable "busy"
    let c : Client Unit := { Client.answering fun _ => [] with
      insert := fun _ b => if b.rows.length = 2 then pure none
        else if b.start = 2 then pure (some [⟨.int 0, "bad", .null⟩]) else throw f }
    let pace : Pace := ⟨fun _ => 0.5, fun _ => false⟩
    let options : InsertOptions := ⟨⟨1024, 2⟩, .steep⟩
    let table : TableName := ⟨"p", "d", "t"⟩
    let q := (insertAll c idle pace options (some table) [row, row, row] tokens).run (fresh ())
    q.1 = .error (.transport table 0 f) ∧
      q.2.inner.pool.jobs.getLast?.map (fun job => job.batch.tokens) = some (some [("z" : Writing)]) := by
  intro row tokens f c pace options table q
  have htokens : Matching [row, row, row] tokens := fun ts hts => Option.some.inj hts ▸ rfl
  obtain ⟨log, hround⟩ := round_choosy f table
  obtain ⟨seconds, hwait⟩ : ∃ seconds, options.policy.wait 1 (pace.sample 0) = .ok seconds :=
    Policy.steep_defined.wait Nat.one_pos (by decide) 0.5
  obtain ⟨w, hround', hjobs⟩ := round_choosy_again f table
    (log ++ [.retryScheduled table.spec 1 1 (Number.roundPlaces 3 seconds)])
  have hnext : Retry.originOf ((List.range [row, row, row].length).map Int.ofNat) [2] = .ok [2] := rfl
  have hrun : (Retry.run options.policy pace table.spec (round c idle options.limits table)
      [row, row, row] tokens).run (uncounted (fresh ())) = _ :=
    Retry.run_of_error_next hround (List.cons_ne_nil _ _) (by decide) hnext hwait rfl hround'
  have hq : q = _ := insertAll_run c idle pace options table (fresh ()) htokens
  rw [hq, hrun]
  exact ⟨rfl, hjobs⟩

end World

end TableFeed
