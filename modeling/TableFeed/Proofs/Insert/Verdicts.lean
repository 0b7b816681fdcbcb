import TableFeed.Proofs.Insert.Runs

/-!
# Verdicts on single rows

A verdict says of a row, by itself, whether it is rejected in a round and with which messages.  A
report on a batch is in keeping with a verdict if it says of every row what the verdict says of it;
the entries may stand in any order, as long as those on one row keep theirs.

What a round makes of such reports does not depend on where its batches end.  The main results are

* `Outcome.saidOf_cuts`: the messages on a position of the round are those of the verdict;
* `Stage.Judged.picks` and `Stage.Judged.givenUp_eq`: the rows that a stage leaves rejected, and what
  the caller is told of them, are a function of the caller's rows.
-/

namespace TableFeed

open Position World

/-- What is said of a row with its token in a round.  Nothing is said of a row that is accepted. -/
abbrev Verdict := Nat → Row → Option Writing → List Writing

namespace Rejection

/-- What the entries of a report say of the row at a place of the batch. -/
def messagesAt (report : List Rejection) (l : Nat) : List Writing :=
  (report.filter fun x => x.index? == some (l : Int)).map message

/-- A report that says of every row of a batch what a verdict says of it. -/
structure Keeps (v : Verdict) (k : Nat) (b : Batch) (report : List Rejection) : Prop where
  usable : ∀ x ∈ report, x.Usable b
  said : ∀ l row, b.rows[l]? = some row → messagesAt report l = v k row (b.tokens.bind (·[l]?))

lemma messagesAt_eq_nil {b : Batch} {report : List Rejection} (h : ∀ x ∈ report, x.Usable b)
    {l : Nat} (hl : b.rows.length ≤ l) : messagesAt report l = [] := by
  rw [messagesAt, List.map_eq_nil_iff, List.filter_eq_nil_iff]
  intro x hx
  obtain ⟨m, hm, hindex⟩ := h x hx
  have hne : m ≠ l := by omega
  simpa [index?, hindex] using hne

end Rejection

/-! ### The messages on a position of a round -/

namespace Outcome

open Rejection

lemma saidOf_append (xs ys : List (Batch × Rejection)) (n : Int) :
    saidOf (xs ++ ys) n = saidOf xs n ++ saidOf ys n := by
  simp [saidOf, named]

/-- The entries on a batch speak of the places of the batch, counted from its start. -/
lemma saidOf_batch {b : Batch} {start : Nat} (hstart : b.start = Int.ofNat start)
    {report : List Rejection} (h : ∀ x ∈ report, x.Usable b) (n : Nat) :
    saidOf (report.map (b, ·)) (Int.ofNat n) =
      if start ≤ n then messagesAt report (n - start) else [] := by
  induction report with
  | nil => simp [saidOf, named, messagesAt]
  | cons x rest ih =>
      obtain ⟨m, hm, hindex⟩ := h x (by simp)
      have hposition : x.position? b = some (Int.ofNat (start + m)) := by
        simp [position?, Rejection.index?, hindex, hstart]
      have hx : saidOf [(b, x)] (Int.ofNat n) = if n = start + m then [x.message] else [] := by
        by_cases hn : n = start + m
        · simp [saidOf, named, hposition, hn]
        · have hne : ¬ (n : Int) = (start : Int) + (m : Int) := by omega
          simp [saidOf, named, hposition, hn, hne]
      rw [List.map_cons, ← List.singleton_append, saidOf_append, hx, ih fun y hy => h y (by simp [hy])]
      rcases Nat.lt_or_ge n start with hlt | hge
      · rw [if_neg (by omega), if_neg (by omega), if_neg (by omega)]
        rfl
      · rw [if_pos hge, if_pos hge]
        by_cases hn : n = start + m
        · subst hn
          simp [messagesAt, Rejection.index?, hindex]
        · have hne : m ≠ n - start := by omega
          simp [messagesAt, Rejection.index?, hindex, hn, hne]

variable {σ : Type} {w : World σ} {v : Verdict} {k start : Nat} {rows : List Row}
  {tokens : Option (List Writing)} {batches : List Batch}

lemma saidOf_zipIdx_cons (w : World σ) (b : Batch) (batches : List Batch) (i : Nat) (n : Int) :
    saidOf (w.entriesOf ((b :: batches).zipIdx i)) n =
      saidOf ((w.reportOf i).map (b, ·)) n ++ saidOf (w.entriesOf (batches.zipIdx (i + 1))) n := by
  rw [List.zipIdx_cons, entriesOf, List.flatMap_cons, saidOf_append]
  rfl

/-- Nothing is said of what lies before the batches. -/
lemma saidOf_cuts_of_lt (hcuts : Batch.Cuts start rows tokens batches) (i : Nat)
    (husable : ∀ x ∈ batches.zipIdx i, ∀ e ∈ w.reportOf x.2, e.Usable x.1) {n : Nat}
    (hn : n < start) : saidOf (w.entriesOf (batches.zipIdx i)) (Int.ofNat n) = [] := by
  induction hcuts generalizing i with
  | nil => simp [saidOf, named, entriesOf]
  | @cons start rest tokens b batches hstart _ _ _ ih =>
      rw [saidOf_zipIdx_cons, saidOf_batch hstart (husable (b, i) (by simp)), if_neg (by omega),
        ih (i + 1) (fun x hx => husable x (by simp [hx])) (by omega), List.append_nil]

/-- What is said of a position of the round is what the verdict says of its row, wherever the
batches end. -/
theorem saidOf_cuts (hcuts : Batch.Cuts start rows tokens batches) (i : Nat)
    (hkeeps : ∀ x ∈ batches.zipIdx i, Keeps v k x.1 (w.reportOf x.2)) {m : Nat} {row : Row}
    (hrow : rows[m]? = some row) :
    saidOf (w.entriesOf (batches.zipIdx i)) (Int.ofNat (start + m)) =
      v k row (tokens.bind (·[m]?)) := by
  induction hcuts generalizing i m with
  | nil => simp at hrow
  | @cons start rest tokens b batches hstart _ htokens hrest ih =>
      have hb := hkeeps (b, i) (by simp)
      have hkeeps' : ∀ x ∈ batches.zipIdx (i + 1), Keeps v k x.1 (w.reportOf x.2) :=
        fun x hx => hkeeps x (by simp [hx])
      rw [saidOf_zipIdx_cons, saidOf_batch hstart hb.usable, if_pos (by omega), Nat.add_sub_cancel_left]
      rcases Nat.lt_or_ge m b.rows.length with hlt | hge
      · -- the row is one of this batch, and the others lie behind it
        rw [List.getElem?_append_left hlt] at hrow
        have husable : ∀ x ∈ batches.zipIdx (i + 1), ∀ e ∈ w.reportOf x.2, e.Usable x.1 :=
          fun x hx => (hkeeps' x hx).usable
        rw [hb.said m row hrow, saidOf_cuts_of_lt hrest (i + 1) husable (by omega), List.append_nil,
          htokens]
        cases tokens with
        | none => rfl
        | some ts => simp [hlt]
      · rw [List.getElem?_append_right hge] at hrow
        have hm : start + m = start + b.rows.length + (m - b.rows.length) := by omega
        rw [messagesAt_eq_nil hb.usable hge, List.nil_append, hm, ih (i + 1) hkeeps' hrow]
        cases tokens with
        | none => rfl
        | some ts => simp [List.getElem?_drop, Nat.add_sub_cancel' hge]

/-- The positions that are named are those of which something is said. -/
lemma namedPositions_eq_filter (count : Nat) (entries : List (Batch × Rejection)) :
    namedPositions count entries =
      ((List.range count).map Int.ofNat).filter fun n => saidOf entries n ≠ [] := by
  refine List.filter_congr fun n _ => ?_
  rw [Bool.eq_iff_iff, List.any_eq_true, decide_eq_true_iff, saidOf, ne_eq, List.map_eq_nil_iff,
    List.filter_eq_nil_iff]
  push Not
  rfl

end Outcome

/-! ### Stages whose reports keep to a verdict -/

namespace Verdict

variable (v : Verdict) (rows : List Row) (tokens : Option (List Writing)) (k : Nat) (n : Int)

/-- What is said in a round of the row at a position of the caller. -/
def said : List Writing := v k ((item? rows n).getD .null) (tokens.bind (item? · n))

/-- Whether the row at a position of the caller is rejected in a round. -/
def rejects : Bool := v.said rows tokens k n ≠ []

/-- What the caller is told of a row that is given up after a round. -/
def failure : RejectedRow :=
  ⟨n, (item? rows n).getD .null, tokens.bind (item? · n), v.said rows tokens k n⟩

end Verdict

namespace Retry.Stage

variable {σ : Type} {c : Client σ} {s : Schedule} {limits : BatchLimits} {table : TableName}
  {v : Verdict} {rows : List Row} {tokens : Option (List Writing)} {st : Stage (World σ)}

/-- A stage whose calls, as far as they have ended, have ended with reports that keep to a
verdict. -/
def Judged (v : Verdict) (c : Client σ) (s : Schedule) (limits : BatchLimits) (table : TableName)
    (st : Stage (World σ)) : Prop :=
  ∀ x ∈ (st.dispatch limits).calls, ∀ e,
    (st.left c s limits table).pool.outcome? x.2 = some e →
      ∃ report, e = .ok report ∧ Rejection.Keeps v st.attempt x.1 (report.getD [])

namespace Judged

lemma plain (h : st.Judged v c s limits table) : st.Plain c s limits table := by
  rintro ⟨b, x⟩ hx
  obtain ⟨n, report, hcall, houtcome, hmem⟩ := mem_entriesOf.1 hx
  obtain ⟨report', hok, hkeeps⟩ := h _ hcall _ houtcome
  obtain rfl : some report = report' := Except.ok.inj hok
  obtain ⟨l, -, hindex⟩ := hkeeps.usable x hmem
  exact .inr ⟨l, hindex⟩

lemma keeps (h : st.Judged v c s limits table)
    (hanswered : (st.dispatch limits).Answered (st.left c s limits table)) :
    ∀ x ∈ (st.dispatch limits).calls,
      Rejection.Keeps v st.attempt x.1 ((st.left c s limits table).reportOf x.2) := by
  intro x hx
  obtain ⟨report, houtcome⟩ := hanswered x hx
  obtain ⟨report', hok, hkeeps⟩ := h x hx _ houtcome
  obtain rfl : report = report' := Except.ok.inj hok
  rwa [reportOf, houtcome]

lemma usable (h : st.Judged v c s limits table)
    (hanswered : (st.dispatch limits).Answered (st.left c s limits table)) :
    (st.dispatch limits).Usable (st.left c s limits table) := by
  intro x hx
  obtain ⟨y, hy, hmem⟩ := List.mem_flatMap.1 hx
  obtain ⟨e, he, rfl⟩ := List.mem_map.1 hmem
  exact (h.keeps hanswered y hy).usable e he

/-- What a stage hears of a row is what the verdict says of it. -/
lemma saidOf_eq (h : st.Judged v c s limits table) (hready : st.Ready rows tokens)
    (hsized : Sized rows) (hanswered : (st.dispatch limits).Answered (st.left c s limits table))
    {m n : Int} (hm : Within st.rows.length m) (hn : item? st.origin m = some n) :
    Outcome.saidOf ((st.dispatch limits).entries (st.left c s limits table)) m =
      v.said rows tokens st.attempt n := by
  obtain ⟨row, -, hrow⟩ := hm.exists_item
  obtain ⟨j, -, rfl⟩ := hm
  have hsaid := Outcome.saidOf_cuts (hready.cuts limits hsized) _ (h.keeps hanswered) hrow
  rw [Nat.zero_add] at hsaid
  have htoken : st.tokens.bind (·[j]?) = tokens.bind (item? · n) :=
    bind_item?_eq hready.tracks.tokens_picked hn
  rw [Verdict.said, ← hready.tracks.rows_picked.item?_eq hn, hrow, ← htoken]
  exact hsaid

variable (hjudged : st.Judged v c s limits table) (hready : st.Ready rows tokens)
  (hsized : Sized rows) (hanswered : (st.dispatch limits).Answered (st.left c s limits table))

include hjudged hready hsized hanswered

/-- A stage leaves rejected what the verdict rejects. -/
theorem picks : Picks (st.outcome c s limits table).positions st.origin
    (st.origin.filter (v.rejects rows tokens st.attempt)) := by
  have hall := picks_range st.origin
  rw [outcome, Outcome.positions_naming, Outcome.namedPositions_eq_filter, hready.tracks.length_rows]
  refine hall.filter fun m hm n hn => ?_
  have hwithin : Within st.rows.length m := by
    obtain ⟨j, hj, rfl⟩ := List.mem_map.1 hm
    exact ⟨j, by simpa [hready.tracks.length_rows] using hj, rfl⟩
  rw [hjudged.saidOf_eq hready hsized hanswered hwithin hn]
  rfl

/-- What the caller is told of the rows that a stage leaves rejected is what the verdict says. -/
theorem givenUp_eq : givenUp (st.origin.filter (v.rejects rows tokens st.attempt))
      (st.outcome c s limits table) =
    (st.origin.filter (v.rejects rows tokens st.attempt)).map (v.failure rows tokens st.attempt) := by
  have hpicks := hjudged.picks hready hsized hanswered
  rw [outcome, Outcome.positions_naming] at hpicks
  rw [givenUp, outcome, Outcome.naming]
  refine hpicks.map_zip_eq fun m hm n hn => ?_
  have hwithin := (Outcome.mem_namedPositions.1 hm).1
  rw [Verdict.failure, ← hready.tracks.rows_picked.item?_eq hn,
    ← bind_item?_eq hready.tracks.tokens_picked hn,
    ← hjudged.saidOf_eq hready hsized hanswered hwithin hn]
  rfl

end Judged

end Retry.Stage

end TableFeed
