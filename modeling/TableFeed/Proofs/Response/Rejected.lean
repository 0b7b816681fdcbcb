import TableFeed.Proofs.Outcome.Collected
import TableFeed.Proofs.Response.Entries

/-!
# The rows that responses reject

The batches of a plan are answered by responses, each with entries that give the place of a row in the
batch.  Between a response and the rows that are sent again stand two steps, the reading of the entries
and the search for the rows, and neither may lose a row: an entry that has no details, or nothing but
empty texts, rejects a row like any other.

The main result is `Outcome.ofReports_of_responses`.
-/

namespace TableFeed

open Position Rejection

variable {rows : List Row} {tokens : Option (List Writing)} {batches : List Batch}
  {responses : List Value} {reports : List (List Rejection)}

namespace Rejection

/-- The entries of the responses, each with the batch that it is about. -/
def pairedItems (batches : List Batch) (responses : List Value) : List (Batch × Value) :=
  (batches.zip responses).flatMap fun x => (itemsOf x.2).map (x.1, ·)

/-- What was read from a response, entry by entry. -/
def Relays (v : Value) (report : List Rejection) : Prop := List.Forall₂ Conveys (itemsOf v) report

/-- A well formed response to the insert of a batch, each entry of which gives the place of a row of the
batch. -/
structure Answers (b : Batch) (v : Value) : Prop where
  wellFormed : Response v
  placed : ∀ item ∈ itemsOf v, ∃ l < b.rows.length, indexAt item = .int (l : Nat)

/-- A position of the round that an entry of the responses names. -/
def NamedIn (batches : List Batch) (responses : List Value) (n : Int) : Prop :=
  ∃ x ∈ pairedItems batches responses, ∃ k, indexAt x.2 = .int k ∧ n = x.1.start + k

/-- Well formed responses are read. -/
lemma exists_reports (h : ∀ v ∈ responses, Response v) :
    ∃ reports, responses.mapM ofResponse = .ok reports ∧ List.Forall₂ Relays responses reports :=
  exists_mapM fun v hv => exists_ofResponse (h v hv)

/-- The entries that were read are those of the responses, in their order and with their batches. -/
lemma forall₂_paired (h : List.Forall₂ Relays responses reports) (batches : List Batch) :
    List.Forall₂ (fun x y => y.1 = x.1 ∧ Conveys x.2 y.2) (pairedItems batches responses)
      (Outcome.paired batches reports) := by
  induction h generalizing batches with
  | nil => simp [pairedItems, Outcome.paired]
  | @cons v report responses reports hfirst _ ih =>
      cases batches with
      | nil => simp [pairedItems, Outcome.paired]
      | cons b batches =>
          have hmap : List.Forall₂ (fun x y => y.1 = x.1 ∧ Conveys x.2 y.2)
              ((itemsOf v).map fun item => (b, item)) (report.map fun r => (b, r)) := by
            rw [List.forall₂_map_left_iff, List.forall₂_map_right_iff]
            exact hfirst.imp fun _ _ hconveys => ⟨rfl, hconveys⟩
          simp only [pairedItems, Outcome.paired, List.zip_cons_cons, List.flatMap_cons]
          exact List.rel_append hmap (ih batches)

/-- What was read of responses is nothing if the responses are empty or missing. -/
lemma flatten_eq_nil_iff (hresponses : ∀ v ∈ responses, Response v)
    (h : List.Forall₂ Relays responses reports) :
    reports.flatten = [] ↔ ∀ v ∈ responses, v = .null ∨ v = .list [] := by
  induction h with
  | nil => simp
  | @cons v report responses reports hfirst _ ih =>
      have hreport : report = [] ↔ v = .null ∨ v = .list [] := by
        rw [← (hresponses v (by simp)).itemsOf_eq_nil_iff, ← List.length_eq_zero_iff,
          ← List.length_eq_zero_iff, hfirst.length_eq]
      rw [List.flatten_cons, List.append_eq_nil_iff, hreport, List.forall_mem_cons,
        ih fun v' hv' => hresponses v' (by simp [hv'])]

end Rejection

namespace Outcome

/-- The entries of responses to inserts give places of rows. -/
lemma placed_of_answers (hanswers : List.Forall₂ Answers batches responses) :
    ∀ x ∈ pairedItems batches responses, ∃ l < x.1.rows.length, indexAt x.2 = .int (l : Nat) := by
  intro x hx
  obtain ⟨y, hy, hx⟩ := List.mem_flatMap.1 hx
  obtain ⟨item, hitem, rfl⟩ := List.mem_map.1 hx
  exact (List.forall₂_zip hanswers hy).placed item hitem

/-- What was read from responses to inserts names rows of their batches. -/
lemma usable_of_answers (hanswers : List.Forall₂ Answers batches responses)
    (hrelays : List.Forall₂ Relays responses reports) :
    ∀ x ∈ paired batches reports, x.2.Usable x.1 := by
  intro y hy
  obtain ⟨x, hx, hbatch, hconveys⟩ := exists_left_of_mem (forall₂_paired hrelays batches) hy
  obtain ⟨l, hl, hindex⟩ := placed_of_answers hanswers x hx
  exact ⟨l, by rwa [hbatch], by rw [hconveys.index_eq, hindex]⟩

lemma position?_eq_some_iff {b : Batch} {r : Rejection} {n : Int} :
    r.position? b = some n ↔ ∃ k, r.index = .int k ∧ n = b.start + k := by
  unfold position? index?
  split
  · next k hk => simp [hk, eq_comm]
  · next hno =>
      simp only [Option.map_none, reduceCtorEq, false_iff]
      rintro ⟨k, hk, -⟩
      exact hno k hk

/-- The positions that were read from responses are those that the responses name. -/
lemma exists_position?_iff (hrelays : List.Forall₂ Relays responses reports) (n : Int) :
    (∃ x ∈ paired batches reports, x.2.position? x.1 = some n) ↔ NamedIn batches responses n := by
  have hpaired := forall₂_paired hrelays batches
  simp only [position?_eq_some_iff, NamedIn]
  constructor
  · rintro ⟨y, hy, k, hk, hn⟩
    obtain ⟨x, hx, hbatch, hconveys⟩ := exists_left_of_mem hpaired hy
    exact ⟨x, hx, k, by rw [← hconveys.index_eq, hk], by rw [hn, hbatch]⟩
  · rintro ⟨x, hx, k, hk, hn⟩
    obtain ⟨y, hy, hbatch, hconveys⟩ := exists_right_of_mem hpaired hx
    exact ⟨y, hy, k, by rw [hconveys.index_eq, hk], by rw [hn, hbatch]⟩

/-- Well formed responses to the inserts of the batches of a plan lose nothing on their way.  Each
entry is read, also one without details, and the rows to be sent again are those that entries name.
-/
theorem ofReports_of_responses (limits : BatchLimits)
    (hplan : (Batch.plan limits rows tokens).complete = .ok batches)
    (hanswers : List.Forall₂ Answers batches responses) :
    ∃ reports, responses.mapM ofResponse = .ok reports ∧
      List.Forall₂ Relays responses reports ∧
      ∃ o, ofReports rows tokens batches reports = .ok o ∧
        o.Collects rows tokens batches reports ∧
        (∀ n, n ∈ o.positions ↔ NamedIn batches responses n) ∧
        (o.succeeded = true ↔ ∀ v ∈ responses, v = .null ∨ v = .list []) := by
  have hresponses : ∀ v ∈ responses, Response v := by
    intro v hv
    obtain ⟨b, -, hb⟩ := exists_left_of_mem hanswers hv
    exact hb.wellFormed
  obtain ⟨reports, hreports, hrelays⟩ := exists_reports hresponses
  obtain ⟨hcuts, hcovering⟩ := Batch.cuts_of_complete hplan
  have husable := usable_of_answers hanswers hrelays
  have hwithin := within_of_cuts hcuts (fun x hx => (mem_of_paired hx).1) husable
  have hlength : reports.length = batches.length := by
    rw [← hrelays.length_eq, ← hanswers.length_eq]
  have hcollects := collects_of_covering hcuts hcovering hlength husable
  refine ⟨reports, hreports, hrelays, _, ofReports_of_covered hcovering husable hwithin, hcollects,
    fun n => ?_, ?_⟩
  · rw [hcollects.mem_iff, exists_position?_iff hrelays]
  · rw [hcollects.succeeded_iff, flatten_eq_nil_iff hresponses hrelays]

/-- Five rows in three batches.  The second row is rejected twice, first without details and then with
two, the first of which has an empty message and half of a pair as its reason and the second one
nothing.  The second batch has no response, and the row of the third batch is rejected with an empty
list of details. -/
theorem ofReports_of_responses_bare :
    let row : Row := .mapping []
    let rows := [row, row, row, row, row]
    let limits : BatchLimits := ⟨64 * 1024, 2⟩
    let batches := (Batch.plan limits rows none).batches
    let responses : List Value := [
      .list [.mapping [(.text "index", .int 1)],
        .mapping [(.text "index", .int 1), (.text "errors", .list [
          .mapping [(.text "message", .text ""), (.text "reason", .torn [.half 0xD800])],
          .mapping []])]],
      .null,
      .list [.mapping [(.text "index", .int 0), (.text "errors", .list [])]]]
    (Batch.plan limits rows none).complete = .ok batches ∧
      List.Forall₂ Answers batches responses ∧
      ∃ reports, responses.mapM ofResponse = .ok reports ∧
        reports.flatten.map Rejection.message =
          (["unknown error", ⟨.half 0xD800 :: Text.glyphs "; unknown error"⟩, "unknown error"] :
            List Writing) ∧
        ∃ o, ofReports rows none batches reports = .ok o ∧ o.positions = [1, 4] ∧
          o.succeeded = false := by
  intro row rows limits batches responses
  have hsize : rowSize row = .ok 2 := rowSize_mapping_nil
  have hplan : Batch.plan limits rows none =
      ⟨[⟨0, [row, row], none, 4⟩, ⟨2, [row, row], none, 4⟩, ⟨4, [row], none, 2⟩], none⟩ := by
    simp [Batch.plan, Batch.planFrom, Batch.takeToken, hsize, BatchLimits.reached,
      Plan.after, Batch.Open.add, Batch.Open.close, Batch.Open.empty, limits, rows]
  have hcomplete : (Batch.plan limits rows none).complete = .ok batches := by
    simp [batches, hplan, Plan.complete]
  have hdetail : Detail
      (.mapping [(.text "message", .text ""), (.text "reason", .torn [.half 0xD800])]) :=
    .mapping (.inr ⟨"", .text ""⟩) (.inr ⟨⟨[.half 0xD800]⟩, .torn _⟩)
  have hdetails : Lists Detail (.list [
      .mapping [(.text "message", .text ""), (.text "reason", .torn [.half 0xD800])], .mapping []]) :=
    .list (by simpa using ⟨hdetail, .mapping (.inl rfl) (.inl rfl)⟩)
  have hanswers : List.Forall₂ Answers batches responses := by
    simp only [batches, hplan]
    refine .cons ⟨.list ?_, ?_⟩ (.cons ⟨.missing, ?_⟩ (.cons ⟨.list ?_, ?_⟩ .nil))
    · simpa using ⟨.mapping .missing, .mapping hdetails⟩
    · exact List.forall_mem_cons.2 ⟨⟨1, by decide, rfl⟩,
        List.forall_mem_singleton.2 ⟨1, by decide, rfl⟩⟩
    · simp [itemsOf]
    · simpa using .mapping (.list (by simp))
    · exact List.forall_mem_singleton.2 ⟨0, by decide, rfl⟩
  obtain ⟨reports, hreports, -, o, ho, hcollects, hnamed, hsucceeded⟩ :=
    ofReports_of_responses limits hcomplete hanswers
  have hread : responses.mapM ofResponse = .ok [
      [⟨.int 1, "unknown error", .null⟩,
        ⟨.int 1, ⟨.half 0xD800 :: Text.glyphs "; unknown error"⟩, .torn [.half 0xD800]⟩], [],
      [⟨.int 0, "unknown error", .null⟩]] := rfl
  obtain rfl := Except.ok.inj (hreports.symm.trans hread)
  refine ⟨hcomplete, hanswers, _, hread, rfl, o, ho, ?_, ?_⟩
  · refine hcollects.ascending.eq_of_mem_iff (by decide) fun n => ?_
    rw [hcollects.mem_iff]
    simp [batches, hplan, paired, position?, index?, eq_comm]
  · rw [← Bool.not_eq_true, hsucceeded]
    simp [responses]

end Outcome

end TableFeed
