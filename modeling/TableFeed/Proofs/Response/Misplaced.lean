import TableFeed.Proofs.Outcome.Indices
import TableFeed.Proofs.Response.Rejected

/-!
# Responses with indices of any kind

What the service sends as the index of an entry is taken over as it is, so that every kind of JSON
value reaches the search for the rejected rows.  An index that is absent, or a number that is not
within the batch, is reported as a fault of the service.  A text, a list or an object is not, nor is
a float within the batch or an integer that is too long to be written.

The main result is `Outcome.ofReports_of_indices`.
-/

namespace TableFeed

open Rejection

variable {rows : List Row} {tokens : Option (List Writing)} {batches : List Batch}
  {responses : List Value} {reports : List (List Rejection)} {entries : List (Batch × Rejection)}
  {b : Batch} {r : Rejection}

namespace Rejection

/-- An entry that either names a row of its batch or gives an index that is reported: none at all, or
a number outside of the batch that can be written. -/
inductive Reportable (b : Batch) (r : Rejection) : Prop where
  /-- The entry names a row. -/
  | names {n : Int} (names : r.Names b n)
  /-- There is no index. -/
  | absent (absent : r.index = .null)
  /-- The index is a number outside of the batch. -/
  | off (numeral : IsNumeral r.index) (off : ¬ Inside b r.index)
      (short : r.index.isTooLong = false)

lemma IsNumeral.ne_null (h : IsNumeral r.index) : r.index ≠ .null := by
  intro hnull
  rw [hnull] at h
  cases h

lemma IsNumeral.not_isOrderless {v : Value} (h : IsNumeral v) : ¬ IsOrderless v := by
  intro horderless
  cases h <;> cases horderless <;> next h => cases h

/-- An entry that names a row is not turned away. -/
lemma Names.not_turned {n : Int} (h : r.Names b n) {before : List Rejection} {f : Failure} :
    ¬ Turned before b r f := by
  obtain ⟨hnumeral, hinside⟩ := h.numeral_inside
  intro hturned
  cases hturned with
  | unindexed absent => exact hnumeral.ne_null absent
  | outside _ off _ => exact off hinside
  | unwritable _ off _ => exact off hinside
  | unordered orderless => exact hnumeral.not_isOrderless orderless
  | beyond index_eq _ _ =>
      obtain ⟨l, -, hcount, -⟩ := h
      simp [count?, index_eq] at hcount

/-- A reportable entry that is turned away is reported. -/
lemma Reportable.of_turned (h : Reportable b r) {before : List Rejection} {f : Failure}
    (hturned : Turned before b r f) : ∃ cause, f = .report cause := by
  cases h with
  | names h => exact absurd hturned h.not_turned
  | absent h =>
      cases hturned with
      | unindexed _ => exact ⟨_, rfl⟩
      | outside _ _ _ => exact ⟨_, rfl⟩
      | unwritable hnumeral _ _ => exact absurd h hnumeral.ne_null
      | unordered horderless =>
          rw [h] at horderless
          cases horderless with
          | name h => cases h
      | beyond hindex _ _ => simp [h] at hindex
  | off hnumeral hoff hshort =>
      cases hturned with
      | unindexed _ => exact ⟨_, rfl⟩
      | outside _ _ _ => exact ⟨_, rfl⟩
      | unwritable _ _ hlong => simp [hshort] at hlong
      | unordered horderless => exact absurd horderless hnumeral.not_isOrderless
      | beyond _ hinside _ => exact absurd hinside hoff

/-- A reportable entry that stands at a place names a row. -/
lemma Reportable.of_stands (h : Reportable b r) {p : Place} (hstands : Stands b r p) :
    ∃ n, p = .row n ∧ r.Names b n := by
  cases hstands with
  | row hnames => exact ⟨_, rfl, hnames⟩
  | @float x q v hindex hinside _ =>
      exfalso
      cases h with
      | names h =>
          obtain ⟨l, -, hcount, -⟩ := h
          simp [count?, hindex] at hcount
      | absent h => simp [h] at hindex
      | off _ hoff _ => exact hoff ⟨q, hinside⟩

end Rejection

namespace Outcome

/-- Entries that are all reportable lead to an outcome if they all name rows, and are reported
otherwise. -/
lemma Settles.of_reportable {result : Except Failure Outcome}
    (h : Settles rows tokens entries result) (hreportable : ∀ x ∈ entries, Reportable x.1 x.2) :
    (∀ x ∈ entries, ∃ n, x.2.Names x.1 n) ∧ (∃ o, result = .ok o) ∨
      (¬ ∀ x ∈ entries, ∃ n, x.2.Names x.1 n) ∧ ∃ cause, result = .error (.report cause) := by
  have hnames : ∀ {places}, List.Forall₂ (fun x p => Stands x.1 x.2 p) entries places →
      (∀ x ∈ entries, ∃ n, x.2.Names x.1 n) ∧ ∀ p ∈ places, ∃ n, p = .row n := by
    intro places hstand
    refine ⟨fun x hx => ?_, fun p hp => ?_⟩
    · obtain ⟨p, -, hp⟩ := exists_right_of_mem hstand hx
      obtain ⟨n, -, hn⟩ := (hreportable x hx).of_stands hp
      exact ⟨n, hn⟩
    · obtain ⟨x, hx, hp⟩ := exists_left_of_mem hstand hp
      obtain ⟨n, hn, -⟩ := (hreportable x hx).of_stands hp
      exact ⟨n, hn⟩
  cases h with
  | @turned first rest b r f hsplit _ hturned =>
      have hmem : (b, r) ∈ entries := by simp [hsplit]
      obtain ⟨cause, rfl⟩ := (hreportable _ hmem).of_turned hturned
      refine .inr ⟨fun hall => ?_, cause, rfl⟩
      obtain ⟨n, hn⟩ := hall _ hmem
      exact hn.not_turned hturned
  | misfit hstand hfound =>
      obtain ⟨n, hn⟩ := (hnames hstand).2 _ (List.mem_of_find?_eq_some hfound)
      simp at hn
  | @outcome _ o hstand _ _ _ _ => exact .inl ⟨(hnames hstand).1, o, rfl⟩

/-- Well formed responses with indices of any kind on the batches of a plan.  They are all read, and
`Settles` tells what they come to.  In particular, if every index counts a row of its batch, is absent
or is a number outside of the batch that can be written, then there is an outcome or the responses are
reported as faulty. -/
theorem ofReports_of_indices (limits : BatchLimits)
    (hplan : (Batch.plan limits rows tokens).complete = .ok batches)
    (hresponses : ∀ v ∈ responses, Response v)
    (hindices : ∀ v ∈ responses, ∀ item ∈ itemsOf v, IsIndex (indexAt item)) :
    ∃ reports, responses.mapM ofResponse = .ok reports ∧ List.Forall₂ Relays responses reports ∧
      Settles rows tokens (paired batches reports) (ofReports rows tokens batches reports) ∧
      ((∀ x ∈ paired batches reports, Reportable x.1 x.2) →
        (∀ x ∈ paired batches reports, ∃ n, x.2.Names x.1 n) ∧
            (∃ o, ofReports rows tokens batches reports = .ok o) ∨
          (¬ ∀ x ∈ paired batches reports, ∃ n, x.2.Names x.1 n) ∧
            ∃ cause, ofReports rows tokens batches reports = .error (.report cause)) := by
  obtain ⟨reports, hreports, hrelays⟩ := exists_reports hresponses
  obtain ⟨hcuts, hcovering⟩ := Batch.cuts_of_complete hplan
  have hread : ∀ x ∈ paired batches reports, IsIndex x.2.index := by
    intro y hy
    obtain ⟨x, hx, -, hconveys⟩ := exists_left_of_mem (forall₂_paired hrelays batches) hy
    obtain ⟨z, hz, hx⟩ := List.mem_flatMap.1 hx
    obtain ⟨item, hitem, rfl⟩ := List.mem_map.1 hx
    rw [hconveys.index_eq]
    exact hindices z.2 (List.of_mem_zip hz).2 item hitem
  have hsettles := settles hcuts hcovering hread
  exact ⟨reports, hreports, hrelays, hsettles, hsettles.of_reportable⟩

/-- Two rows in two batches.  The first row is rejected, and the entry on the second batch has no
index. -/
theorem ofReports_of_indices_absent :
    let row : Row := .mapping []
    let rows := [row, row]
    let limits : BatchLimits := ⟨64 * 1024, 1⟩
    let batches := (Batch.plan limits rows none).batches
    let responses : List Value := [.list [.mapping [(.text "index", .int 0)]], .list [.mapping []]]
    (Batch.plan limits rows none).complete = .ok batches ∧
      (∀ v ∈ responses, Response v) ∧
      (∀ v ∈ responses, ∀ item ∈ itemsOf v, IsIndex (indexAt item)) ∧
      ∃ reports, responses.mapM ofResponse = .ok reports ∧
        (∀ x ∈ paired batches reports, Reportable x.1 x.2) ∧
        ∃ cause, ofReports rows none batches reports = .error (.report cause) := by
  intro row rows limits batches responses
  have hsize : rowSize row = .ok 2 := rowSize_mapping_nil
  have hplan : Batch.plan limits rows none = ⟨[⟨0, [row], none, 2⟩, ⟨1, [row], none, 2⟩], none⟩ := by
    simp [Batch.plan, Batch.planFrom, Batch.takeToken, hsize, BatchLimits.reached,
      Plan.after, Batch.Open.add, Batch.Open.close, Batch.Open.empty, limits, rows]
  have hcomplete : (Batch.plan limits rows none).complete = .ok batches := by
    simp [batches, hplan, Plan.complete]
  have hresponses : ∀ v ∈ responses, Response v :=
    List.forall_mem_cons.2 ⟨.list (by simpa using .mapping .missing),
      List.forall_mem_singleton.2 (.list (by simpa using .mapping .missing))⟩
  have hindices : ∀ v ∈ responses, ∀ item ∈ itemsOf v, IsIndex (indexAt item) :=
    List.forall_mem_cons.2 ⟨List.forall_mem_singleton.2 (.int 0),
      List.forall_mem_singleton.2 (List.forall_mem_singleton.2 .null)⟩
  obtain ⟨reports, hreports, -, -, hreported⟩ :=
    ofReports_of_indices limits hcomplete hresponses hindices
  have hread : responses.mapM ofResponse =
      .ok [[⟨.int 0, "unknown error", .null⟩], [⟨.null, "unknown error", .null⟩]] := rfl
  obtain rfl := Except.ok.inj (hreports.symm.trans hread)
  have hentries : paired batches
      [[⟨.int 0, "unknown error", .null⟩], [⟨.null, "unknown error", .null⟩]] =
        [(⟨0, [row], none, 2⟩, ⟨.int 0, "unknown error", .null⟩),
          (⟨1, [row], none, 2⟩, ⟨.null, "unknown error", .null⟩)] := by
    simp [batches, hplan, paired]
  have hreportable : ∀ x ∈ paired batches
      [[⟨.int 0, "unknown error", .null⟩], [⟨.null, "unknown error", .null⟩]],
      Reportable x.1 x.2 := by
    rw [hentries]
    exact List.forall_mem_cons.2 ⟨.names ⟨0, by decide, rfl, rfl⟩,
      List.forall_mem_singleton.2 (.absent rfl)⟩
  refine ⟨hcomplete, hresponses, hindices, _, hread, hreportable, ?_⟩
  rcases hreported hreportable with ⟨hall, -⟩ | ⟨-, hcause⟩
  · rw [hentries] at hall
    obtain ⟨n, l, -, hcount, -⟩ := hall (⟨1, [row], none, 2⟩, ⟨.null, "unknown error", .null⟩) (by simp)
    simp [count?] at hcount
  · exact hcause

/-- An index that is a text is no reported fault of the service. -/
theorem ofReports_text_index :
    let row : Row := .mapping []
    let batches := (Batch.plan .standard [row] none).batches
    let response : Value := .list [.mapping [(.text "index", .text "0"), (.text "errors", .list [])]]
    (Batch.plan .standard [row] none).complete = .ok batches ∧ Response response ∧
      (∀ item ∈ itemsOf response, IsIndex (indexAt item)) ∧
      ∃ reports, [response].mapM ofResponse = .ok reports ∧
        ofReports [row] none batches reports = .error (.fault (.unordered "str")) := by
  intro row batches response
  have hsize : rowSize row = .ok 2 := rowSize_mapping_nil
  have hplan : Batch.plan .standard [row] none = ⟨[⟨0, [row], none, 2⟩], none⟩ := by
    simp [Batch.plan, Batch.planFrom, Batch.takeToken, hsize, Plan.after, Batch.Open.add,
      Batch.Open.close, Batch.Open.empty]
  have hread : [response].mapM ofResponse = .ok [[⟨.text "0", "unknown error", .null⟩]] := rfl
  refine ⟨by simp [batches, hplan, Plan.complete],
    .list (by simpa [response] using .mapping (.list (by simp))),
    List.forall_mem_singleton.2 (.name (.text "0")), _, hread, ?_⟩
  simp only [batches, hplan]
  rfl

end Outcome

end TableFeed
