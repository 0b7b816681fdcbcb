import TableFeed.Proofs.Outcome.Reports
import TableFeed.Proofs.Retry.Positions

/-!
# What the reports on the batches of a plan leave

The batches of a plan lie one behind the other, so that a place in a batch stands for one position of
the round and no two batches share a position.  `Outcome.Collects` says what the outcome of such
reports holds: a rejected row for each position that entries name, and every entry in the messages of
exactly one of them.

The main result is `Outcome.ofReports_of_plan`: reports whose indices are integers or absent are
collected in this way, or the first of them that names no row of its batch is refused.
-/

namespace TableFeed

namespace Outcome

open Position Rejection

variable {rows : List Row} {tokens : Option (List Writing)} {entries : List (Batch × Rejection)}
  {batches : List Batch} {reports : List (List Rejection)}

/-! ### The outcome of usable reports -/

lemma positions_naming (rows : List Row) (tokens : Option (List Writing))
    (entries : List (Batch × Rejection)) :
    (naming rows tokens entries).positions = namedPositions rows.length entries := by
  simp [positions, naming, rejectAt, Function.comp_def]

/-- What usable reports say fits the rows of the round. -/
lemma fits_naming (rows : List Row) (tokens : Option (List Writing))
    (entries : List (Batch × Rejection)) : (naming rows tokens entries).Fits rows tokens where
  tokened_eq := rfl
  nodup := by
    rw [positions_naming]
    exact (pairwise_namedPositions _ _).imp fun h => ne_of_lt h
  within n hn := by
    rw [positions_naming] at hn
    exact (mem_namedPositions.1 hn).1
  row_eq r hr := by
    obtain ⟨n, hn, rfl⟩ := List.mem_map.1 hr
    obtain ⟨row, -, hrow⟩ := (mem_namedPositions.1 hn).1.exists_item
    simp [rejectAt, hrow]
  token_eq r hr := by
    obtain ⟨n, -, rfl⟩ := List.mem_map.1 hr
    rfl

/-- A position is named by an entry that gives it. -/
lemma mem_named_iff {n : Int} :
    n ∈ (named entries).map Prod.fst ↔ ∃ x ∈ entries, x.2.position? x.1 = some n := by
  simp only [named, List.mem_map, List.mem_filterMap, Option.map_eq_some_iff]
  constructor
  · rintro ⟨_, ⟨x, hx, m, hm, rfl⟩, rfl⟩
    exact ⟨x, hx, hm⟩
  · rintro ⟨x, hx, hn⟩
    exact ⟨_, ⟨x, hx, n, hn, rfl⟩, rfl⟩

/-- What was said of a position is what the entries that give it say, in order. -/
lemma saidOf_eq (entries : List (Batch × Rejection)) (n : Int) :
    saidOf entries n =
      (entries.filter fun x => x.2.position? x.1 = some n).map fun x => x.2.message := by
  unfold saidOf named
  induction entries with
  | nil => rfl
  | cons x rest ih =>
      rcases hx : x.2.position? x.1 with _ | m
      · rw [List.filterMap_cons_none (by rw [hx]; rfl), List.filter_cons_of_neg (by simp [hx]), ih]
      · rw [List.filterMap_cons_some (by rw [hx]; rfl)]
        by_cases hm : n = m
        · subst hm
          rw [List.filter_cons_of_pos (by simp), List.filter_cons_of_pos (by simp [hx]),
            List.map_cons, List.map_cons, ih]
        · rw [List.filter_cons_of_neg (by simpa using hm),
            List.filter_cons_of_neg (by simpa [hx] using Ne.symm hm), ih]

/-- Usable entries lose nothing when they are taken for positions with messages. -/
lemma map_snd_named (h : ∀ x ∈ entries, x.2.Usable x.1) :
    (named entries).map Prod.snd = entries.map fun x => x.2.message := by
  induction entries with
  | nil => rfl
  | cons x rest ih =>
      obtain ⟨l, -, hl⟩ := (h x (by simp)).position?_eq
      rw [named, List.filterMap_cons_some (by rw [hl]; rfl), List.map_cons, List.map_cons,
        ← ih fun y hy => h y (by simp [hy])]
      rfl

/-- Items that are gathered by their keys are the items, in another order. -/
lemma flatMap_filter_perm {α κ : Type} [BEq κ] [LawfulBEq κ] {key : α → κ} {keys : List κ}
    (hnodup : keys.Nodup) {items : List α} (hkeys : ∀ a ∈ items, key a ∈ keys) :
    (keys.flatMap fun k => items.filter fun a => k == key a).Perm items := by
  induction keys generalizing items with
  | nil =>
      have hnil : items = [] := List.eq_nil_iff_forall_not_mem.2 fun a ha => by
        simpa using hkeys a ha
      simp [hnil]
  | cons k keys ih =>
      obtain ⟨hk, hnodup'⟩ := List.nodup_cons.1 hnodup
      -- the other keys find the same items when those of the first key are taken out
      have hothers : (keys.flatMap fun k' => items.filter fun a => k' == key a) =
          keys.flatMap fun k' => (items.filter fun a => !(k == key a)).filter
            fun a => k' == key a := by
        refine List.flatMap_congr fun k' hk' => ?_
        rw [List.filter_filter]
        refine List.filter_congr fun a _ => ?_
        by_cases ha : k' = key a
        · have hne : k ≠ key a := fun h => hk (by rwa [h, ← ha])
          simp [ha, hne]
        · simp [ha]
      have hrest : ∀ a ∈ items.filter fun a => !(k == key a), key a ∈ keys := by
        intro a ha
        obtain ⟨hmem, hne⟩ := List.mem_filter.1 ha
        have hne' : key a ≠ k := by
          rintro rfl
          simp at hne
        exact (List.mem_cons.1 (hkeys a hmem)).resolve_left hne'
      rw [List.flatMap_cons, hothers]
      exact ((ih hnodup' hrest).append_left _).trans (List.filter_append_perm _ _)

/-! ### Reports on batches that cut the rows -/

/-- An entry is about one of the batches. -/
lemma mem_of_paired {x : Batch × Rejection} (h : x ∈ paired batches reports) :
    x.1 ∈ batches ∧ ∃ report ∈ reports, x.2 ∈ report := by
  obtain ⟨⟨b, report⟩, hmem, hx⟩ := List.mem_flatMap.1 h
  obtain ⟨r, hr, rfl⟩ := List.mem_map.1 hx
  obtain ⟨hb, hreport⟩ := List.of_mem_zip hmem
  exact ⟨hb, report, hreport, hr⟩

/-- With a report for each batch, the entries are those of all reports. -/
lemma map_snd_paired (h : reports.length = batches.length) :
    (paired batches reports).map Prod.snd = reports.flatten := by
  have hsnd : (batches.zip reports).map Prod.snd = reports := List.map_snd_zip h.le
  rw [paired, List.map_flatMap]
  conv_rhs => rw [← hsnd, ← List.flatMap_id, List.flatMap_map]
  refine List.flatMap_congr fun x _ => ?_
  simp [Function.comp_def]

/-- The positions that usable entries name lie within the round, if its batches cut its rows. -/
lemma within_of_cuts (hcuts : Batch.Cuts 0 rows tokens batches)
    (hbatches : ∀ x ∈ entries, x.1 ∈ batches) (husable : ∀ x ∈ entries, x.2.Usable x.1) :
    ∀ n ∈ (named entries).map Prod.fst, Position.Within rows.length n := by
  intro n hn
  obtain ⟨x, hx, hname⟩ := mem_named_iff.1 hn
  obtain ⟨l, hl, hposition⟩ := (husable x hx).position?_eq
  obtain ⟨m, hstart, hle, -, -⟩ := hcuts.of_mem (hbatches x hx)
  rw [hposition, hstart] at hname
  obtain rfl := Option.some.inj hname
  exact ⟨0 + m + l, by omega, rfl⟩

/-- An outcome that collects the reports on the batches of a round. -/
structure Collects (rows : List Row) (tokens : Option (List Writing)) (batches : List Batch)
    (reports : List (List Rejection)) (o : Outcome) : Prop where
  ascending : o.positions.Pairwise (· < ·)
  mem_iff : ∀ n, n ∈ o.positions ↔ ∃ x ∈ paired batches reports, x.2.position? x.1 = some n
  within : ∀ n ∈ o.positions, Position.Within rows.length n
  rows_picked : Picks o.positions rows o.rows
  tokens_picked : Option.Rel (Picks o.positions) tokens o.tokens
  messages_eq : ∀ r ∈ o.rejects, r.messages = ((paired batches reports).filter
    fun x => x.2.position? x.1 = some r.position).map fun x => x.2.message
  messages_perm : (o.rejects.flatMap Reject.messages).Perm (reports.flatten.map Rejection.message)
  entries_eq : o.entries = reports.flatten
  succeeded_iff : o.succeeded = true ↔ reports.flatten = []

/-- Usable reports on batches that cut the rows are collected.  Tokens to spare do no harm. -/
lemma collects_of_covering (hcuts : Batch.Cuts 0 rows tokens batches)
    (htokens : Covering rows tokens)
    (hlength : reports.length = batches.length)
    (husable : ∀ x ∈ paired batches reports, x.2.Usable x.1) :
    (naming rows tokens (paired batches reports)).Collects rows tokens batches reports := by
  set entries := paired batches reports with hentries
  have hfits := fits_naming rows tokens entries
  have hall : entries.map Prod.snd = reports.flatten := map_snd_paired hlength
  have hwithin := within_of_cuts hcuts (fun x hx => (mem_of_paired hx).1) husable
  have hmessages : (named entries).map Prod.snd = reports.flatten.map Rejection.message := by
    rw [map_snd_named husable, ← hall, List.map_map]
    rfl
  have hmem : ∀ n, n ∈ namedPositions rows.length entries ↔
      ∃ x ∈ entries, x.2.position? x.1 = some n := by
    intro n
    rw [mem_namedPositions, ← mem_named_iff]
    exact and_iff_right_of_imp (hwithin n)
  refine ⟨?_, ?_, hfits.within, hfits.picks_rows, hfits.picks_tokens htokens, ?_, ?_, hall, ?_⟩
  · rw [positions_naming]
    exact pairwise_namedPositions _ _
  · rw [positions_naming]
    exact hmem
  · intro r hr
    obtain ⟨n, -, rfl⟩ := List.mem_map.1 hr
    exact saidOf_eq entries n
  · -- the messages of the rows are the named ones, gathered by their positions
    have hgathered : (naming rows tokens entries).rejects.flatMap Reject.messages =
        ((namedPositions rows.length entries).flatMap
          fun n => (named entries).filter fun e => n == e.1).map Prod.snd := by
      rw [naming, List.flatMap_map, List.map_flatMap]
      rfl
    have hperm : ((namedPositions rows.length entries).flatMap
        fun n => (named entries).filter fun e => n == e.1).Perm (named entries) :=
      flatMap_filter_perm ((pairwise_namedPositions rows.length entries).imp fun h => ne_of_lt h)
        fun e he => mem_namedPositions.2
          ⟨hwithin _ (List.mem_map_of_mem he), List.mem_map_of_mem he⟩
    rw [hgathered, ← hmessages]
    exact hperm.map Prod.snd
  · rw [succeeded, naming, List.isEmpty_iff, List.map_eq_nil_iff, ← hall, List.map_eq_nil_iff]
    constructor
    · intro hnone
      refine List.eq_nil_iff_forall_not_mem.2 fun x hx => ?_
      obtain ⟨l, -, hposition⟩ := (husable x hx).position?_eq
      have := (hmem _).2 ⟨x, hx, hposition⟩
      simp [hnone] at this
    · intro hnone
      refine List.eq_nil_iff_forall_not_mem.2 fun n hn => ?_
      obtain ⟨x, hx, -⟩ := (hmem n).1 hn
      simp [hnone] at hx

lemma collects_naming (hcuts : Batch.Cuts 0 rows tokens batches) (htokens : Matching rows tokens)
    (hlength : reports.length = batches.length)
    (husable : ∀ x ∈ paired batches reports, x.2.Usable x.1) :
    (naming rows tokens (paired batches reports)).Collects rows tokens batches reports :=
  collects_of_covering hcuts htokens.covering hlength husable

/-- Reports on the batches of a plan, whose indices are integers or absent, are collected if every
entry names a row of its batch.  Otherwise the first one that does not is refused; it is refused as
such unless its index has too many digits to be written, for then it is the writing of it that
fails. -/
theorem ofReports_of_plan (limits : BatchLimits) (hsized : Sized rows)
    (htokens : Matching rows tokens)
    (hlength : reports.length = (Batch.plan limits rows tokens).batches.length)
    (hplain : ∀ report ∈ reports, ∀ r ∈ report, r.Plain) :
    let batches := (Batch.plan limits rows tokens).batches
    (Batch.plan limits rows tokens).complete = .ok batches ∧
      ((∀ x ∈ paired batches reports, x.2.Usable x.1) →
        ∃ o, ofReports rows tokens batches reports = .ok o ∧
          o.Collects rows tokens batches reports) ∧
      ((¬ ∀ x ∈ paired batches reports, x.2.Usable x.1) →
        ∃ before b r after, paired batches reports = before ++ (b, r) :: after ∧
          (∀ x ∈ before, x.2.Usable x.1) ∧ ¬ r.Usable b ∧
          ofReports rows tokens batches reports =
            .error (refusal b (before.map Prod.snd).reverse r) ∧
          (r.index.isTooLong = false →
            ∃ cause, ofReports rows tokens batches reports = .error (.report cause)) ∧
          (r.index.isTooLong = true →
            ofReports rows tokens batches reports = .error (.fault .unwritable))) := by
  intro batches
  obtain ⟨hcomplete, hcuts⟩ := Batch.plan_cuts limits hsized htokens
  refine ⟨hcomplete, fun husable => ?_, fun hunusable => ?_⟩
  · have hwithin := within_of_cuts hcuts (fun x hx => (mem_of_paired hx).1) husable
    exact ⟨_, ofReports_of_usable htokens husable hwithin,
      collects_naming hcuts htokens hlength husable⟩
  · obtain ⟨before, ⟨b, r⟩, after, hsplit, hbefore, hr⟩ := exists_first_unusable hunusable
    have hmem : (b, r) ∈ paired batches reports := by simp [hsplit]
    obtain ⟨-, report, hreport, hmem'⟩ := mem_of_paired hmem
    have hplain' := hplain report hreport r hmem'
    have hrefused : ofReports rows tokens batches reports =
        .error (refusal b (before.map Prod.snd).reverse r) :=
      ofReports_of_unusable hsplit hbefore hplain' hr
    refine ⟨before, b, r, after, hsplit, hbefore, hr, hrefused, fun hshort => ?_, fun hlong => ?_⟩
    · obtain ⟨cause, hcause⟩ := refusal_eq_report hshort b (before.map Prod.snd).reverse
      exact ⟨cause, by rw [hrefused, hcause]⟩
    · rw [hrefused, refusal_eq_fault hplain' hlong]

/-- Three rows in two batches.  The second row is reported twice and the third one once, though it is
the first one of its batch. -/
theorem ofReports_of_plan_repeated :
    let row : Row := .mapping []
    let rows := [row, row, row]
    let tokens : Option (List Writing) := some ["x", "y", "z"]
    let limits : BatchLimits := ⟨64 * 1024, 2⟩
    let batches := (Batch.plan limits rows tokens).batches
    let reports : List (List Rejection) := [[⟨.int 1, "b", .null⟩, ⟨.int 1, "a", .null⟩],
      [⟨.int 0, "b", .null⟩]]
    Sized rows ∧ Matching rows tokens ∧ reports.length = batches.length ∧
      (∀ report ∈ reports, ∀ r ∈ report, r.Plain) ∧
      ∃ o, ofReports rows tokens batches reports = .ok o ∧
        o.Collects rows tokens batches reports ∧ o.positions = [1, 2] := by
  intro row rows tokens limits batches reports
  have hsize : rowSize row = .ok 2 := rowSize_mapping_nil
  have hsized : Sized rows := by
    intro row' hrow
    obtain rfl : row' = row := by simpa [rows] using hrow
    exact ⟨2, hsize⟩
  have htokens : Matching rows tokens := by
    intro ts hts
    obtain rfl := Option.some.inj hts
    rfl
  have hbatches : batches =
      [⟨0, [row, row], some ["x", "y"], 4⟩, ⟨2, [row], some ["z"], 2⟩] := by
    simp [batches, Batch.plan, Batch.planFrom, Batch.takeToken, hsize, BatchLimits.reached,
      Plan.after, Batch.Open.add, Batch.Open.close, Batch.Open.empty, limits, rows, tokens]
  have hlength : reports.length = batches.length := by rw [hbatches]; rfl
  have hplain : ∀ report ∈ reports, ∀ r ∈ report, r.Plain := by simp [reports, Plain]
  have hentries : paired batches reports =
      [(⟨0, [row, row], some ["x", "y"], 4⟩, ⟨.int 1, "b", .null⟩),
        (⟨0, [row, row], some ["x", "y"], 4⟩, ⟨.int 1, "a", .null⟩),
        (⟨2, [row], some ["z"], 2⟩, ⟨.int 0, "b", .null⟩)] := by
    rw [hbatches]
    rfl
  obtain ⟨-, hcollected, -⟩ := ofReports_of_plan limits hsized htokens hlength hplain
  obtain ⟨o, ho, hcollects⟩ := hcollected (by
    rw [hentries]
    simp only [List.forall_mem_cons, List.not_mem_nil, false_imp_iff, implies_true, and_true]
    exact ⟨⟨1, by decide, rfl⟩, ⟨1, by decide, rfl⟩, 0, by decide, rfl⟩)
  refine ⟨hsized, htokens, hlength, hplain, o, ho, hcollects, ?_⟩
  refine hcollects.ascending.eq_of_mem_iff (by decide) fun n => ?_
  rw [hcollects.mem_iff, hentries]
  simp [position?, index?, eq_comm]

/-- If the only entry of all reports is not usable, and its index has too many digits to be written,
then it is that which fails. -/
lemma ofReports_of_isTooLong {b : Batch} {r : Rejection} (hplain : r.Plain)
    (hunusable : ¬ r.Usable b) (hlong : r.index.isTooLong = true) :
    ofReports rows tokens [b] [[r]] = .error (.fault .unwritable) := by
  have hpaired : paired [b] [[r]] = [] ++ (b, r) :: [] := rfl
  rw [ofReports_of_unusable hpaired (by simp) hplain hunusable, refusal_eq_fault hplain hlong]

/-- An entry whose index has too many digits to be written is not refused as a report. -/
theorem ofReports_of_plan_long :
    let rows : List Row := [.mapping []]
    let batches := (Batch.plan ⟨64 * 1024, 500⟩ rows none).batches
    let r : Rejection := ⟨.int (Int.ofNat (Nat.pow 10 Number.digitLimit)), "bad", .null⟩
    Sized rows ∧ [[r]].length = batches.length ∧ r.Plain ∧ (∀ b ∈ batches, ¬ r.Usable b) ∧
      ofReports rows none batches [[r]] = .error (.fault .unwritable) := by
  intro rows batches r
  have hsize : rowSize (.mapping []) = .ok 2 := rowSize_mapping_nil
  have hbatches : batches = [⟨0, rows, none, 2⟩] := by
    simp [batches, Batch.plan, Batch.planFrom, Batch.takeToken, hsize, Plan.after, Batch.Open.add,
      Batch.Open.close, Batch.Open.empty, rows]
  have hlong : r.index.isTooLong = true := by decide +kernel
  have hplain : r.Plain := .inr ⟨_, rfl⟩
  have hunusable : ¬ r.Usable ⟨0, rows, none, 2⟩ := not_usable_of_le rfl (by decide +kernel)
  refine ⟨fun row hrow => ⟨2, by rw [List.mem_singleton.1 hrow, hsize]⟩, by rw [hbatches]; rfl,
    hplain, by rw [hbatches]; exact List.forall_mem_singleton.2 hunusable, ?_⟩
  rw [hbatches]
  exact ofReports_of_isTooLong hplain hunusable hlong

end Outcome

end TableFeed
