import TableFeed.Proofs.Table.Picks
import TableFeed.Table.Outcome

/-!
# From reports to the rejected rows of a round

An entry of a report that gives a place in its batch names a position of the round, and says
something about the row at that position.  `Outcome.named` lists the positions that entries name;
the outcome of a round has one rejected row for each of them, in ascending order, with everything
that was said of it.

The main results are

* `Outcome.ofReports_of_usable`: if every entry names a row of the round, the outcome is the one
  that `Outcome.naming` describes;
* `Outcome.ofReports_of_unusable`: otherwise the reports are refused.
-/

namespace TableFeed

namespace Rejection

/-- The index, if it is an integer. -/
def index? (r : Rejection) : Option Int :=
  match r.index with
  | .int n => some n
  | _ => none

/-- The position in the round that an entry of the report on a batch names. -/
def position? (b : Batch) (r : Rejection) : Option Int := r.index?.map (b.start + ·)

/-- An entry whose index is absent or an integer. -/
def Plain (r : Rejection) : Prop := r.index = .null ∨ ∃ n, r.index = .int n

/-- An entry that names a row of its batch. -/
def Usable (b : Batch) (r : Rejection) : Prop := ∃ l < b.rows.length, r.index = .int (l : Nat)

lemma Usable.position?_eq {b : Batch} {r : Rejection} (h : r.Usable b) :
    ∃ l < b.rows.length, r.position? b = some (b.start + (l : Nat)) := by
  obtain ⟨l, hl, hindex⟩ := h
  exact ⟨l, hl, by simp [position?, index?, hindex]⟩

/-- An index behind the rows of a batch names none of them. -/
lemma not_usable_of_le {b : Batch} {r : Rejection} {n : Nat} (hindex : r.index = .int (Int.ofNat n))
    (hle : b.rows.length ≤ n) : ¬ r.Usable b := by
  rintro ⟨l, hl, hindex'⟩
  have : n = l := Int.ofNat.inj (Value.int.inj (hindex.symm.trans hindex'))
  omega

end Rejection

namespace Outcome

open Rejection

variable {rows : List Row} {tokens : Option (List Writing)} {entries : List (Batch × Rejection)}

/-- The positions in the round that entries name, each with what an entry said of it. -/
def named (entries : List (Batch × Rejection)) : List (Int × Writing) :=
  entries.filterMap fun x => (x.2.position? x.1).map (·, x.2.message)

/-- Everything that was said of a position, in order. -/
def saidOf (entries : List (Batch × Rejection)) (n : Int) : List Writing :=
  ((named entries).filter fun e => n == e.1).map Prod.snd

/-- The positions of the round that were named, in ascending order. -/
def namedPositions (count : Nat) (entries : List (Batch × Rejection)) : List Int :=
  ((List.range count).map Int.ofNat).filter fun n => (named entries).any fun e => n == e.1

/-- The rejected row at a position. -/
def rejectAt (rows : List Row) (tokens : Option (List Writing))
    (entries : List (Batch × Rejection)) (n : Int) : Reject :=
  ⟨n, (Position.item? rows n).getD .null, tokens.bind (Position.item? · n), saidOf entries n⟩

/-- The outcome of a round in which the entries of the reports name the rejected rows. -/
def naming (rows : List Row) (tokens : Option (List Writing))
    (entries : List (Batch × Rejection)) : Outcome :=
  ⟨(namedPositions rows.length entries).map (rejectAt rows tokens entries), tokens.isSome,
    entries.map Prod.snd⟩

lemma mem_namedPositions {count : Nat} {n : Int} : n ∈ namedPositions count entries ↔
    Position.Within count n ∧ n ∈ (named entries).map Prod.fst := by
  simp only [namedPositions, List.mem_filter, List.mem_map, List.mem_range, List.any_eq_true,
    beq_iff_eq]
  constructor
  · rintro ⟨⟨m, hm, rfl⟩, e, he, heq⟩
    exact ⟨⟨m, hm, rfl⟩, e, he, heq.symm⟩
  · rintro ⟨⟨m, hm, rfl⟩, e, he, heq⟩
    exact ⟨⟨m, hm, rfl⟩, e, he, heq.symm⟩

lemma pairwise_namedPositions (count : Nat) (entries : List (Batch × Rejection)) :
    (namedPositions count entries).Pairwise (· < ·) :=
  (Position.pairwise_range count).filter _

/-! ### Finding the entries -/

lemma locate_of_usable {b : Batch} {r : Rejection} (before : List Rejection) (h : r.Usable b) :
    ∃ n, r.position? b = some n ∧ locate b before r = .ok (.row n, r.message) := by
  obtain ⟨l, hl, hindex⟩ := h
  refine ⟨b.start + l, by simp [position?, index?, hindex], ?_⟩
  unfold locate
  simp only [hindex, Value.number?]
  have hq : (0 : Rat) ≤ ((l : Int) : Rat) ∧ ((l : Int) : Rat) < (b.rows.length : Rat) := by
    constructor
    · positivity
    · exact_mod_cast hl
  rw [if_pos hq]
  simp [placeOf, Except.map]

lemma locateAll_of_usable (before : List Rejection) (h : ∀ x ∈ entries, x.2.Usable x.1) :
    locateAll before entries = .ok ((named entries).map fun e => (Place.row e.1, e.2)) := by
  induction entries generalizing before with
  | nil => rfl
  | cons x rest ih =>
      obtain ⟨b, r⟩ := x
      obtain ⟨n, hposition, hlocate⟩ := locate_of_usable before (h (b, r) (by simp))
      have hrest := ih (r :: before) fun x hx => h x (by simp [hx])
      simp [locateAll, hlocate, hrest, named, hposition, bind, Except.bind]

/-! ### One rejected row for each position -/

lemma eraseDupsBy_map {α β : Type} {f : α → β} {r : α → α → Bool} {s : β → β → Bool}
    (h : ∀ a b, s (f a) (f b) = r a b) (l : List α) :
    (l.map f).eraseDupsBy s = (l.eraseDupsBy r).map f := by
  induction hn : l.length using Nat.strong_induction_on generalizing l with
  | _ n ih =>
      cases l with
      | nil => rfl
      | cons a rest =>
          have hlt : (rest.filter fun b => r b a = false).length < n := by
            have := List.length_filter_le (fun b => decide (r b a = false)) rest
            simp only [List.length_cons] at hn
            omega
          rw [List.map_cons, List.eraseDupsBy_cons, List.eraseDupsBy_cons, List.map_cons,
            List.filter_map, ← ih _ hlt _ rfl]
          simp [Function.comp_def, h]

lemma nodup_eraseDups {α : Type} [BEq α] [LawfulBEq α] (l : List α) : l.eraseDups.Nodup := by
  induction hn : l.length using Nat.strong_induction_on generalizing l with
  | _ n ih =>
      cases l with
      | nil => simp
      | cons a rest =>
          have hlt : (rest.filter fun b => !b == a).length < n := by
            have := List.length_filter_le (fun b => !b == a) rest
            simp only [List.length_cons] at hn
            omega
          rw [List.eraseDups_cons, List.nodup_cons]
          exact ⟨by simp, ih _ hlt _ rfl⟩

/-- The positions that were named, each once and sorted, are those of the round that were named. -/
lemma mergeSort_eraseDups {count : Nat}
    (hrange : ∀ n ∈ (named entries).map Prod.fst, Position.Within count n) :
    ((named entries).map Prod.fst).eraseDups.mergeSort (· ≤ ·) = namedPositions count entries := by
  set ns := (named entries).map Prod.fst with hns
  have hperm := List.mergeSort_perm ns.eraseDups fun m n : Int => decide (m ≤ n)
  have hsorted : (ns.eraseDups.mergeSort fun m n : Int => decide (m ≤ n)).Pairwise (· < ·) := by
    have hle : (ns.eraseDups.mergeSort fun m n : Int => decide (m ≤ n)).Pairwise (· ≤ ·) := by
      have htrans : ∀ a b c : Int, decide (a ≤ b) = true → decide (b ≤ c) = true →
          decide (a ≤ c) = true := fun a b c hab hbc => by simp at *; omega
      have htotal : ∀ a b : Int, (decide (a ≤ b) || decide (b ≤ a)) = true :=
        fun a b => by simp; omega
      simpa using List.pairwise_mergeSort htrans htotal ns.eraseDups
    have hnodup := hperm.symm.nodup (nodup_eraseDups ns)
    exact hle.imp₂ (fun a b hab hne => lt_of_le_of_ne hab hne) hnodup
  -- both lists ascend, so it is enough that they have the same members
  refine List.Pairwise.eq_of_mem_iff hsorted (pairwise_namedPositions count entries) fun n => ?_
  rw [hperm.mem_iff, List.mem_eraseDups, mem_namedPositions, ← hns]
  exact ⟨fun hn => ⟨hrange n hn, hn⟩, fun hn => hn.2⟩

lemma mapM_eq_ok {ε α β : Type} {f : α → Except ε β} {g : α → β} {l : List α}
    (h : ∀ a ∈ l, f a = .ok (g a)) : l.mapM f = .ok (l.map g) := by
  induction l with
  | nil => rfl
  | cons a rest ih =>
      rw [List.mapM_cons, h a (by simp), ih fun b hb => h b (by simp [hb])]
      rfl

/-- The row at a position of the round is fetched with its token, whatever was said of it. -/
lemma fetch_row (htokens : ∀ ts, tokens = some ts → rows.length ≤ ts.length) {m : Nat}
    (hm : m < rows.length) (found : List (Place × Writing)) :
    fetch rows tokens found (.row (Int.ofNat m)) =
      .ok ⟨Int.ofNat m, rows[m], tokens.bind (Position.item? · (Int.ofNat m)),
        (found.filter fun e => (Place.row (Int.ofNat m)).same e.1).map Prod.snd⟩ := by
  have hrow : Position.item rows (Int.ofNat m) = .ok rows[m] := Position.item_natCast hm
  unfold fetch
  cases tokens with
  | none => simp only [Place.position, hrow, Option.bind_none, bind, Except.bind]
  | some ts =>
      have hm' : m < ts.length := hm.trans_le (htokens ts rfl)
      have htoken : Position.item ts (Int.ofNat m) = .ok ts[m] := Position.item_natCast hm'
      have htokenAt : Position.item? ts (Int.ofNat m) = some ts[m] := by
        simp [Position.item?, List.getElem?_eq_getElem hm']
      simp only [Place.position, hrow, htoken, htokenAt, Option.bind_some, bind, Except.bind,
        Except.map]

/-- The row at a position that was named is fetched with everything that was said of it. -/
lemma fetch_named (htokens : ∀ ts, tokens = some ts → rows.length ≤ ts.length) {m : Nat}
    (hm : m < rows.length) :
    fetch rows tokens ((named entries).map fun e => (Place.row e.1, e.2)) (.row (Int.ofNat m)) =
      .ok (rejectAt rows tokens entries (Int.ofNat m)) := by
  have hsaid : ((((named entries).map fun e => (Place.row e.1, e.2)).filter
      fun e => (Place.row (Int.ofNat m)).same e.1).map Prod.snd) =
      saidOf entries (Int.ofNat m) := by
    rw [saidOf, List.filter_map, List.map_map]
    rfl
  have hrowAt : (Position.item? rows (Int.ofNat m)).getD .null = rows[m] := by
    simp [Position.item?, List.getElem?_eq_getElem hm]
  rw [fetch_row htokens hm, rejectAt, hsaid, hrowAt]

/-- If every entry names a row of its batch, and the batches lie within the round, then the outcome
has one rejected row for each position that was named.  There may be tokens to spare. -/
theorem ofReports_of_covered {batches : List Batch} {reports : List (List Rejection)}
    (htokens : ∀ ts, tokens = some ts → rows.length ≤ ts.length)
    (husable : ∀ x ∈ paired batches reports, x.2.Usable x.1)
    (hrange : ∀ n ∈ (named (paired batches reports)).map Prod.fst,
      Position.Within rows.length n) :
    ofReports rows tokens batches reports = .ok (naming rows tokens (paired batches reports)) := by
  set entries := paired batches reports with hentries
  have hlocate := locateAll_of_usable [] husable
  -- every place is a row, so that doubles are dropped and places are sorted by the positions alone
  have hplaces : (((named entries).map fun e => (Place.row e.1, e.2)).map Prod.fst).eraseDupsBy
      Place.same = (((named entries).map Prod.fst).eraseDups).map Place.row := by
    rw [List.eraseDups,
      ← eraseDupsBy_map (f := Place.row) (r := fun m n => m == n) (s := Place.same) fun _ _ => rfl]
    simp [Function.comp_def]
  have hsorted : ((((named entries).map Prod.fst).eraseDups).map Place.row).mergeSort
      Place.notAfter = (namedPositions rows.length entries).map Place.row := by
    rw [← mergeSort_eraseDups hrange]
    exact (List.map_mergeSort (r := fun m n : Int => decide (m ≤ n)) (f := Place.row)
      (s := Place.notAfter) fun _ _ _ _ => rfl).symm
  have hfetch : ((namedPositions rows.length entries).map Place.row).mapM
      (fetch rows tokens ((named entries).map fun e => (Place.row e.1, e.2))) =
        .ok ((namedPositions rows.length entries).map (rejectAt rows tokens entries)) := by
    rw [List.mapM_map]
    refine mapM_eq_ok fun n hn => ?_
    obtain ⟨⟨m, hm, rfl⟩, -⟩ := mem_namedPositions.1 hn
    exact fetch_named htokens hm
  unfold ofReports
  simp only [← hentries, hlocate, bind, Except.bind]
  rw [hplaces, hsorted, hfetch]
  rfl

theorem ofReports_of_usable {batches : List Batch} {reports : List (List Rejection)}
    (htokens : ∀ ts, tokens = some ts → ts.length = rows.length)
    (husable : ∀ x ∈ paired batches reports, x.2.Usable x.1)
    (hrange : ∀ n ∈ (named (paired batches reports)).map Prod.fst,
      Position.Within rows.length n) :
    ofReports rows tokens batches reports = .ok (naming rows tokens (paired batches reports)) :=
  ofReports_of_covered (fun ts hts => (htokens ts hts).ge) husable hrange

/-! ### Reports that are refused -/

/-- How an entry that names no row of its batch is refused, after the entries before it, the last
one first. -/
def refusal (b : Batch) (before : List Rejection) (r : Rejection) : Failure :=
  match r.index with
  | .int n =>
    if Number.exceedsDigitLimit n then .fault .unwritable
    else .report (.outside (.int n) b.start b.rows.length r.message)
  | _ => .report (.unindexed b.start (r :: before).reverse)

/-- A report is refused as such, or because an index in it is too long to be written. -/
lemma refusal_eq (b : Batch) (before : List Rejection) (r : Rejection) :
    (∃ cause, refusal b before r = .report cause) ∨ refusal b before r = .fault .unwritable := by
  unfold refusal
  split
  · split
    · exact .inr rfl
    · exact .inl ⟨_, rfl⟩
  · exact .inl ⟨_, rfl⟩

/-- It is refused as such if its index can be written. -/
lemma refusal_eq_report {r : Rejection} (h : r.index.isTooLong = false) (b : Batch)
    (before : List Rejection) : ∃ cause, refusal b before r = .report cause := by
  unfold refusal
  split
  · next n hn =>
      rw [hn, Value.isTooLong] at h
      exact ⟨_, if_neg (by simp [h])⟩
  · exact ⟨_, rfl⟩

/-- Of an integer that cannot be written nothing can be told. -/
lemma refusal_eq_fault {r : Rejection} (hplain : r.Plain) (h : r.index.isTooLong = true) (b : Batch)
    (before : List Rejection) : refusal b before r = .fault .unwritable := by
  rcases hplain with hnull | ⟨n, hn⟩
  · simp [hnull, Value.isTooLong] at h
  · rw [hn, Value.isTooLong] at h
    simp [refusal, hn, h]

lemma locate_of_unusable {b : Batch} {r : Rejection} (before : List Rejection) (hplain : r.Plain)
    (h : ¬ r.Usable b) : locate b before r = .error (refusal b before r) := by
  rcases hplain with hnull | ⟨n, hn⟩
  · simp [locate, refusal, hnull]
  · have hq : ¬ ((0 : Rat) ≤ (n : Rat) ∧ (n : Rat) < (b.rows.length : Rat)) := by
      rintro ⟨hle, hlt⟩
      have hle' : 0 ≤ n := by exact_mod_cast hle
      have hlt' : n < b.rows.length := by exact_mod_cast hlt
      exact h ⟨n.toNat, by omega, by rw [hn, Int.toNat_of_nonneg hle']⟩
    simp only [locate, refusal, hn, Value.number?, if_neg hq, Value.isTooLong]
    split <;> rfl

/-- The first entry that names no row of its batch decides how the reports are refused. -/
theorem ofReports_of_unusable {batches : List Batch} {reports : List (List Rejection)}
    {before after : List (Batch × Rejection)} {x : Batch × Rejection}
    (hsplit : paired batches reports = before ++ x :: after)
    (hbefore : ∀ y ∈ before, y.2.Usable y.1) (hplain : x.2.Plain) (hx : ¬ x.2.Usable x.1) :
    ofReports rows tokens batches reports =
      .error (refusal x.1 (before.map Prod.snd).reverse x.2) := by
  -- what was located before an entry is told when it is refused, so it has to be carried along
  have hlocate : ∀ earlier : List Rejection, locateAll earlier (before ++ x :: after) =
      .error (refusal x.1 ((before.map Prod.snd).reverse ++ earlier) x.2) := by
    clear hsplit
    induction before with
    | nil =>
        intro earlier
        simp [locateAll, locate_of_unusable earlier hplain hx, bind, Except.bind]
    | cons y rest ih =>
        intro earlier
        obtain ⟨b, r⟩ := y
        obtain ⟨n, -, hfound⟩ := locate_of_usable earlier (hbefore (b, r) (by simp))
        have hrest := ih (fun y hy => hbefore y (by simp [hy])) (r :: earlier)
        simp [locateAll, hfound, hrest, bind, Except.bind]
  unfold ofReports
  simp only [hsplit, hlocate [], List.append_nil, bind, Except.bind]

/-- Among entries that do not all name a row of their batch there is a first one that does not. -/
lemma exists_first_unusable (h : ¬ ∀ x ∈ entries, x.2.Usable x.1) :
    ∃ before x after, entries = before ++ x :: after ∧ (∀ y ∈ before, y.2.Usable y.1) ∧
      ¬ x.2.Usable x.1 := by
  induction entries with
  | nil => simp at h
  | cons y rest ih =>
      by_cases hy : y.2.Usable y.1
      · have hrest : ¬ ∀ x ∈ rest, x.2.Usable x.1 := by
          intro hall
          apply h
          intro x hx
          rcases List.mem_cons.1 hx with rfl | hx
          · exact hy
          · exact hall x hx
        obtain ⟨before, x, after, rfl, hbefore, hx⟩ := ih hrest
        refine ⟨y :: before, x, after, rfl, ?_, hx⟩
        intro z hz
        rcases List.mem_cons.1 hz with rfl | hz
        · exact hy
        · exact hbefore z hz
      · exact ⟨[], y, rest, rfl, by simp, hy⟩

end Outcome

end TableFeed
