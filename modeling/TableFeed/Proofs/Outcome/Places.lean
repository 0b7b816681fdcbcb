import TableFeed.Proofs.Failure.Results
import TableFeed.Proofs.Outcome.Reports
import TableFeed.Proofs.Retry.Positions

/-!
# The rejected rows, whatever a report holds

The index of an entry is what the service sent.  If it is not an integer, the entry is refused, or
it is found at a place that is no row and fails when the row is fetched; a truth value, however,
counts as an integer.  `Rejection.Names` says which row of the round an entry names, and no more is
needed to tell what an outcome of a round is.

The main results are

* `Outcome.of_ofReports`: the rejected rows of an outcome are those that entries name, in ascending
  order and each once;
* `Outcome.isUnusable_of_ofReports`: which failures reports lead to.
-/

namespace TableFeed

namespace Rejection

/-- The integer that the index of an entry stands for, if it is one.  Truth values stand for one and
zero. -/
def count? (r : Rejection) : Option Int :=
  match r.index with
  | .int n => some n
  | .bool b => some (if b then 1 else 0)
  | _ => none

/-- An entry of the report on a batch that names the row at a position of the round. -/
def Names (b : Batch) (r : Rejection) (n : Int) : Prop :=
  ∃ l : Nat, l < b.rows.length ∧ r.count? = some (l : Int) ∧ n = b.start + l

end Rejection

/-! ### Places -/

namespace Place

lemma same_eq (p q : Place) : p.same q = (p.value == q.value) := by
  cases p <;> cases q <;> simp [same, value]

lemma notAfter_iff (p q : Place) : p.notAfter q = true ↔ p.value ≤ q.value := by
  rcases p with m | ⟨v, _⟩ <;> rcases q with n | ⟨u, _⟩
  · simp [notAfter, value]
  · exact decide_eq_true_iff
  · exact decide_eq_true_iff
  · exact decide_eq_true_iff

end Place

namespace Outcome

open Rejection

variable {rows : List Row} {tokens : Option (List Writing)} {found : List (Place × Writing)}

/-- A float is no place of a row. -/
lemma placeOf_float {start : Int} {x : Float} {q : Rat} {p : Place}
    (h : placeOf start (.float x) q = .ok p) : ∃ v kind, p = .number v kind := by
  unfold placeOf at h
  dsimp only at h
  split at h
  · simp at h
  · split at h
    · exact ⟨_, _, (Except.ok.inj h).symm⟩
    · exact ⟨_, _, (Except.ok.inj h).symm⟩

/-- An entry that is found has a number within its batch for an index, which tells its place. -/
lemma exists_of_locate {b : Batch} {before : List Rejection} {r : Rejection} {p : Place}
    {message : Writing} (h : locate b before r = .ok (p, message)) :
    ∃ q, r.index.number? = some (.finite q) ∧ 0 ≤ q ∧ q < b.rows.length ∧
      placeOf b.start r.index q = .ok p := by
  unfold locate at h
  dsimp only at h
  split at h
  · simp at h
  · split at h
    · next q hq =>
        split at h
        · next hwithin =>
            refine ⟨q, hq, hwithin.1, hwithin.2, ?_⟩
            rcases hplace : placeOf b.start r.index q with f | p'
            · simp [hplace, Except.map] at h
            · rw [hplace] at h
              simp [Except.map] at h
              rw [h.1]
        · split at h <;> simp at h
    · split at h <;> simp at h
    · split at h
      · split at h <;> simp at h
      · simp at h
      · simp at h

/-- An entry whose index counts as an integer is found at the place of a row. -/
lemma placeOf_of_count? {b : Batch} {r : Rejection} {q : Rat} {k : Int} (hk : r.count? = some k)
    (hq : r.index.number? = some (.finite q)) :
    q = k ∧ placeOf b.start r.index q = .ok (.row (b.start + k)) := by
  unfold count? at hk
  split at hk
  · next n hindex =>
      obtain rfl := Option.some.inj hk
      rw [hindex] at hq
      obtain rfl := Value.Extended.finite.inj (Option.some.inj hq)
      exact ⟨rfl, by simp [placeOf, hindex]⟩
  · next t hindex =>
      obtain rfl := Option.some.inj hk
      rw [hindex] at hq
      obtain rfl := Value.Extended.finite.inj (Option.some.inj hq)
      cases t <;> simp [placeOf, hindex]
  · simp at hk

/-- An entry is found at the place of a row if and only if it names that row. -/
lemma eq_row_iff_names {b : Batch} {before : List Rejection} {r : Rejection} {p : Place}
    {message : Writing} (h : locate b before r = .ok (p, message)) (n : Int) :
    p = .row n ↔ r.Names b n := by
  obtain ⟨q, hq, hle, hlt, hplace⟩ := exists_of_locate h
  rcases hk : r.count? with _ | k
  · -- a number that is no integer counts no rows
    have hno : ∃ v kind, p = .number v kind := by
      unfold count? at hk
      rcases hindex : r.index <;> rw [hindex] at hq hplace hk <;>
        simp only [Value.number?, reduceCtorEq] at hq hk
      · exact placeOf_float hplace
      · exact ⟨_, _, (Except.ok.inj hplace).symm⟩
    obtain ⟨v, kind, rfl⟩ := hno
    simp [Names, hk]
  · obtain ⟨rfl, hrow⟩ := placeOf_of_count? hk hq
    obtain rfl := Except.ok.inj (hrow.symm.trans hplace)
    have hle' : 0 ≤ k := by exact_mod_cast hle
    have hlt' : k < b.rows.length := by exact_mod_cast hlt
    simp only [Place.row.injEq, Names, hk, Option.some.injEq]
    constructor
    · rintro rfl
      exact ⟨k.toNat, by omega, by omega, by omega⟩
    · rintro ⟨l, -, rfl, rfl⟩
      rfl

/-- The rows at which entries are found are those that the entries name. -/
lemma row_mem_iff_names {before : List Rejection} {entries : List (Batch × Rejection)}
    (h : locateAll before entries = .ok found) (n : Int) :
    .row n ∈ found.map Prod.fst ↔ ∃ x ∈ entries, x.2.Names x.1 n := by
  induction entries generalizing before found with
  | nil =>
      obtain rfl := Except.ok.inj h
      simp
  | cons x rest ih =>
      obtain ⟨b, r⟩ := x
      obtain ⟨f, hf, h⟩ := exists_of_bind_eq_ok h
      obtain ⟨found', hfound, h⟩ := exists_of_bind_eq_ok h
      obtain rfl := Except.ok.inj h
      obtain ⟨p, message⟩ := f
      rw [List.map_cons, List.mem_cons, ih hfound, List.exists_mem_cons_iff,
        ← eq_row_iff_names hf n, eq_comm]

/-! ### One place for each value -/

lemma eraseDupsBy_subset {α : Type} (r : α → α → Bool) (l : List α) : l.eraseDupsBy r ⊆ l := by
  induction hn : l.length using Nat.strong_induction_on generalizing l with
  | _ n ih =>
      cases l with
      | nil => simp
      | cons a rest =>
          have hlt : (rest.filter fun b => r b a = false).length < n := by
            have := List.length_filter_le (fun b => decide (r b a = false)) rest
            simp only [List.length_cons] at hn
            omega
          rw [List.eraseDupsBy_cons]
          exact List.cons_subset_cons a
            (List.Subset.trans (ih _ hlt _ rfl) List.filter_sublist.subset)

/-- If the places that are left when doubles are dropped are places of rows, then, sorted, these
ascend, and they are all rows among the places. -/
lemma of_sorted {places : List Place} {positions : List Int}
    (h : (places.eraseDupsBy Place.same).mergeSort Place.notAfter = positions.map Place.row) :
    positions.Pairwise (· < ·) ∧ ∀ n, n ∈ positions ↔ Place.row n ∈ places := by
  set kept := places.eraseDupsBy Place.same with hkept
  have hvalues : kept.map Place.value = (places.map Place.value).eraseDups := by
    rw [List.eraseDups, hkept, eraseDupsBy_map fun a b => (Place.same_eq a b).symm]
  have hperm := List.mergeSort_perm kept Place.notAfter
  rw [h] at hperm
  have hle : positions.Pairwise (· ≤ ·) := by
    have htrans : ∀ a b c : Place, a.notAfter b = true → b.notAfter c = true →
        a.notAfter c = true := by
      simp only [Place.notAfter_iff]
      exact fun a b c => le_trans
    have htotal : ∀ a b : Place, (a.notAfter b || b.notAfter a) = true := by
      simp only [Bool.or_eq_true, Place.notAfter_iff]
      exact fun a b => le_total a.value b.value
    have hsorted := List.pairwise_mergeSort htrans htotal kept
    rw [h, List.pairwise_map] at hsorted
    simpa [Place.notAfter] using hsorted
  have hnodup : positions.Nodup := by
    have hdistinct : (kept.map Place.value).Nodup := hvalues ▸ nodup_eraseDups _
    rw [(hperm.map Place.value).symm.nodup_iff] at hdistinct
    exact (hdistinct.of_map _).of_map _
  refine ⟨hle.imp₂ (fun a b hab hne => lt_of_le_of_ne hab hne) hnodup, fun n => ?_⟩
  rw [show n ∈ positions ↔ Place.row n ∈ positions.map Place.row by simp, hperm.mem_iff]
  constructor
  · exact fun hn => eraseDupsBy_subset _ _ hn
  · intro hn
    -- some place of the same value is kept, and this can only be the place of the row itself
    have hvalue : (n : Rat) ∈ kept.map Place.value := by
      rw [hvalues, List.mem_eraseDups]
      exact List.mem_map.2 ⟨_, hn, rfl⟩
    obtain ⟨p, hp, hpn⟩ := List.mem_map.1 hvalue
    obtain ⟨m, -, rfl⟩ := List.mem_map.1 (hperm.mem_iff.2 hp)
    obtain rfl : m = n := by simpa [Place.value] using hpn
    exact hp

/-! ### The rows that are fetched -/

lemma item?_of_item {α : Type} {xs : List α} {n : Int} {x : α} (h : Position.item xs n = .ok x) :
    Position.item? xs n = some x := by
  rcases hx : Position.item? xs n with _ | y
  · simp [Position.item, hx] at h
  · simpa [Position.item, hx] using h

/-- What is fetched is the row at a place, with its token. -/
lemma of_fetch {p : Place} {r : Reject} (h : fetch rows tokens found p = .ok r) :
    p = .row r.position ∧ Position.item? rows r.position = some r.row ∧
      r.token = tokens.bind (Position.item? · r.position) := by
  obtain ⟨n, hn, h⟩ := exists_of_bind_eq_ok h
  obtain ⟨row, hrow, h⟩ := exists_of_bind_eq_ok h
  have hp : p = .row n := by
    cases p with
    | number v kind => simp [Place.position] at hn
    | row m => rw [Except.ok.inj hn]
  cases tokens with
  | none =>
      obtain rfl := Except.ok.inj h
      exact ⟨hp, item?_of_item hrow, rfl⟩
  | some ts =>
      obtain ⟨token, htoken, h⟩ := exists_of_bind_eq_ok h
      obtain rfl := Except.ok.inj h
      rcases ht : Position.item ts n with f | t
      · simp [ht, Except.map] at htoken
      · obtain rfl : some t = token := by simpa [ht, Except.map] using htoken
        exact ⟨hp, item?_of_item hrow, (item?_of_item ht).symm⟩

/-- The rows that are fetched are those at the places. -/
lemma of_mapM_fetch {places : List Place} {rejects : List Reject}
    (h : places.mapM (fetch rows tokens found) = .ok rejects) :
    places = rejects.map (Place.row ∘ Reject.position) ∧
      ∀ r ∈ rejects, Position.item? rows r.position = some r.row ∧
        r.token = tokens.bind (Position.item? · r.position) := by
  induction places generalizing rejects with
  | nil =>
      obtain rfl := Except.ok.inj h
      simp
  | cons p rest ih =>
      rw [List.mapM_cons] at h
      obtain ⟨r, hr, h⟩ := exists_of_bind_eq_ok h
      obtain ⟨rejects', hrest, h⟩ := exists_of_bind_eq_ok h
      obtain rfl := Except.ok.inj h
      obtain ⟨rfl, hrow, htoken⟩ := of_fetch hr
      obtain ⟨rfl, hall⟩ := ih hrest
      refine ⟨rfl, fun r' hr' => ?_⟩
      rcases List.mem_cons.1 hr' with rfl | hr'
      · exact ⟨hrow, htoken⟩
      · exact hall r' hr'

/-- An outcome of a round, whatever is in the reports on its batches: the rejected rows ascend, they
are those that entries of the reports name, and they are told with their tokens. -/
theorem of_ofReports {batches : List Batch} {reports : List (List Rejection)} {o : Outcome}
    (hstart : ∀ b ∈ batches, 0 ≤ b.start)
    (h : ofReports rows tokens batches reports = .ok o) :
    o.Fits rows tokens ∧ o.positions.Pairwise (· < ·) ∧
      ∀ n, n ∈ o.positions ↔ ∃ x ∈ paired batches reports, x.2.Names x.1 n := by
  obtain ⟨found, hfound, h⟩ := exists_of_bind_eq_ok h
  obtain ⟨rejects, hrejects, h⟩ := exists_of_bind_eq_ok h
  obtain rfl := Except.ok.inj h
  have hrejects' : (((found.map Prod.fst).eraseDupsBy Place.same).mergeSort Place.notAfter).mapM
      (fetch rows tokens found) = .ok rejects := by
    generalize List.mapM (fetch rows tokens found) _ = r at hrejects
    cases r with
    | error f => simp [liftFault, Except.mapError] at hrejects
    | ok _ => rw [Except.ok.inj hrejects]
  obtain ⟨hsorted, hfetched⟩ := of_mapM_fetch hrejects'
  rw [← List.map_map] at hsorted
  obtain ⟨hascending, hmem⟩ := of_sorted hsorted
  have hnames : ∀ n, n ∈ rejects.map Reject.position ↔
      ∃ x ∈ paired batches reports, x.2.Names x.1 n := fun n => by
    rw [hmem, row_mem_iff_names hfound]
  refine ⟨⟨rfl, hascending.imp fun h => ne_of_lt h, ?_, ?_, ?_⟩, hascending, hnames⟩
  · intro n hn
    obtain ⟨r, hr, hposition⟩ := List.mem_map.1 hn
    obtain ⟨⟨b, x⟩, hx, l, -, -, hl⟩ := (hnames n).1 hn
    obtain ⟨y, hy, hx⟩ := List.mem_flatMap.1 hx
    obtain ⟨x', -, hxy⟩ := List.mem_map.1 hx
    obtain rfl : y.1 = b := congrArg Prod.fst hxy
    have hle := hstart y.1 (List.of_mem_zip hy).1
    obtain ⟨m, rfl⟩ := Int.eq_ofNat_of_zero_le (a := n) (hl ▸ Int.add_nonneg hle (by omega))
    have hitem := (hfetched r hr).1
    rw [hposition, Position.item?_natCast] at hitem
    exact ⟨m, (List.getElem?_eq_some_iff.1 hitem).1, rfl⟩
  · exact fun r hr => (hfetched r hr).1
  · exact fun r hr => (hfetched r hr).2

/-! ### Reports that lead to failures -/

/-- A failure that reports lead to. -/
inductive IsUnusable : Failure → Prop where
  /-- An entry is refused. -/
  | report (cause : ReportFault) : IsUnusable (.report cause)
  /-- An index is not what a step needs. -/
  | fault (cause : Fault) : IsUnusable (.fault cause)
  /-- A place leaves the range of floats. -/
  | overflow (cause : Overflow) : IsUnusable (.overflow cause)

lemma isUnusable_of_placeOf {start : Int} {index : Value} {q : Rat} {f : Failure}
    (h : placeOf start index q = .error f) : IsUnusable f := by
  unfold placeOf at h
  split at h
  · split at h
    · rw [← Except.error.inj h]
      exact .overflow _
    · split at h <;> simp at h
  · simp at h
  · simp at h

lemma isUnusable_of_locate {b : Batch} {before : List Rejection} {r : Rejection} {f : Failure}
    (h : locate b before r = .error f) : IsUnusable f := by
  -- an entry that is outside of its batch is refused, unless its index cannot be written
  have houtside : ∀ {g : Failure}, (if r.index.isTooLong = true then
      (.error (.fault .unwritable) : Except Failure (Place × Writing))
      else .error (.report (.outside r.index b.start b.rows.length r.message))) = .error g →
        IsUnusable g := by
    intro g hg
    split at hg <;> rw [← Except.error.inj hg]
    · exact .fault _
    · exact .report _
  unfold locate at h
  dsimp only at h
  split at h
  · rw [← Except.error.inj h]
    exact .report _
  · split at h
    · next q _ =>
        split at h
        · rcases hplace : placeOf b.start r.index q with g | p
          · rw [hplace] at h
            rw [← Except.error.inj h]
            exact isUnusable_of_placeOf hplace
          · simp [hplace, Except.map] at h
        · exact houtside h
    · exact houtside h
    · split at h
      · exact houtside h
      · rw [← Except.error.inj h]
        exact .fault _
      · rw [← Except.error.inj h]
        exact .fault _

lemma isUnusable_of_locateAll {before : List Rejection} {entries : List (Batch × Rejection)}
    {f : Failure} (h : locateAll before entries = .error f) : IsUnusable f := by
  induction entries generalizing before with
  | nil => simp [locateAll] at h
  | cons x rest ih =>
      obtain ⟨b, r⟩ := x
      rcases of_bind_eq_error h with h | ⟨found, -, h⟩
      · exact isUnusable_of_locate h
      · rcases of_bind_eq_error h with h | ⟨founds, -, h⟩
        · exact ih h
        · simp at h

/-- Reports that lead to no outcome lead to a failure that speaks of them. -/
theorem isUnusable_of_ofReports {batches : List Batch} {reports : List (List Rejection)}
    {f : Failure} (h : ofReports rows tokens batches reports = .error f) : IsUnusable f := by
  rcases of_bind_eq_error h with h | ⟨found, -, h⟩
  · exact isUnusable_of_locateAll h
  · rcases of_bind_eq_error h with h | ⟨rejects, -, h⟩
    · generalize List.mapM (fetch rows tokens found) _ = r at h
      cases r with
      | error g =>
          rw [← Except.error.inj h]
          exact .fault g
      | ok _ => simp [liftFault, Except.mapError] at h
    · simp at h

end Outcome

end TableFeed
