import TableFeed.Proofs.Json.Writable
import TableFeed.Proofs.Outcome.Collected
import TableFeed.Proofs.Outcome.Places

/-!
# What any index leads to

The index of an entry should be an integer, but JSON lets it be of any kind.  An entry either stands
at some place of the round or is turned away, and the first one that is turned away ends the search.
If none is, then a float within its batch is still no place of a row, and it is found out when the row
is fetched, unless an integer before it gave the same place.

The main result is `Outcome.settles`: `Outcome.Settles` tells what reports with indices of any kind
come to.
-/

namespace TableFeed

open Position

namespace Rejection

/-- An index of a kind that JSON knows. -/
inductive IsIndex : Value → Prop where
  /-- There is none. -/
  | null : IsIndex .null
  /-- A truth value. -/
  | bool (t : Bool) : IsIndex (.bool t)
  /-- An integer. -/
  | int (n : Int) : IsIndex (.int n)
  /-- A float. -/
  | float (x : Float) : IsIndex (.float x)
  /-- A text, which may be torn. -/
  | name {v : Value} (isName : Json.IsName v) : IsIndex v
  /-- A list. -/
  | list (items : List Value) : IsIndex (.list items)
  /-- An object. -/
  | mapping (entries : List (Value × Value)) : IsIndex (.mapping entries)

/-- An index that can be compared with numbers. -/
inductive IsNumeral : Value → Prop where
  /-- A truth value. -/
  | bool (t : Bool) : IsNumeral (.bool t)
  /-- An integer. -/
  | int (n : Int) : IsNumeral (.int n)
  /-- A float. -/
  | float (x : Float) : IsNumeral (.float x)

/-- An index that is given and cannot be compared with numbers. -/
inductive IsOrderless : Value → Prop where
  /-- A text. -/
  | name {v : Value} (isName : Json.IsName v) : IsOrderless v
  /-- A list. -/
  | list (items : List Value) : IsOrderless (.list items)
  /-- An object. -/
  | mapping (entries : List (Value × Value)) : IsOrderless (.mapping entries)

/-- An index that stands for a number within a batch. -/
def Inside (b : Batch) (index : Value) : Prop :=
  ∃ q, index.number? = some (.finite q) ∧ 0 ≤ q ∧ q < b.rows.length

/-- An entry stands at a place of the round. -/
inductive Stands (b : Batch) (r : Rejection) : Place → Prop where
  /-- An entry that names a row stands at the place of the row. -/
  | row {n : Int} (names : r.Names b n) : Stands b r (.row n)
  /-- A float gives the place that the sum of floats gives, which is no place of a row. -/
  | float {x : Float} {q v : Rat} (index_eq : r.index = .float x)
      (inside : r.index.number? = some (.finite q) ∧ 0 ≤ q ∧ q < b.rows.length)
      (place : placeOf b.start r.index q = .ok (.number v "float")) :
      Stands b r (.number v "float")

/-- An entry is turned away with a failure, after the entries before it. -/
inductive Turned (before : List Rejection) (b : Batch) (r : Rejection) : Failure → Prop where
  /-- There is no index. -/
  | unindexed (absent : r.index = .null) :
      Turned before b r (.report (.unindexed b.start (before ++ [r])))
  /-- The index is a number that is not within the batch. -/
  | outside (numeral : IsNumeral r.index) (off : ¬ Inside b r.index)
      (short : r.index.isTooLong = false) :
      Turned before b r (.report (.outside r.index b.start b.rows.length r.message))
  /-- The index is an integer that is not within the batch and too long to be written. -/
  | unwritable (numeral : IsNumeral r.index) (off : ¬ Inside b r.index)
      (long : r.index.isTooLong = true) : Turned before b r (.fault .unwritable)
  /-- The index cannot be compared with numbers. -/
  | unordered (orderless : IsOrderless r.index) :
      Turned before b r (.fault (.unordered r.index.kind))
  /-- The index is a float, and the position of the batch is beyond the floats. -/
  | beyond {x : Float} (index_eq : r.index = .float x) (inside : Inside b r.index)
      (far : Number.ofInt? b.start = none) : Turned before b r (.overflow .integer)

/-- An entry whose index counts as an integer names a row if the index is within the batch. -/
lemma names_of_count? {b : Batch} {r : Rejection} {k : Int} (hk : r.count? = some k)
    (hle : 0 ≤ k) (hlt : k < b.rows.length) : r.Names b (b.start + k) :=
  ⟨k.toNat, by omega, by rw [hk, Int.toNat_of_nonneg hle], by omega⟩

/-- An index that names a row is a number within the batch. -/
lemma Names.numeral_inside {b : Batch} {r : Rejection} {n : Int} (h : r.Names b n) :
    IsNumeral r.index ∧ Inside b r.index := by
  obtain ⟨l, hl, hcount, -⟩ := h
  have hl' : (l : Rat) < b.rows.length := by exact_mod_cast hl
  unfold count? at hcount
  split at hcount
  · next k hindex =>
      obtain rfl := Option.some.inj hcount
      rw [hindex]
      exact ⟨.int _, l, by simp [Value.number?], by positivity, hl'⟩
  · next t hindex =>
      have hvalue : ((if t then 1 else 0 : Int) : Rat) = ((l : Int) : Rat) := by
        rw [Option.some.inj hcount]
      push_cast at hvalue
      rw [hindex]
      exact ⟨.bool t, l, by rw [Value.number?, hvalue], by positivity, hl'⟩
  · simp at hcount

end Rejection

open Rejection

variable {rows : List Row} {tokens : Option (List Writing)} {batches : List Batch}
  {reports : List (List Rejection)} {entries : List (Batch × Rejection)} {places : List Place}
  {b : Batch} {r : Rejection}

namespace Outcome

/-! ### One entry -/

/-- An index that is a number within the batch leads to its place. -/
lemma locate_of_inside {q : Rat} (hq : r.index.number? = some (.finite q)) (hle : 0 ≤ q)
    (hlt : q < b.rows.length) (before : List Rejection) :
    locate b before r = (placeOf b.start r.index q).map fun p => (p, r.message) := by
  unfold locate
  dsimp only
  split
  · next hnull => simp [hnull, Value.number?] at hq
  · rw [hq]
    exact if_pos ⟨hle, hlt⟩

/-- An entry that names a row is found at its place. -/
lemma locate_of_names {n : Int} (h : r.Names b n) (before : List Rejection) :
    locate b before r = .ok (.row n, r.message) := by
  obtain ⟨-, q, hq, hle, hlt⟩ := h.numeral_inside
  obtain ⟨l, -, hcount, rfl⟩ := h
  rw [locate_of_inside hq hle hlt, (placeOf_of_count? hcount hq).2]
  rfl

/-- An index that is a number, but none within the batch, is turned away. -/
lemma locate_of_off (hnumeral : IsNumeral r.index) (hoff : ¬ Inside b r.index)
    (before : List Rejection) :
    locate b before r = if r.index.isTooLong then .error (.fault .unwritable)
      else .error (.report (.outside r.index b.start b.rows.length r.message)) := by
  unfold locate
  dsimp only
  split
  · next hnull => simp [hnull] at hnumeral; cases hnumeral
  · split
    · next q hq => exact if_neg fun h => hoff ⟨q, hq, h⟩
    · rfl
    · next hnone =>
        generalize r.index = index at hnumeral hnone
        cases hnumeral with
        | bool t => simp [Value.number?] at hnone
        | int n => simp [Value.number?] at hnone
        | float x => rfl

/-- An index that cannot be compared is turned away. -/
lemma locate_of_orderless (h : IsOrderless r.index) (before : List Rejection) :
    locate b before r = .error (.fault (.unordered r.index.kind)) := by
  unfold locate
  generalize r.index = index at h
  cases h with
  | name h => cases h <;> rfl
  | list items => rfl
  | mapping entries => rfl

/-- A number within the batch stands at a place, unless the batch is so far off that a float cannot
be added to its position. -/
lemma stands_or_turned_of_inside (hnumeral : IsNumeral r.index) (hinside : Inside b r.index)
    (before : List Rejection) :
    (∃ p, Stands b r p ∧ locate b before.reverse r = .ok (p, r.message)) ∨
      ∃ f, Turned before b r f ∧ locate b before.reverse r = .error f := by
  obtain ⟨q, hq, hle, hlt⟩ := hinside
  rw [locate_of_inside hq hle hlt]
  -- a truth value counts as an integer
  have hcount : ∀ k, r.count? = some k →
      ∃ p, Stands b r p ∧ placeOf b.start r.index q = .ok p := by
    intro k hk
    obtain ⟨rfl, hplace⟩ := placeOf_of_count? (b := b) hk hq
    have hnames := names_of_count? hk (by exact_mod_cast hle) (by exact_mod_cast hlt)
    exact ⟨_, .row hnames, hplace⟩
  have hfloat : ∀ x, r.index = .float x → (∃ p, Stands b r p ∧ placeOf b.start r.index q = .ok p) ∨
      Turned before b r (.overflow .integer) ∧
        placeOf b.start r.index q = .error (.overflow .integer) := by
    intro x hx
    rcases hstart : Number.ofInt? b.start with _ | start
    · exact .inr ⟨.beyond hx ⟨q, hq, hle, hlt⟩ hstart, by simp [hx, placeOf, hstart]⟩
    · have hplace : ∃ v, placeOf b.start r.index q = .ok (.number v "float") := by
        simp only [hx, placeOf, hstart, Value.kind]
        split <;> exact ⟨_, rfl⟩
      obtain ⟨v, hplace⟩ := hplace
      exact .inl ⟨_, .float hx ⟨hq, hle, hlt⟩ hplace, hplace⟩
  have hcases : (∃ p, Stands b r p ∧ placeOf b.start r.index q = .ok p) ∨
      Turned before b r (.overflow .integer) ∧
        placeOf b.start r.index q = .error (.overflow .integer) := by
    generalize hindex : r.index = index at hnumeral
    cases hnumeral with
    | bool t => exact hindex ▸ .inl (hcount (if t then 1 else 0) (by simp [count?, hindex]))
    | int n => exact hindex ▸ .inl (hcount n (by simp [count?, hindex]))
    | float x => exact hindex ▸ hfloat x hindex
  rcases hcases with ⟨p, hp, hplace⟩ | ⟨hturned, hplace⟩
  · exact .inl ⟨p, hp, by rw [hplace]; rfl⟩
  · exact .inr ⟨_, hturned, by rw [hplace]; rfl⟩

/-- An entry with an index of any kind stands at a place or is turned away. -/
lemma stands_or_turned (h : IsIndex r.index) (before : List Rejection) :
    (∃ p, Stands b r p ∧ locate b before.reverse r = .ok (p, r.message)) ∨
      ∃ f, Turned before b r f ∧ locate b before.reverse r = .error f := by
  have hnumeral : IsNumeral r.index →
      (∃ p, Stands b r p ∧ locate b before.reverse r = .ok (p, r.message)) ∨
        ∃ f, Turned before b r f ∧ locate b before.reverse r = .error f := by
    intro hnumeral
    by_cases hinside : Inside b r.index
    · exact stands_or_turned_of_inside hnumeral hinside before
    · cases hlong : r.index.isTooLong with
      | true => exact .inr ⟨_, .unwritable hnumeral hinside hlong,
          by rw [locate_of_off hnumeral hinside, hlong]; rfl⟩
      | false => exact .inr ⟨_, .outside hnumeral hinside hlong,
          by rw [locate_of_off hnumeral hinside, hlong]; rfl⟩
  have horderless : IsOrderless r.index →
      (∃ p, Stands b r p ∧ locate b before.reverse r = .ok (p, r.message)) ∨
        ∃ f, Turned before b r f ∧ locate b before.reverse r = .error f :=
    fun h => .inr ⟨_, .unordered h, locate_of_orderless h _⟩
  generalize hindex : r.index = index at h
  cases h with
  | null =>
      exact .inr ⟨_, .unindexed hindex, by simp [locate, hindex]⟩
  | bool t => exact hnumeral (hindex ▸ .bool t)
  | int n => exact hnumeral (hindex ▸ .int n)
  | float x => exact hnumeral (hindex ▸ .float x)
  | name h => exact horderless (hindex ▸ .name h)
  | list items => exact horderless (hindex ▸ .list items)
  | mapping entries => exact horderless (hindex ▸ .mapping entries)

/-! ### All entries -/

/-- Either all entries stand at places, or the first one that does not is turned away. -/
lemma all_stand_or_turned (h : ∀ x ∈ entries, IsIndex x.2.index) (before : List Rejection) :
    (∃ found, locateAll before.reverse entries = .ok found ∧
        List.Forall₂ (fun x p => Stands x.1 x.2 p) entries (found.map Prod.fst)) ∨
      ∃ first b r rest f, entries = first ++ (b, r) :: rest ∧
        (∀ x ∈ first, ∃ p, Stands x.1 x.2 p) ∧ Turned (before ++ first.map Prod.snd) b r f ∧
        locateAll before.reverse entries = .error f := by
  induction entries generalizing before with
  | nil => exact .inl ⟨[], rfl, .nil⟩
  | cons x entries ih =>
      obtain ⟨b, r⟩ := x
      rcases stands_or_turned (b := b) (h (b, r) (by simp)) before with
        ⟨p, hp, hlocate⟩ | ⟨f, hturned, hlocate⟩
      · have hbefore : r :: before.reverse = (before ++ [r]).reverse := by simp
        rcases ih (fun y hy => h y (by simp [hy])) (before ++ [r]) with
          ⟨found, hfound, hstand⟩ | ⟨first, b', r', rest, f, rfl, hfirst, hturned, hlocateAll⟩
        · refine .inl ⟨(p, r.message) :: found, ?_, .cons hp hstand⟩
          rw [locateAll, hlocate, hbefore, hfound]
          rfl
        · refine .inr ⟨(b, r) :: first, b', r', rest, f, rfl, ?_, by simpa using hturned, ?_⟩
          · exact List.forall_mem_cons.2 ⟨⟨p, hp⟩, hfirst⟩
          · rw [locateAll, hlocate, hbefore, hlocateAll]
            rfl
      · refine .inr ⟨[], b, r, entries, f, rfl, by simp, by simpa using hturned, ?_⟩
        rw [locateAll, hlocate]
        rfl

/-! ### The places -/

/-- Places of another value are found whether or not those of a value are there. -/
lemma find?_filter_value {q v : Rat} (h : q ≠ v) (places : List Place) :
    (places.filter fun p => decide ((p.value == v) = false)).find? (fun p => p.value == q) =
      places.find? fun p => p.value == q := by
  rw [List.find?_filter]
  congr 1
  funext p
  by_cases hp : p.value = q <;> simp [hp, h]

/-- A place is left when doubles are dropped if it is the first one of its value. -/
lemma mem_eraseDupsBy_iff {p : Place} :
    p ∈ places.eraseDupsBy Place.same ↔
      places.find? (fun p' => p'.value == p.value) = some p := by
  induction hn : places.length using Nat.strong_induction_on generalizing places with
  | _ n ih =>
      cases places with
      | nil => simp
      | cons first rest =>
          have hlt : (rest.filter fun p' => p'.same first = false).length < n := by
            have := List.length_filter_le (fun p' : Place => decide (p'.same first = false)) rest
            simp only [List.length_cons] at hn
            omega
          rw [List.eraseDupsBy_cons, List.mem_cons, ih _ hlt rfl, List.find?_cons]
          simp only [Place.same_eq]
          by_cases hvalue : first.value = p.value
          · have hnone : (rest.filter fun p' => decide ((p'.value == first.value) = false)).find?
                (fun p' => p'.value == p.value) = none := by
              simp [hvalue]
            rw [hnone, beq_iff_eq.2 hvalue]
            simp only [reduceCtorEq, or_false, Option.some.injEq]
            exact eq_comm
          · have hne : p ≠ first := by
              rintro rfl
              exact hvalue rfl
            rw [find?_filter_value (Ne.symm hvalue), beq_eq_false_iff_ne.2 hvalue, or_iff_right hne]

lemma exists_fetch (htokens : Covering rows tokens) {n : Int} (hn : Position.Within rows.length n)
    (found : List (Place × Writing)) : ∃ reject, fetch rows tokens found (.row n) = .ok reject := by
  obtain ⟨m, hm, rfl⟩ := hn
  exact ⟨_, fetch_row htokens hm found⟩

/-- What reports with indices of any kind come to. -/
inductive Settles (rows : List Row) (tokens : Option (List Writing))
    (entries : List (Batch × Rejection)) : Except Failure Outcome → Prop where
  /-- The first entry that stands at no place is turned away. -/
  | turned {first rest : List (Batch × Rejection)} {b : Batch} {r : Rejection} {f : Failure}
      (split : entries = first ++ (b, r) :: rest) (stand : ∀ x ∈ first, ∃ p, Stands x.1 x.2 p)
      (turned : Turned (first.map Prod.snd) b r f) : Settles rows tokens entries (.error f)
  /-- All entries stand at places, and the first place of some value is that of a float. -/
  | misfit {places : List Place} {q v : Rat} {kind : String}
      (stand : List.Forall₂ (fun x p => Stands x.1 x.2 p) entries places)
      (found : places.find? (fun p => p.value == q) = some (.number v kind)) :
      Settles rows tokens entries (.error (.fault (.subscript "float")))
  /-- All entries stand at places, and the first place of each value is that of a row. -/
  | outcome {places : List Place} {o : Outcome}
      (stand : List.Forall₂ (fun x p => Stands x.1 x.2 p) entries places)
      (found : ∀ q p, places.find? (fun p => p.value == q) = some p → ∃ n, p = .row n)
      (fits : o.Fits rows tokens) (ascending : o.positions.Pairwise (· < ·))
      (mem_iff : ∀ n, n ∈ o.positions ↔ ∃ x ∈ entries, x.2.Names x.1 n) :
      Settles rows tokens entries (.ok o)

/-- The places at which entries on the batches of a round stand are those of rows of the round, or of
floats. -/
lemma place_cases (hcuts : Batch.Cuts 0 rows tokens batches)
    (hbatches : ∀ x ∈ entries, x.1 ∈ batches)
    (hstand : List.Forall₂ (fun x p => Stands x.1 x.2 p) entries places) :
    ∀ p ∈ places, (∃ n, p = .row n ∧ Position.Within rows.length n) ∨
      ∃ v, p = .number v "float" := by
  intro p hp
  obtain ⟨x, hx, hstands⟩ := exists_left_of_mem hstand hp
  cases hstands with
  | @row n hnames =>
      obtain ⟨l, hl, -, rfl⟩ := hnames
      obtain ⟨m, hstart, hle, -, -⟩ := hcuts.of_mem (hbatches x hx)
      exact .inl ⟨_, rfl, 0 + m + l, by omega, by rw [hstart]; rfl⟩
  | float _ _ _ => exact .inr ⟨_, rfl⟩

/-- The places of given ones that are left when doubles are dropped, in order. -/
def kept (places : List Place) : List Place :=
  (places.eraseDupsBy Place.same).mergeSort Place.notAfter

lemma mem_kept_iff {p : Place} :
    p ∈ kept places ↔ places.find? (fun p' => p'.value == p.value) = some p := by
  rw [kept, List.mem_mergeSort, mem_eraseDupsBy_iff]

lemma mem_kept_of_find? {q : Rat} {p : Place}
    (h : places.find? (fun p' => p'.value == q) = some p) : p ∈ kept places := by
  obtain rfl : p.value = q := by simpa using List.find?_some h
  exact mem_kept_iff.2 h

/-- If all entries stand at places, the reports come to what is fetched from those that are left. -/
lemma ofReports_of_located {found : List (Place × Writing)}
    (h : locateAll [] (paired batches reports) = .ok found) :
    ofReports rows tokens batches reports =
      (liftFault ((kept (found.map Prod.fst)).mapM (fetch rows tokens found))).map fun rejects =>
        ⟨rejects, tokens.isSome, (paired batches reports).map Prod.snd⟩ := by
  unfold ofReports
  simp only [h, bind, Except.bind]
  rfl

/-- Reports whose entries all stand at places come to an outcome, unless a place that is left is that
of a float. -/
lemma settles_of_located (hcuts : Batch.Cuts 0 rows tokens batches) (htokens : Covering rows tokens)
    {found : List (Place × Writing)} (hfound : locateAll [] (paired batches reports) = .ok found)
    (hstand : List.Forall₂ (fun x p => Stands x.1 x.2 p) (paired batches reports)
      (found.map Prod.fst)) :
    Settles rows tokens (paired batches reports) (ofReports rows tokens batches reports) := by
  have hresult : ofReports rows tokens batches reports = _ := ofReports_of_located hfound
  have hcases : ∀ p ∈ kept (found.map Prod.fst),
      (∃ n, p = .row n ∧ Position.Within rows.length n) ∨ ∃ v, p = .number v "float" := fun p hp =>
    place_cases hcuts (fun x hx => (mem_of_paired hx).1) hstand p
      (List.mem_of_find?_eq_some (mem_kept_iff.1 hp))
  by_cases hrows : ∀ p ∈ kept (found.map Prod.fst), ∃ n, p = .row n
  · have hfetch : ∀ p ∈ kept (found.map Prod.fst),
        ∃ reject, fetch rows tokens found p = .ok reject ∧ True := by
      intro p hp
      rcases hcases p hp with ⟨n, rfl, hn⟩ | ⟨v, rfl⟩
      · obtain ⟨reject, hreject⟩ := exists_fetch htokens hn found
        exact ⟨reject, hreject, trivial⟩
      · obtain ⟨n, hn⟩ := hrows _ hp
        simp at hn
    have hstart : ∀ b ∈ batches, 0 ≤ b.start := by
      intro b hb
      obtain ⟨n, hn, -⟩ := hcuts.of_mem hb
      rw [hn]
      exact Int.natCast_nonneg _
    obtain ⟨rejects, hrejects, -⟩ := exists_mapM hfetch
    rw [hrejects] at hresult
    obtain ⟨hfits, hascending, hnamed⟩ := of_ofReports hstart hresult
    rw [hresult]
    exact .outcome hstand (fun q p hp => hrows p (mem_kept_of_find? hp)) hfits hascending hnamed
  · push Not at hrows
    obtain ⟨p, hp, hno⟩ := hrows
    have hfetch : ∀ p ∈ kept (found.map Prod.fst),
        (∃ reject, fetch rows tokens found p = .ok reject) ∨
          fetch rows tokens found p = .error (.subscript "float") := by
      intro p hp
      rcases hcases p hp with ⟨n, rfl, hn⟩ | ⟨v, rfl⟩
      · exact .inl (exists_fetch htokens hn found)
      · exact .inr rfl
    rcases hcases p hp with ⟨n, rfl, -⟩ | ⟨v, rfl⟩
    · exact absurd rfl (hno n)
    · rw [hresult, mapM_eq_error hfetch ⟨_, hp, rfl⟩]
      exact .misfit hstand (mem_kept_iff.1 hp)

/-- Reports on batches that cut the rows, with indices of any kind. -/
theorem settles (hcuts : Batch.Cuts 0 rows tokens batches) (htokens : Covering rows tokens)
    (hindices : ∀ x ∈ paired batches reports, IsIndex x.2.index) :
    Settles rows tokens (paired batches reports) (ofReports rows tokens batches reports) := by
  rcases all_stand_or_turned hindices [] with
    ⟨found, hfound, hstand⟩ | ⟨first, b, r, rest, f, hsplit, hfirst, hturned, hlocate⟩
  · exact settles_of_located hcuts htokens hfound hstand
  · have hfailed : ofReports rows tokens batches reports = .error f := by
      unfold ofReports
      simp only [List.reverse_nil] at hlocate
      simp only [hlocate, bind, Except.bind]
    rw [hfailed]
    exact .turned hsplit hfirst (by simpa using hturned)

end Outcome

end TableFeed
