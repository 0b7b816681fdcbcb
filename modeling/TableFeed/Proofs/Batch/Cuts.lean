import Mathlib
import TableFeed.Table.Batch

/-!
# A plan cuts the rows of a round into batches

The batches of a plan lie one behind the other: each starts where the one before it ends, none is
empty, and together they hold every row of the round once, with its token.  The predicate
`Batch.Cuts` says so, along the list of batches; everything that later modules need to know of a
plan is read off it.

The main results are

* `Batch.plan_cuts`: if every row has a size and a token, the plan comes to its end and cuts the
  rows, whatever the limits are;
* `Batch.Cuts.positions_eq`: the positions of the batches are those of the round, in order;
* `Batch.Cuts.of_mem`: what a batch holds at a place is what the round holds at the position that
  the place stands for.
-/

namespace TableFeed

/-- Rows that all have a size. -/
def Sized (rows : List Row) : Prop := ∀ row ∈ rows, ∃ n, rowSize row = .ok n

/-- An object without members is written in two octets. -/
lemma rowSize_mapping_nil : rowSize (.mapping []) = .ok 2 := by cbv

/-- Tokens, if there are any, are as many as the rows. -/
def Matching (rows : List Row) (tokens : Option (List Writing)) : Prop :=
  ∀ ts, tokens = some ts → ts.length = rows.length

/-- Tokens, if there are any, are not fewer than the rows. -/
def Covering (rows : List Row) (tokens : Option (List Writing)) : Prop :=
  ∀ ts, tokens = some ts → rows.length ≤ ts.length

lemma Matching.covering {rows : List Row} {tokens : Option (List Writing)}
    (h : Matching rows tokens) : Covering rows tokens := fun ts hts => (h ts hts).ge

lemma Sized.tail {row : Row} {rows : List Row} (h : Sized (row :: rows)) : Sized rows :=
  fun r hr => h r (List.mem_cons_of_mem _ hr)

namespace Batch

/-- Batches that cut rows, the first of which stands at a position, into runs that lie one behind
the other. -/
inductive Cuts : Nat → List Row → Option (List Writing) → List Batch → Prop where
  /-- No rows are left. -/
  | nil (start : Nat) (tokens : Option (List Writing)) : Cuts start [] tokens []
  /-- A run of the rows is followed by the batches of the rest. -/
  | cons {start : Nat} {rest : List Row} {tokens : Option (List Writing)} {b : Batch}
      {batches : List Batch} (start_eq : b.start = start) (nonempty : b.rows ≠ [])
      (tokens_eq : b.tokens = tokens.map (·.take b.rows.length))
      (after : Cuts (start + b.rows.length) rest (tokens.map (·.drop b.rows.length)) batches) :
      Cuts start (b.rows ++ rest) tokens (b :: batches)

namespace Cuts

variable {start : Nat} {rows : List Row} {tokens : Option (List Writing)} {batches : List Batch}

lemma rows_eq (h : Cuts start rows tokens batches) : batches.flatMap Batch.rows = rows := by
  induction h with
  | nil => rfl
  | cons _ _ _ _ ih => rw [List.flatMap_cons, ih]

lemma tokens_isSome (h : Cuts start rows tokens batches) :
    ∀ b ∈ batches, b.tokens.isSome = tokens.isSome := by
  induction h with
  | nil => simp
  | cons _ _ htokens _ ih =>
      intro b hb
      rcases List.mem_cons.1 hb with rfl | hb
      · simp [htokens]
      · simpa using ih b hb

/-- The batches hold as many tokens in order as there are rows. -/
lemma tokens_take {ts : List Writing} (h : Cuts start rows (some ts) batches) :
    batches.flatMap (fun b => b.tokens.getD []) = ts.take rows.length := by
  generalize htokens : some ts = tokens at h
  induction h generalizing ts with
  | nil => simp
  | @cons start rest tokens b batches _ _ hb _ ih =>
      subst htokens
      rw [List.flatMap_cons, ih rfl, hb, Option.map_some, Option.getD_some, List.length_append,
        List.take_add]

/-- The batches hold the tokens in order. -/
lemma tokens_eq {ts : List Writing} (h : Cuts start rows (some ts) batches)
    (hlen : ts.length = rows.length) : batches.flatMap (fun b => b.tokens.getD []) = ts := by
  rw [h.tokens_take, ← hlen, List.take_length]

/-- If there are no rows, there are no batches. -/
lemma eq_nil (h : Cuts start rows tokens batches) (hrows : rows = []) : batches = [] := by
  cases h with
  | nil => rfl
  | cons _ hne _ _ => exact absurd (List.append_eq_nil_iff.1 hrows).1 hne

lemma nonempty_of_mem (h : Cuts start rows tokens batches) : ∀ b ∈ batches, b.rows ≠ [] := by
  induction h with
  | nil => simp
  | cons _ hne _ _ ih =>
      intro b hb
      rcases List.mem_cons.1 hb with rfl | hb
      · exact hne
      · exact ih b hb

/-- The positions of the batches are all positions from the first one on, in order. -/
lemma positions_eq (h : Cuts start rows tokens batches) :
    batches.flatMap positions = (List.range' start rows.length).map Int.ofNat := by
  induction h with
  | nil => rfl
  | @cons start rest tokens b batches hstart _ _ _ ih =>
      have hb : b.positions = (List.range' start b.rows.length).map Int.ofNat := by
        rw [positions, hstart, List.range'_eq_map_range, List.map_map]
        apply List.map_congr_left
        intro n _
        simp
      rw [List.flatMap_cons, ih, hb, ← List.map_append, List.length_append,
        List.range'_append_1]

/-- A batch holds at each place what the round holds at the position of that place. -/
lemma of_mem (h : Cuts start rows tokens batches) {b : Batch} (hb : b ∈ batches) :
    ∃ n, b.start = Int.ofNat (start + n) ∧ n + b.rows.length ≤ rows.length ∧
      (∀ l < b.rows.length, b.rows[l]? = rows[n + l]?) ∧
      ∀ ts, tokens = some ts → b.tokens = some ((ts.drop n).take b.rows.length) := by
  induction h with
  | nil => simp at hb
  | @cons start rest tokens b' batches hstart _ htokens _ ih =>
      rcases List.mem_cons.1 hb with rfl | hb
      · refine ⟨0, by simpa using hstart, by simp, ?_, ?_⟩
        · intro l hl
          rw [Nat.zero_add, List.getElem?_append_left hl]
        · rintro ts rfl
          simpa using htokens
      · obtain ⟨n, hn, hle, hrows, htoks⟩ := ih hb
        refine ⟨b'.rows.length + n, by rw [hn, Nat.add_assoc], ?_, ?_, ?_⟩
        · rw [List.length_append]
          omega
        · intro l hl
          rw [hrows l hl, List.getElem?_append_right (by omega)]
          congr 1
          omega
        · rintro ts rfl
          rw [htoks _ rfl, List.drop_drop]

/-- A batch has as many tokens as rows, if there are tokens. -/
lemma tokens_length (h : Cuts start rows tokens batches) (htokens : Matching rows tokens) :
    ∀ b ∈ batches, b.tokens.map List.length = tokens.map fun _ => b.rows.length := by
  intro b hb
  cases tokens with
  | none =>
      have hnone := h.tokens_isSome b hb
      rw [Option.isSome_none, Option.isSome_eq_false_iff, Option.isNone_iff_eq_none] at hnone
      rw [hnone]
      rfl
  | some ts =>
      obtain ⟨n, -, hle, -, htoks⟩ := h.of_mem hb
      have hlen := htokens ts rfl
      rw [htoks ts rfl, Option.map_some, Option.map_some, List.length_take, List.length_drop,
        Nat.min_eq_left (by omega)]

end Cuts

/-! ### The batches of a plan -/

namespace Open

/-- The lists of an open batch have the lengths that its count says. -/
structure Counted (o : Open) (tokened : Bool) : Prop where
  count_eq : o.count = o.rows.length
  tokens_length : o.tokens.length = if tokened then o.count else 0

lemma counted_empty (start : Nat) (tokened : Bool) : (empty start).Counted tokened :=
  ⟨rfl, by simp [empty]⟩

lemma Counted.add {o : Open} {tokened : Bool} (h : o.Counted tokened) (row : Row)
    {token : Option Writing} (ht : token.isSome = tokened) (size : Nat) :
    (o.add row token size).Counted tokened := by
  subst ht
  refine ⟨by simp [Open.add, h.count_eq], ?_⟩
  have := h.tokens_length
  cases token <;> simp_all [Open.add]

end Open

/-- A token that is there is taken from the front. -/
lemma takeToken_eq {tokens : Option (List Writing)} {n : Nat}
    (h : ∀ ts, tokens = some ts → n + 1 ≤ ts.length) :
    ∃ (token : Option Writing) (left : Option (List Writing)),
      takeToken tokens = .ok (token, left) ∧ token.isSome = left.isSome ∧
        tokens = left.map (token.toList ++ ·) ∧ ∀ ts, left = some ts → n ≤ ts.length := by
  match tokens with
  | none => exact ⟨none, none, rfl, rfl, rfl, by simp⟩
  | some [] => simpa using h [] rfl
  | some (t :: ts) =>
      refine ⟨some t, some ts, rfl, rfl, rfl, ?_⟩
      rintro us ⟨rfl⟩
      simpa using h (t :: ts) rfl

/-- An open batch that is closed cuts off its rows and tokens. -/
lemma Cuts.close {o : Open} {rest : List Row} {tokens : Option (List Writing)}
    {batches : List Batch} (ho : o.Counted tokens.isSome) (hne : o.rows ≠ [])
    (h : Cuts (o.start + o.count) rest tokens batches) :
    Cuts o.start (o.rows.reverse ++ rest) (tokens.map (o.tokens.reverse ++ ·))
      (o.close tokens.isSome :: batches) := by
  have hcount : o.rows.reverse.length = o.count := by rw [List.length_reverse, ho.count_eq]
  have htoks := ho.tokens_length
  refine .cons (b := o.close tokens.isSome) rfl (by simpa [Open.close] using hne) ?_ ?_
  · cases tokens with
    | none => rfl
    | some ts =>
        have hlen : o.tokens.reverse.length = o.rows.reverse.length := by
          simpa [ho.count_eq] using htoks
        show some o.tokens.reverse = some ((o.tokens.reverse ++ ts).take o.rows.reverse.length)
        rw [← hlen, List.take_left]
  · show Cuts (o.start + o.rows.reverse.length) rest
      ((tokens.map (o.tokens.reverse ++ ·)).map (·.drop o.rows.reverse.length)) batches
    cases tokens with
    | none => rwa [hcount]
    | some ts =>
        have hlen : o.tokens.reverse.length = o.rows.reverse.length := by
          simpa [ho.count_eq] using htoks
        rw [Option.map_some, Option.map_some, ← hlen, List.drop_left, hlen]
        rwa [hcount]

/-- The rows and the tokens of an open batch, with those that are still to come, are cut by the
batches that the plan makes of them.  The limits decide only where. -/
lemma planFrom_cuts (limits : BatchLimits) {rows : List Row} (hrows : Sized rows) :
    ∀ {o : Open} {tokens : Option (List Writing)}, o.Counted tokens.isSome →
      (∀ ts, tokens = some ts → rows.length ≤ ts.length) → (rows = [] → o.rows = []) →
      (planFrom limits o rows tokens).fault = none ∧
        Cuts o.start (o.rows.reverse ++ rows) (tokens.map (o.tokens.reverse ++ ·))
          (planFrom limits o rows tokens).batches := by
  induction rows with
  | nil =>
      intro o tokens _ _ hnil
      rw [hnil rfl]
      exact ⟨rfl, .nil _ _⟩
  | cons row rest ih =>
      intro o tokens ho htokens _
      obtain ⟨token, left, htake, hsome, rfl, hleft⟩ := takeToken_eq (n := rest.length) htokens
      obtain ⟨size, hsize⟩ := hrows row (by simp)
      have hadd : (o.add row token size).Counted left.isSome := by
        rw [Option.isSome_map] at ho
        exact ho.add row hsome size
      have hrows' : o.rows.reverse ++ row :: rest = (o.add row token size).rows.reverse ++ rest := by
        simp [Open.add]
      have htokens' : (left.map (token.toList ++ ·)).map (o.tokens.reverse ++ ·) =
          left.map ((o.add row token size).tokens.reverse ++ ·) := by
        cases token <;> simp [Open.add, Function.comp_def]
      simp only [planFrom, htake, hsize]
      rw [hrows', htokens']
      split
      · -- the row closes its batch, and the rest starts with an empty one
        obtain ⟨hfault, hcuts⟩ := ih hrows.tail (o := .empty (o.start + (o.count + 1)))
          (Open.counted_empty _ left.isSome) hleft (fun _ => rfl)
        refine ⟨hfault, .close hadd (by simp [Open.add]) ?_⟩
        simpa [Open.empty, Open.add] using hcuts
      · -- the batch stays open, so that rows are left
        next hopen =>
          exact ih hrows.tail hadd hleft (fun hnil => by simp [hnil] at hopen)

/-- The plan of rows that all have a size and a token comes to its end, and its batches cut the
rows.  Tokens to spare are left over. -/
theorem plan_cuts_of_le (limits : BatchLimits) {rows : List Row} {tokens : Option (List Writing)}
    (hrows : Sized rows) (htokens : ∀ ts, tokens = some ts → rows.length ≤ ts.length) :
    (plan limits rows tokens).complete = .ok (plan limits rows tokens).batches ∧
      Cuts 0 rows tokens (plan limits rows tokens).batches := by
  obtain ⟨hfault, hcuts⟩ := planFrom_cuts limits hrows (o := .empty 0)
    (Open.counted_empty 0 tokens.isSome) htokens (fun _ => rfl)
  refine ⟨?_, by simpa [plan, Open.empty] using hcuts⟩
  rw [Plan.complete, plan, hfault]

/-- Rows that have a size and a token each are cut by the batches of their plan. -/
theorem plan_cuts (limits : BatchLimits) {rows : List Row} {tokens : Option (List Writing)}
    (hrows : Sized rows) (htokens : Matching rows tokens) :
    (plan limits rows tokens).complete = .ok (plan limits rows tokens).batches ∧
      Cuts 0 rows tokens (plan limits rows tokens).batches :=
  plan_cuts_of_le limits hrows fun ts hts => (htokens ts hts).ge

/-- A plan comes to its end only if every row has a size. -/
lemma sized_of_planFrom {limits : BatchLimits} {rows : List Row} {o : Open}
    {tokens : Option (List Writing)} (h : (planFrom limits o rows tokens).fault = none) :
    Sized rows := by
  induction rows generalizing o tokens with
  | nil =>
      intro row hrow
      simp at hrow
  | cons row rest ih =>
      rw [planFrom] at h
      rcases htake : takeToken tokens with f | ⟨token, left⟩
      · simp [htake] at h
      · rcases hsize : rowSize row with f | size
        · simp [htake, hsize] at h
        · simp only [htake, hsize] at h
          have hrest : Sized rest := by
            split at h
            · exact ih h
            · exact ih h
          intro row' hrow'
          rcases List.mem_cons.1 hrow' with rfl | hrow'
          · exact ⟨size, hsize⟩
          · exact hrest row' hrow'

/-- A plan comes to its end only if every row has a token, where there are tokens. -/
lemma covering_of_planFrom {limits : BatchLimits} {rows : List Row} {o : Open}
    {tokens : Option (List Writing)} (h : (planFrom limits o rows tokens).fault = none) :
    Covering rows tokens := by
  induction rows generalizing o tokens with
  | nil =>
      intro ts _
      exact Nat.zero_le _
  | cons row rest ih =>
      rintro ts rfl
      rw [planFrom] at h
      cases ts with
      | nil => simp [takeToken] at h
      | cons t ts =>
          rcases hsize : rowSize row with f | size
          · simp [takeToken, hsize] at h
          · simp only [takeToken, hsize] at h
            have hrest : Covering rest (some ts) := by
              split at h
              · exact ih h
              · exact ih h
            simpa using hrest ts rfl

/-- The batches of a plan that came to its end cut its rows, each of which has a token, where there are
tokens. -/
theorem cuts_of_complete {limits : BatchLimits} {rows : List Row} {tokens : Option (List Writing)}
    {batches : List Batch} (h : (plan limits rows tokens).complete = .ok batches) :
    Cuts 0 rows tokens batches ∧ Covering rows tokens := by
  have hfault : (plan limits rows tokens).fault = none := by
    rw [Plan.complete] at h
    split at h
    · assumption
    · simp at h
  have hcovering := covering_of_planFrom hfault
  obtain ⟨hcomplete, hcuts⟩ := plan_cuts_of_le limits (sized_of_planFrom hfault) hcovering
  rw [hcomplete] at h
  exact ⟨Except.ok.inj h ▸ hcuts, hcovering⟩

end Batch

end TableFeed
