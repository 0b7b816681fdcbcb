import TableFeed.Proofs.Batch.Cuts

/-!
# A plan is greedy

A plan closes a batch as soon as a limit is reached, and not before.  `Batch.Greedy` says what this
makes of the rows of a round, without any word on how it is done: the batches lie one behind the
other, no batch has reached a limit before its last row, and every batch but the last one has reached
one with it.

There is one such list of batches only, as far as rows, positions and sizes go; the tokens are
determined once every batch has one for each of its rows.  That the tokens of all batches, one behind
the other, are those of the round is not enough for it (`Batch.Greedy.not_unique`).

The main result is `Batch.plan_eq_iff_greedy`.
-/

namespace TableFeed

/-- The estimated size of a row that has one. -/
def estimate (row : Row) : Nat := (rowSize row).toOption.getD 0

/-- The estimated size of rows that all have one. -/
def estimates (rows : List Row) : Nat := (rows.map estimate).sum

lemma estimate_eq {row : Row} {n : Nat} (h : rowSize row = .ok n) : estimate row = n := by
  rw [estimate, h]
  rfl

@[simp] lemma estimates_nil : estimates [] = 0 := rfl

@[simp] lemma estimates_cons (row : Row) (rows : List Row) :
    estimates (row :: rows) = estimate row + estimates rows := by simp [estimates]

@[simp] lemma estimates_append (rows rows' : List Row) :
    estimates (rows ++ rows') = estimates rows + estimates rows' := by simp [estimates]

@[simp] lemma estimates_reverse (rows : List Row) : estimates rows.reverse = estimates rows := by
  rw [estimates, estimates, List.map_reverse, List.sum_reverse]

namespace BatchLimits

/-- Rows that reach a limit, if they are sent in one batch. -/
def Reached (limits : BatchLimits) (rows : List Row) : Prop :=
  limits.size ≤ estimates rows ∨ limits.rows ≤ rows.length

lemma reached_iff (limits : BatchLimits) (rows : List Row) :
    limits.reached (estimates rows) rows.length = true ↔ limits.Reached rows := by
  simp [reached, Reached]

end BatchLimits

namespace Batch

/-- A batch that is as large as its rows, and in which no row but the last one may have reached a
limit. -/
structure Filled (limits : BatchLimits) (b : Batch) : Prop where
  size_eq : b.size = estimates b.rows
  unreached : ∀ front, front ≠ [] → front <+: b.rows → front ≠ b.rows → ¬ limits.Reached front

/-- What there is to say of the batches of rows if each is closed by the row that reaches a limit. -/
structure Greedy (limits : BatchLimits) (rows : List Row) (tokens : Option (List Writing))
    (batches : List Batch) : Prop where
  nonempty : ∀ b ∈ batches, b.rows ≠ []
  rows_eq : batches.flatMap Batch.rows = rows
  tokens_isSome : ∀ b ∈ batches, b.tokens.isSome = tokens.isSome
  tokens_eq : ∀ ts, tokens = some ts →
    batches.flatMap (fun b => b.tokens.getD []) = ts.take rows.length
  start_eq : ∀ before b after, batches = before ++ b :: after →
    b.start = ((before.flatMap Batch.rows).length : Int)
  filled : ∀ b ∈ batches, b.Filled limits
  reached : ∀ b ∈ batches.dropLast, limits.Reached b.rows

/-- A batch that has a token for each of its rows, if it has tokens. -/
def Aligned (b : Batch) : Prop := ∀ ts, b.tokens = some ts → ts.length = b.rows.length

/-- A batch without its tokens. -/
def bare (b : Batch) : Batch := { b with tokens := none }

variable {limits : BatchLimits} {rows : List Row} {tokens : Option (List Writing)}
  {batches batches' : List Batch}

/-! ### The batches of a plan are greedy -/

/-- An open batch that is as large as its rows, and that has not reached a limit. -/
structure Open.Growing (limits : BatchLimits) (o : Open) : Prop where
  size_eq : o.size = estimates o.rows
  unreached : ∀ front, front ≠ [] → front <+: o.rows.reverse → ¬ limits.Reached front

namespace Open

lemma growing_empty (limits : BatchLimits) (start : Nat) : (empty start).Growing limits := by
  refine ⟨rfl, fun front hne hfront => absurd ?_ hne⟩
  exact List.prefix_nil.1 hfront

variable {o : Open} {row : Row} {token : Option Writing} {size : Nat}

/-- What reaches a limit in an open batch with one more row is all of it, if anything. -/
lemma Growing.add (token : Option Writing) (h : o.Growing limits) (hsize : rowSize row = .ok size) :
    (o.add row token size).size = estimates (o.add row token size).rows ∧
      ∀ front, front ≠ [] → front <+: (o.add row token size).rows.reverse →
        front ≠ (o.add row token size).rows.reverse → ¬ limits.Reached front := by
  constructor
  · simp [Open.add, h.size_eq, estimate_eq hsize, Nat.add_comm]
  · intro front hne hfront hproper
    rw [Open.add, List.reverse_cons, List.prefix_concat_iff] at hfront
    rw [Open.add, List.reverse_cons] at hproper
    exact h.unreached front hne (hfront.resolve_left hproper)

/-- The batch is closed with a row, whether or not this row reaches a limit. -/
lemma Growing.filled (h : o.Growing limits) (hsize : rowSize row = .ok size) (tokened : Bool) :
    ((o.add row token size).close tokened).Filled limits := by
  obtain ⟨hsize', hunreached⟩ := h.add token hsize
  exact ⟨by simp [close, hsize'], hunreached⟩

/-- The batch stays open with a row that reaches no limit. -/
lemma Growing.growing (h : o.Growing limits) (hsize : rowSize row = .ok size)
    (hnot : ¬ limits.Reached (o.add row token size).rows.reverse) :
    (o.add row token size).Growing limits := by
  obtain ⟨hsize', hunreached⟩ := h.add token hsize
  refine ⟨hsize', fun front hne hfront => ?_⟩
  by_cases hall : front = (o.add row token size).rows.reverse
  · exact hall ▸ hnot
  · exact hunreached front hne hfront hall

end Open

/-- A plan that makes batches has rows to make them of. -/
lemma isEmpty_of_planFrom {o : Open} (h : (planFrom limits o rows tokens).batches ≠ []) :
    rows.isEmpty = false := by
  cases rows with
  | nil => exact absurd rfl h
  | cons _ _ => rfl

/-- What holds of a batch that others follow, and of all of these but the last one, holds of all of
them but the last one. -/
lemma forall_mem_dropLast_cons {P : Batch → Prop} {b : Batch} (hb : batches ≠ [] → P b)
    (hbatches : ∀ x ∈ batches.dropLast, P x) : ∀ x ∈ (b :: batches).dropLast, P x := by
  cases batches with
  | nil => simp
  | cons b' later =>
      rw [List.dropLast_cons_of_ne_nil (by simp)]
      exact List.forall_mem_cons.2 ⟨hb (by simp), hbatches⟩

/-- The batches that a plan makes of an open batch and the rows that are still to come: none has
reached a limit before its last row, and all but the last one have reached one. -/
lemma planFrom_filled (limits : BatchLimits) {rows : List Row} (hrows : Sized rows) :
    ∀ {o : Open} {tokens : Option (List Writing)}, o.Counted tokens.isSome → o.Growing limits →
      (∀ ts, tokens = some ts → rows.length ≤ ts.length) →
      (∀ b ∈ (planFrom limits o rows tokens).batches, b.Filled limits) ∧
        ∀ b ∈ (planFrom limits o rows tokens).batches.dropLast, limits.Reached b.rows := by
  induction rows with
  | nil =>
      intro o tokens _ _ _
      simp [planFrom]
  | cons row rest ih =>
      intro o tokens ho hgrowing htokens
      obtain ⟨token, left, htake, hsome, rfl, hleft⟩ := takeToken_eq (n := rest.length) htokens
      obtain ⟨size, hsize⟩ := hrows row (by simp)
      have hadd : (o.add row token size).Counted left.isSome := by
        rw [Option.isSome_map] at ho
        exact ho.add row hsome size
      have hreached : limits.reached (o.add row token size).size (o.add row token size).count =
          true ↔ limits.Reached (o.add row token size).rows.reverse := by
        rw [← limits.reached_iff, estimates_reverse, List.length_reverse, hadd.count_eq,
          (hgrowing.add token hsize).1]
      simp only [planFrom, htake, hsize]
      split
      · next hclose =>
          obtain ⟨hfilled, hfull⟩ := ih hrows.tail
            (o := .empty ((o.add row token size).start + (o.add row token size).count))
            (Open.counted_empty _ left.isSome) (Open.growing_empty limits _) hleft
          constructor
          · intro b hb
            rcases List.mem_cons.1 hb with rfl | hb
            · exact hgrowing.filled hsize _
            · exact hfilled b hb
          · refine forall_mem_dropLast_cons (fun hlater => ?_) hfull
            -- a batch that others follow was not closed for want of rows
            rw [isEmpty_of_planFrom hlater, Bool.or_false] at hclose
            exact hreached.1 hclose
      · next hopen =>
          rw [Bool.or_eq_true, not_or, hreached] at hopen
          exact ih hrows.tail hadd (hgrowing.growing hsize hopen.1) hleft

/-! ### Greedy batches are those of a plan -/

lemma mem_dropLast_cons {α : Type} {a b : α} {l : List α} (h : a ∈ l.dropLast) :
    a ∈ (b :: l).dropLast := by
  cases l with
  | nil => simp at h
  | cons c l => exact List.mem_cons_of_mem b h

namespace Cuts

/-- Each batch starts behind the rows of the batches before it. -/
lemma start_eq {start : Nat} (h : Cuts start rows tokens batches) {before after : List Batch}
    {b : Batch} (hsplit : batches = before ++ b :: after) :
    b.start = ((start + (before.flatMap Batch.rows).length : Nat) : Int) := by
  induction h generalizing before with
  | nil => simp at hsplit
  | @cons start rest tokens b' batches hstart _ _ _ ih =>
      cases before with
      | nil =>
          obtain ⟨rfl, -⟩ := List.cons.inj hsplit
          simpa using hstart
      | cons b'' before =>
          obtain ⟨rfl, hrest⟩ := List.cons.inj hsplit
          rw [ih hrest, List.flatMap_cons, List.length_append, Nat.add_assoc]

/-- Batches that lie one behind the other cut their rows. -/
lemma of_start_eq {start : Nat} (hne : ∀ b ∈ batches, b.rows ≠ [])
    (hstart : ∀ before b after, batches = before ++ b :: after →
      b.start = ((start + (before.flatMap Batch.rows).length : Nat) : Int))
    (hsome : ∀ b ∈ batches, b.tokens.isSome = tokens.isSome) (haligned : ∀ b ∈ batches, b.Aligned)
    (htokens : ∀ ts, tokens = some ts → batches.flatMap (fun b => b.tokens.getD []) =
      ts.take (batches.flatMap Batch.rows).length) :
    Cuts start (batches.flatMap Batch.rows) tokens batches := by
  induction batches generalizing start tokens with
  | nil => exact .nil start tokens
  | cons b batches ih =>
      rw [List.flatMap_cons]
      have hb := hsome b (by simp)
      -- the batch has the first of the tokens, and the others have the tokens after these
      have hsplit : b.tokens = tokens.map (·.take b.rows.length) ∧ ∀ ts, tokens = some ts →
          batches.flatMap (fun b => b.tokens.getD []) =
            (ts.drop b.rows.length).take (batches.flatMap Batch.rows).length := by
        cases tokens with
        | none => simpa using hb
        | some ts =>
            obtain ⟨us, hus⟩ := Option.isSome_iff_exists.1 hb
            have hlength := haligned b (by simp) us hus
            have hall := htokens ts rfl
            rw [List.flatMap_cons, List.flatMap_cons, hus, Option.getD_some, List.length_append,
              List.take_add] at hall
            have hle : us.length = (ts.take b.rows.length).length := by
              have hcount := congrArg List.length hall
              simp only [List.length_append, List.length_take, List.length_drop] at hcount ⊢
              omega
            obtain ⟨rfl, hrest⟩ := List.append_inj hall hle
            exact ⟨hus, fun _ hts => Option.some.inj hts ▸ hrest⟩
      refine .cons (by simpa using hstart [] b batches rfl) (hne b (by simp)) hsplit.1 ?_
      refine ih (fun x hx => hne x (by simp [hx])) (fun before x after hbatches => ?_)
        (fun x hx => ?_) (fun x hx => haligned x (by simp [hx])) (fun ts hts => ?_)
      · rw [hstart (b :: before) x after (by rw [hbatches, List.cons_append]), List.flatMap_cons,
          List.length_append, Nat.add_assoc]
      · rw [hsome x (by simp [hx]), Option.isSome_map]
      · obtain ⟨us, hus, rfl⟩ := Option.map_eq_some_iff.1 hts
        exact hsplit.2 us hus

/-- A first batch that others follow has reached a limit, so that no other way to begin is longer. -/
lemma length_le_of_filled {start : Nat} {rest rest' : List Row} {b b' : Batch}
    (hrows : b.rows ++ rest = b'.rows ++ rest') (hne : b.rows ≠ []) (hfilled : b'.Filled limits)
    (hafter : Cuts start rest tokens batches)
    (hreached : ∀ x ∈ (b :: batches).dropLast, limits.Reached x.rows) :
    b'.rows.length ≤ b.rows.length := by
  by_contra hlt
  have hfront : b.rows <+: b'.rows := List.prefix_of_prefix_length_le (List.prefix_append _ rest)
    (hrows ▸ List.prefix_append _ rest') (by omega)
  have hbatches : batches ≠ [] := by
    rintro rfl
    have hrest : rest = [] := by simpa using hafter.rows_eq.symm
    have hlength := congrArg List.length hrows
    simp only [hrest, List.length_append, List.length_nil] at hlength
    omega
  rw [List.dropLast_cons_of_ne_nil hbatches] at hreached
  exact hfilled.unreached b.rows hne hfront (fun heq => hlt (by rw [heq])) (hreached b (by simp))

/-- Two ways to cut the same rows are the same one if both are greedy. -/
lemma unique {start : Nat} (h : Cuts start rows tokens batches)
    (h' : Cuts start rows tokens batches') (hfilled : ∀ b ∈ batches, b.Filled limits)
    (hfilled' : ∀ b ∈ batches', b.Filled limits)
    (hreached : ∀ b ∈ batches.dropLast, limits.Reached b.rows)
    (hreached' : ∀ b ∈ batches'.dropLast, limits.Reached b.rows) : batches = batches' := by
  induction h generalizing batches' with
  | nil => exact (h'.eq_nil rfl).symm
  | @cons start rest tokens b batches hstart hne htokens hafter ih =>
      generalize hrows : b.rows ++ rest = rows at h'
      cases h' with
      | nil => exact absurd (List.append_eq_nil_iff.1 hrows).1 hne
      | @cons _ rest' _ b' batches' hstart' hne' htokens' hafter' =>
          have hb := hfilled b (by simp)
          have hb' := hfilled' b' (by simp)
          have hlength : b.rows.length = b'.rows.length := Nat.le_antisymm
            (length_le_of_filled hrows.symm hne' hb hafter' hreached')
            (length_le_of_filled hrows hne hb' hafter hreached)
          obtain ⟨hsame, rfl⟩ := List.append_inj hrows hlength
          obtain rfl : b = b' := by
            have hsize : b.size = b'.size := by rw [hb.size_eq, hb'.size_eq, hsame]
            obtain ⟨_, _, _, _⟩ := b
            obtain ⟨_, _, _, _⟩ := b'
            simp_all
          rw [ih hafter' (fun x hx => hfilled x (by simp [hx])) (fun x hx => hfilled' x (by simp [hx]))
            (fun x hx => hreached x (mem_dropLast_cons hx))
            (fun x hx => hreached' x (mem_dropLast_cons hx))]

/-- Tokens that are at least as many as the rows are dealt out one for each row. -/
lemma aligned {start : Nat} (h : Cuts start rows tokens batches)
    (htokens : ∀ ts, tokens = some ts → rows.length ≤ ts.length) : ∀ b ∈ batches, b.Aligned := by
  intro b hb us hus
  obtain ⟨ts, rfl⟩ : ∃ ts, tokens = some ts := by
    rw [← Option.isSome_iff_exists, ← h.tokens_isSome b hb, hus]
    rfl
  obtain ⟨n, -, hle, -, htoks⟩ := h.of_mem hb
  obtain rfl := Option.some.inj (hus.symm.trans (htoks ts rfl))
  have hlong := htokens ts rfl
  rw [List.length_take, List.length_drop, Nat.min_eq_left (by omega)]

/-- Batches that cut rows are greedy if every one of them but the last one has reached a limit, and
none before its last row. -/
lemma greedy (h : Cuts 0 rows tokens batches) (hfilled : ∀ b ∈ batches, b.Filled limits)
    (hreached : ∀ b ∈ batches.dropLast, limits.Reached b.rows) : Greedy limits rows tokens batches where
  nonempty := h.nonempty_of_mem
  rows_eq := h.rows_eq
  tokens_isSome := h.tokens_isSome
  tokens_eq := by
    rintro ts rfl
    exact h.tokens_take
  start_eq before b after hsplit := by rw [h.start_eq hsplit, Nat.zero_add]
  filled := hfilled
  reached := hreached

end Cuts

namespace Greedy

lemma cuts (h : Greedy limits rows tokens batches) (haligned : ∀ b ∈ batches, b.Aligned) :
    Cuts 0 rows tokens batches := by
  have hstart : ∀ before b after, batches = before ++ b :: after →
      b.start = ((0 + (before.flatMap Batch.rows).length : Nat) : Int) := fun before b after hsplit => by
    rw [h.start_eq before b after hsplit, Nat.zero_add]
  have htokens := h.tokens_eq
  rw [← h.rows_eq] at htokens ⊢
  exact .of_start_eq h.nonempty hstart h.tokens_isSome haligned htokens

/-- Greedy batches are greedy also without their tokens. -/
lemma bare (h : Greedy limits rows tokens batches) :
    Greedy limits rows none (batches.map Batch.bare) := by
  have hrows : ∀ l : List Batch, (l.map Batch.bare).flatMap Batch.rows = l.flatMap Batch.rows :=
    fun l => by rw [List.flatMap_map]; rfl
  refine ⟨?_, by rw [hrows, h.rows_eq], ?_, by simp, ?_, ?_, ?_⟩
  · intro _ hmem
    obtain ⟨b, hb, rfl⟩ := List.mem_map.1 hmem
    exact h.nonempty b hb
  · intro _ hmem
    obtain ⟨b, -, rfl⟩ := List.mem_map.1 hmem
    rfl
  · intro before b after hsplit
    obtain ⟨before, rest, rfl, rfl, hrest⟩ := List.map_eq_append_iff.1 hsplit
    obtain ⟨b, after, rfl, rfl, rfl⟩ := List.map_eq_cons_iff.1 hrest
    rw [hrows]
    exact h.start_eq before b after rfl
  · intro _ hmem
    obtain ⟨b, hb, rfl⟩ := List.mem_map.1 hmem
    exact ⟨(h.filled b hb).size_eq, (h.filled b hb).unreached⟩
  · intro _ hmem
    rw [← List.map_dropLast] at hmem
    obtain ⟨b, hb, rfl⟩ := List.mem_map.1 hmem
    exact h.reached b hb

/-- Greedy batches that have a token for each of their rows are determined. -/
lemma unique (h : Greedy limits rows tokens batches) (h' : Greedy limits rows tokens batches')
    (haligned : ∀ b ∈ batches, b.Aligned) (haligned' : ∀ b ∈ batches', b.Aligned) :
    batches = batches' :=
  (h.cuts haligned).unique (h'.cuts haligned') h.filled h'.filled h.reached h'.reached

lemma aligned_bare (batches : List Batch) : ∀ b ∈ batches.map Batch.bare, b.Aligned := by
  intro b hb
  obtain ⟨b, -, rfl⟩ := List.mem_map.1 hb
  simp [Aligned, Batch.bare]

/-- Greedy batches are determined but for their tokens. -/
lemma bare_unique (h : Greedy limits rows tokens batches) (h' : Greedy limits rows tokens batches') :
    batches.map Batch.bare = batches'.map Batch.bare :=
  h.bare.unique h'.bare (aligned_bare batches) (aligned_bare batches')

/-- The rows before the last one of a batch have not reached a limit that is positive. -/
lemma unreached_dropLast (h : Greedy limits rows tokens batches) {b : Batch} (hb : b ∈ batches) :
    (1 ≤ limits.rows → (b.rows.dropLast.length : Int) < limits.rows) ∧
      (1 ≤ limits.size → (estimates b.rows.dropLast : Int) < limits.size) := by
  by_cases hnil : b.rows.dropLast = []
  · rw [hnil]
    exact ⟨Int.lt_of_lt_of_le Int.zero_lt_one, Int.lt_of_lt_of_le Int.zero_lt_one⟩
  · have hproper : b.rows.dropLast ≠ b.rows := fun heq => by
      have hlength := congrArg List.length heq
      have hpos := List.length_pos_of_ne_nil (h.nonempty b hb)
      rw [List.length_dropLast] at hlength
      omega
    have hnot := (h.filled b hb).unreached _ hnil (List.dropLast_prefix _) hproper
    rw [BatchLimits.Reached, not_or, not_le, not_le] at hnot
    exact ⟨fun _ => hnot.2, fun _ => hnot.1⟩

end Greedy

/-- The batches of a plan are greedy, with a token for each row, and they are the only ones that are;
without their tokens they are the only ones that are greedy.  If the limits are positive, no batch has
more rows than it may have, and each exceeds the limit of its size by less than its last row. -/
theorem plan_eq_iff_greedy (limits : BatchLimits) (rows : List Row) (tokens : Option (List Writing))
    (hsized : Sized rows) (htokens : ∀ ts, tokens = some ts → rows.length ≤ ts.length) :
    let planned := (plan limits rows tokens).batches
    (plan limits rows tokens).complete = .ok planned ∧
      (∀ batches, batches = planned ↔
        Greedy limits rows tokens batches ∧ ∀ b ∈ batches, b.Aligned) ∧
      (∀ batches, Greedy limits rows tokens batches → batches.map bare = planned.map bare) ∧
      ∀ b ∈ planned, (1 ≤ limits.rows → (b.rows.length : Int) ≤ limits.rows) ∧
        (1 ≤ limits.size → ∀ last, b.rows.getLast? = some last →
          (b.size : Int) - estimate last < limits.size) := by
  intro planned
  obtain ⟨hcomplete, hcuts⟩ := plan_cuts_of_le limits hsized htokens
  obtain ⟨hfilled, hreached⟩ := planFrom_filled limits hsized (Open.counted_empty 0 tokens.isSome)
    (Open.growing_empty limits 0) htokens
  have hgreedy : Greedy limits rows tokens planned := hcuts.greedy hfilled hreached
  have haligned : ∀ b ∈ planned, b.Aligned := hcuts.aligned htokens
  refine ⟨hcomplete, fun batches => ⟨?_, ?_⟩, ?_, ?_⟩
  · rintro rfl
    exact ⟨hgreedy, haligned⟩
  · rintro ⟨h, haligned'⟩
    exact h.unique hgreedy haligned' haligned
  · exact fun batches h => h.bare_unique hgreedy
  · intro b hb
    obtain ⟨hrows, hsize⟩ := hgreedy.unreached_dropLast hb
    constructor
    · intro hle
      have hcount := hrows hle
      have hpos := List.length_pos_of_ne_nil (hgreedy.nonempty b hb)
      rw [List.length_dropLast] at hcount
      omega
    · intro hle last hlast
      have hall : estimates b.rows = estimates b.rows.dropLast + estimate last := by
        obtain ⟨front, hfront⟩ := List.getLast?_eq_some_iff.1 hlast
        simp [hfront]
      have hless := hsize hle
      rw [(hgreedy.filled b hb).size_eq, hall]
      push_cast
      omega

/-- Three rows, of which the first one reaches the limit of the size and the other two that of the
rows, with a token to spare. -/
theorem plan_eq_iff_greedy_spare :
    let short : Row := .mapping []
    let long : Row := .mapping [(.text "a", .bool true)]
    let limits : BatchLimits := ⟨10, 2⟩
    let planned := (plan limits [long, short, short] (some ["x", "y", "z", "u"])).batches
    Sized [long, short, short] ∧ [long, short, short].length ≤ ["x", "y", "z", "u"].length ∧
      planned = [⟨0, [long], some ["x"], 10⟩, ⟨1, [short, short], some ["y", "z"], 4⟩] ∧
      Greedy limits [long, short, short] (some ["x", "y", "z", "u"]) planned := by
  intro short long limits planned
  have hlong : rowSize long = .ok 10 := by cbv
  have hshort : rowSize short = .ok 2 := by cbv
  have hsized : Sized [long, short, short] := by
    intro row hrow
    rcases List.mem_cons.1 hrow with rfl | hrow
    · exact ⟨10, hlong⟩
    · obtain rfl : row = short := by simpa using hrow
      exact ⟨2, hshort⟩
  have hbatches : planned =
      [⟨0, [long], some ["x"], 10⟩, ⟨1, [short, short], some ["y", "z"], 4⟩] := by
    simp [planned, plan, planFrom, takeToken, hlong, hshort, BatchLimits.reached, Plan.after,
      Open.add, Open.close, Open.empty, limits]
  obtain ⟨-, hplanned, -, -⟩ := plan_eq_iff_greedy limits [long, short, short]
    (some ["x", "y", "z", "u"]) hsized (by rintro ts ⟨rfl⟩; decide)
  exact ⟨hsized, by decide, hbatches, ((hplanned _).1 rfl).1⟩

/-- Two rows go into two batches.  All tokens may as well be in the first one, if it only counts what
the tokens are one behind the other. -/
theorem Greedy.not_unique :
    let row : Row := .mapping []
    let limits : BatchLimits := ⟨64 * 1024, 1⟩
    let batches : List Batch := [⟨0, [row], some ["x", "y"], 2⟩, ⟨1, [row], some [], 2⟩]
    Sized [row, row] ∧ Greedy limits [row, row] (some ["x", "y"]) batches ∧
      batches ≠ (plan limits [row, row] (some ["x", "y"])).batches := by
  intro row limits batches
  have hsize : rowSize row = .ok 2 := rowSize_mapping_nil
  have hsized : Sized [row, row] := by
    intro row' hrow
    obtain rfl : row' = row := by simpa using hrow
    exact ⟨2, hsize⟩
  have hestimates : estimates [row] = 2 := by simp [estimate_eq hsize]
  -- a batch of one row has no rows before its last one
  have hfilled : ∀ start tokens, (⟨start, [row], tokens, 2⟩ : Batch).Filled limits := by
    refine fun start tokens => ⟨hestimates.symm, fun front hne hfront hproper => absurd ?_ hproper⟩
    exact hfront.eq_of_length_le (List.length_pos_of_ne_nil hne)
  refine ⟨hsized, ⟨by simp [batches], rfl, by simp [batches], ?_, ?_, ?_, ?_⟩, ?_⟩
  · rintro ts ⟨rfl⟩
    rfl
  · intro before b after hsplit
    rcases before with _ | ⟨b₀, _ | ⟨b₁, before⟩⟩
    · obtain ⟨rfl, -⟩ := List.cons.inj hsplit
      rfl
    · obtain ⟨rfl, hrest⟩ := List.cons.inj hsplit
      obtain ⟨rfl, -⟩ := List.cons.inj hrest
      rfl
    · simp [batches] at hsplit
  · simp [batches, hfilled]
  · simp [batches, BatchLimits.Reached, limits]
  · intro heq
    have htokens := congrArg (List.map Batch.tokens) heq
    revert htokens
    decide +kernel

end Batch

end TableFeed
