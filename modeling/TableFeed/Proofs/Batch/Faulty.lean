import TableFeed.Proofs.Batch.Greedy

/-!
# Plans that end early

A plan is made row by row, and the first row that has no token or no size ends it.  The batches that
were closed before stand; the batch that is open then is lost with its rows.  Had the rows ended there,
this batch would have been closed for want of rows, so that the batches that stand are those of the rows
before the fault, without the last one if that has reached no limit.

The main results are

* `Batch.planFrom_fault_eq_none`: a plan ends early only at such a row;
* `Batch.FirstFault.haltsAt`: it ends at the first one, and which batches stand.
-/

namespace TableFeed.Batch

variable {limits : BatchLimits} {row : Row} {rows rest : List Row} {tokens : Option (List Writing)}
  {i : Nat} {f : Fault}

/-! ### Faults of rows -/

/-- What ends a plan at a position, if it gets there: the row has no token where rows should have some,
or it has no size. -/
inductive FaultAt (rows : List Row) (tokens : Option (List Writing)) (i : Nat) : Fault → Prop where
  /-- The position is beyond the end of the tokens. -/
  | token {ts : List Writing} (hrow : i < rows.length) (htokens : tokens = some ts)
      (hle : ts.length ≤ i) : FaultAt rows tokens i .position
  /-- The row has no size. -/
  | size {row : Row} {f : Fault} (hrow : rows[i]? = some row)
      (htokens : ∀ ts, tokens = some ts → i < ts.length) (hsize : rowSize row = .error f) :
      FaultAt rows tokens i f

/-- The first position that ends a plan. -/
structure FirstFault (rows : List Row) (tokens : Option (List Writing)) (i : Nat) (f : Fault) :
    Prop where
  faultAt : FaultAt rows tokens i f
  before : ∀ j < i, ∀ g, ¬ FaultAt rows tokens j g

namespace FaultAt

lemma lt_length (h : FaultAt rows tokens i f) : i < rows.length := by
  cases h with
  | token hrow _ _ => exact hrow
  | size hrow _ _ => exact (List.getElem?_eq_some_iff.1 hrow).1

/-- Rows have the faults that they have as a part of more rows. -/
lemma take_iff {n : Nat} : FaultAt (rows.take n) tokens i f ↔ i < n ∧ FaultAt rows tokens i f := by
  constructor
  · intro h
    have hlt := h.lt_length
    rw [List.length_take, Nat.lt_min] at hlt
    refine ⟨hlt.1, ?_⟩
    cases h with
    | token _ htokens hle => exact .token hlt.2 htokens hle
    | size hrow htokens hsize =>
        rw [List.getElem?_take_of_lt hlt.1] at hrow
        exact .size hrow htokens hsize
  · rintro ⟨hlt, h⟩
    cases h with
    | token hrow htokens hle =>
        exact .token (by rw [List.length_take, Nat.lt_min]; exact ⟨hlt, hrow⟩) htokens hle
    | size hrow htokens hsize =>
        exact .size (by rwa [List.getElem?_take_of_lt hlt]) htokens hsize

lemma succ_iff : FaultAt (row :: rest) tokens (i + 1) f ↔ FaultAt rest (tokens.map List.tail) i f := by
  constructor
  · intro h
    cases h with
    | token hrow htokens hle =>
        subst htokens
        exact .token (by simpa using hrow) rfl (by simpa using hle)
    | size hrow htokens hsize =>
        refine .size (by simpa using hrow) (fun us hus => ?_) hsize
        obtain ⟨ts, rfl, rfl⟩ := Option.map_eq_some_iff.1 hus
        have := htokens ts rfl
        rw [List.length_tail]
        omega
  · intro h
    generalize hleft : tokens.map List.tail = left at h
    cases h with
    | token hrow htokens hle =>
        subst htokens
        obtain ⟨ts, rfl, rfl⟩ := Option.map_eq_some_iff.1 hleft
        exact .token (by simpa using hrow) rfl (by simpa using hle)
    | size hrow htokens hsize =>
        refine .size (by simpa using hrow) (fun ts hts => ?_) hsize
        subst hts
        have := htokens ts.tail hleft.symm
        rw [List.length_tail] at this
        omega

/-- What the plan finds wrong with the first row, if anything. -/
lemma zero_iff : FaultAt (row :: rest) tokens 0 f ↔
    takeToken tokens = .error f ∨ (∃ x, takeToken tokens = .ok x) ∧ rowSize row = .error f := by
  constructor
  · intro h
    cases h with
    | @token ts _ htokens hle =>
        obtain rfl : ts = [] := List.eq_nil_of_length_eq_zero (by omega)
        subst htokens
        exact .inl rfl
    | @size row' _ hrow htokens hsize =>
        obtain rfl : row = row' := by simpa using hrow
        match tokens with
        | none => exact .inr ⟨⟨_, rfl⟩, hsize⟩
        | some [] => simpa using htokens [] rfl
        | some (_ :: _) => exact .inr ⟨⟨_, rfl⟩, hsize⟩
  · rintro (hnone | ⟨⟨x, hsome⟩, hsize⟩)
    · match tokens with
      | none => simp [takeToken] at hnone
      | some [] =>
          obtain rfl : Fault.position = f := by simpa [takeToken] using hnone
          exact .token (by simp) rfl (by simp)
      | some (_ :: _) => simp [takeToken] at hnone
    · refine .size rfl (fun ts hts => ?_) hsize
      subst hts
      cases ts with
      | nil => simp [takeToken] at hsome
      | cons _ _ => simp

end FaultAt

/-- A first fault that is not in the first row is the first one of the rows after it. -/
lemma FirstFault.of_succ (h : FirstFault (row :: rest) tokens (i + 1) f) :
    FirstFault rest (tokens.map List.tail) i f where
  faultAt := FaultAt.succ_iff.1 h.faultAt
  before j hj g hg := h.before (j + 1) (by omega) g (FaultAt.succ_iff.2 hg)

lemma FirstFault.take {n : Nat} (h : FirstFault rows tokens i f) (hlt : i < n) :
    FirstFault (rows.take n) tokens i f where
  faultAt := FaultAt.take_iff.2 ⟨hlt, h.faultAt⟩
  before j hj g hg := h.before j hj g (FaultAt.take_iff.1 hg).2

/-! ### Plans with a fault -/

variable {o : Open}

lemma planFrom_of_faultAt (h : FaultAt (row :: rest) tokens 0 f) :
    planFrom limits o (row :: rest) tokens = ⟨[], some f⟩ := by
  rcases FaultAt.zero_iff.1 h with hnone | ⟨⟨x, hsome⟩, hsize⟩
  · simp [planFrom, hnone]
  · simp [planFrom, hsome, hsize]

/-- A row without a fault has a token, if there are tokens, and a size. -/
lemma exists_of_not_faultAt (h : ∀ g, ¬ FaultAt (row :: rest) tokens 0 g) :
    ∃ token size, takeToken tokens = .ok (token, tokens.map List.tail) ∧ rowSize row = .ok size := by
  have htoken : ∃ token, takeToken tokens = .ok (token, tokens.map List.tail) := by
    match tokens with
    | none => exact ⟨_, rfl⟩
    | some [] => exact absurd (FaultAt.zero_iff.2 (.inl rfl)) (h .position)
    | some (_ :: _) => exact ⟨_, rfl⟩
  obtain ⟨token, htoken⟩ := htoken
  rcases hsize : rowSize row with g | size
  · exact absurd (FaultAt.zero_iff.2 (.inr ⟨⟨_, htoken⟩, hsize⟩)) (h g)
  · exact ⟨token, size, htoken, rfl⟩

/-- A plan that meets no fault comes to its end. -/
lemma planFrom_fault_eq_none (h : ∀ j g, ¬ FaultAt rows tokens j g) :
    (planFrom limits o rows tokens).fault = none := by
  induction rows generalizing o tokens with
  | nil => rfl
  | cons row rest ih =>
      obtain ⟨token, size, htake, hsize⟩ := exists_of_not_faultAt (h 0)
      have hrest : ∀ j g, ¬ FaultAt rest (tokens.map List.tail) j g :=
        fun j g hg => h (j + 1) g (FaultAt.succ_iff.2 hg)
      simp only [planFrom, htake, hsize]
      split
      · exact ih hrest
      · exact ih hrest

/-- Batches without the last one, unless that has reached a limit. -/
def full (limits : BatchLimits) (batches : List Batch) : List Batch :=
  if batches.getLast?.any fun b => limits.reached b.size b.rows.length then batches
  else batches.dropLast

lemma full_cons_of_reached {b : Batch} {batches : List Batch}
    (h : limits.reached b.size b.rows.length = true) :
    full limits (b :: batches) = b :: full limits batches := by
  cases batches with
  | nil => simp [full, h]
  | cons b' later =>
      rw [full, full, List.getLast?_cons_cons, List.dropLast_cons_of_ne_nil (by simp)]
      split <;> rfl

lemma full_singleton_of_not_reached {b : Batch} (h : limits.reached b.size b.rows.length = false) :
    full limits [b] = [] := by simp [full, h]

/-- A batch has reached a limit when it is closed if it had reached one before. -/
lemma Open.reached_close (ho : o.count = o.rows.length) {tokened : Bool} :
    limits.reached (o.close tokened).size (o.close tokened).rows.length =
      limits.reached o.size o.count := by
  rw [ho]
  simp [Open.close]

/-- The plan of an open batch and the rows that are still to come ends with the first fault of these,
and its batches are those of the rows before the fault, as far as a limit has closed them. -/
lemma planFrom_halts (h : FirstFault rows tokens i f) (ho : o.count = o.rows.length) :
    (planFrom limits o rows tokens).fault = some f ∧
      (planFrom limits o rows tokens).batches =
        full limits (planFrom limits o (rows.take i) tokens).batches := by
  induction rows generalizing o tokens i with
  | nil => exact absurd h.faultAt.lt_length (by simp)
  | cons row rest ih =>
      cases i with
      | zero =>
          rw [planFrom_of_faultAt h.faultAt]
          exact ⟨rfl, rfl⟩
      | succ i =>
          obtain ⟨token, size, htake, hsize⟩ := exists_of_not_faultAt (h.before 0 (Nat.succ_pos i))
          have hrest := h.of_succ
          have hsome : rest ≠ [] := List.ne_nil_of_length_pos (Nat.zero_lt_of_lt hrest.faultAt.lt_length)
          have hcount : (o.add row token size).count = (o.add row token size).rows.length := by
            simp [Open.add, ho]
          simp only [List.take_succ_cons, planFrom, htake, hsize, List.isEmpty_eq_false_iff.2 hsome,
            Bool.or_false]
          cases hreached : limits.reached (o.add row token size).size (o.add row token size).count with
          | true =>
              -- the row closes its batch in both plans
              obtain ⟨hfault, hbatches⟩ := ih (o := .empty (o.start + (o.count + 1))) hrest rfl
              rw [if_pos rfl, Bool.true_or, if_pos rfl]
              refine ⟨hfault, (congrArg _ hbatches).trans (full_cons_of_reached ?_).symm⟩
              rw [Open.reached_close hcount, hreached]
          | false =>
              obtain ⟨hfault, hbatches⟩ := ih hrest hcount
              rw [if_neg Bool.false_ne_true, Bool.false_or]
              refine ⟨hfault, hbatches.trans ?_⟩
              cases i with
              | zero =>
                  -- only the rows before the fault end here, and close what has reached no limit
                  rw [List.take_zero, List.isEmpty_nil, if_pos rfl]
                  refine (full_singleton_of_not_reached ?_).symm
                  rw [Open.reached_close hcount, hreached]
              | succ i =>
                  have hlater : rest.take (i + 1) ≠ [] := by simpa using hsome
                  rw [List.isEmpty_eq_false_iff.2 hlater, if_neg Bool.false_ne_true]

lemma FirstFault.fault_eq (h : FirstFault rows tokens i f) : (plan limits rows tokens).fault = some f :=
  (planFrom_halts h rfl).1

/-- What there is to say of a plan that ends at a position: every plan that gets there ends with the same
fault, none ends before, and the batches are those of the rows before it, without the last one if that
has reached no limit. -/
structure HaltsAt (limits : BatchLimits) (rows : List Row) (tokens : Option (List Writing)) (i : Nat)
    (f : Fault) : Prop where
  fault_eq : ∀ n, (plan limits (rows.take n) tokens).fault = if n ≤ i then none else some f
  batches_eq : (plan limits rows tokens).batches =
    full limits (plan limits (rows.take i) tokens).batches

/-- A plan ends at the first row that has no token or no size, wherever the limits close the batches. -/
theorem FirstFault.haltsAt (limits : BatchLimits) (h : FirstFault rows tokens i f) :
    HaltsAt limits rows tokens i f where
  fault_eq n := by
    split
    · next hle =>
        refine planFrom_fault_eq_none fun j g hg => ?_
        obtain ⟨hlt, hg⟩ := FaultAt.take_iff.1 hg
        exact h.before j (by omega) g hg
    · next hlt => exact (h.take (by omega)).fault_eq
  batches_eq := (planFrom_halts h rfl).2

/-- With a row that reaches a limit its batch stands, and otherwise it is lost with the batch. -/
example : ((plan ⟨64, 1⟩ [.mapping [], .mapping []] (some ["a"])).batches.map Batch.start,
    (plan ⟨64, 2⟩ [.mapping [], .mapping []] (some ["a"])).batches.map Batch.start) = ([0], []) := by
  decide

end TableFeed.Batch
