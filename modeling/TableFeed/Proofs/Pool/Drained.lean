import TableFeed.Proofs.Insert.Steps

/-!
# What a drain does

A drain closes the pool and sleeps, and calls may run while it does.  So it keeps what calls keep, and
where no call is open it leaves the store and the calls alone.
-/

namespace TableFeed

/-! ### Steps while a condition holds -/

section Steps

variable {ω : Type} {going : ω → Bool} {step : ω → ω}

lemma stepWhile_eq (w : ω) : stepWhile going step w =
    if going w then stepWhile going step (step w) else some w := by
  rw [stepWhile, Loop.run]
  rfl

/-- What is true of states in which no step is taken, and is true before a step if it is after it, is
true of a state and the one in which the steps come to an end. -/
lemma stepWhile_induction {motive : ω → ω → Prop} (hstops : ∀ w, going w = false → motive w w)
    (hgoes : ∀ w w', going w = true → motive (step w) w' → motive w w') {w w' : ω}
    (h : stepWhile going step w = some w') : motive w w' := by
  refine Loop.run.partial_correctness ⟨going, step⟩ motive ?_ w w' h
  intro loop ih w w' h
  split at h
  · next hgoing => exact hgoes w w' hgoing (ih (step w) w' h)
  · next hgoing => exact Option.some.inj h ▸ hstops w (Bool.eq_false_of_not_eq_true hgoing)

lemma stepWhile_keeps {I : ω → Prop} (hstep : ∀ w, I w → I (step w)) {w w' : ω} (hw : I w)
    (h : stepWhile going step w = some w') : I w' :=
  stepWhile_induction (motive := fun w w' => I w → I w') (fun _ _ hw => hw)
    (fun w _ _ ih hw => ih (hstep w hw)) h hw

end Steps

/-- What every sleep keeps and holds once the pool is closed, holds after a drain. -/
lemma Waiting.drain_keeps_of_closed {ω κ α : Type} {I : ω → Prop} (v : Waiting ω κ α)
    (hsleep : ∀ w, I w → I (v.sleep w)) (timeout : Option Float) {w : ω}
    (hclosed : I (v.setPool (v.pool w).close w)) : I (v.drain timeout w).2.2 := by
  rw [drain]
  dsimp only
  generalize v.setPool (v.pool w).close w = w₁ at hclosed ⊢
  split
  · exact hclosed
  · have hslept : ∀ deadline, I ((stepWhile (v.going deadline) v.sleep w₁).getD w₁) := by
      intro deadline
      cases hwait : stepWhile (v.going deadline) v.sleep w₁ with
      | none => exact hclosed
      | some w₂ => exact stepWhile_keeps hsleep hclosed hwait
    split
    · exact hslept _
    · exact hslept _

/-- What closing the pool and every sleep keep holds after a drain. -/
lemma Waiting.drain_keeps {ω κ α : Type} {I : ω → Prop} (v : Waiting ω κ α)
    (hclose : ∀ w, I w → I (v.setPool (v.pool w).close w)) (hsleep : ∀ w, I w → I (v.sleep w))
    (timeout : Option Float) {w : ω} (hw : I w) : I (v.drain timeout w).2.2 :=
  v.drain_keeps_of_closed hsleep timeout (hclose w hw)

/-- A drain tells the operator at most whether calls were left behind. -/
lemma Waiting.drain_tells {ω κ α : Type} (v : Waiting ω κ α) (timeout : Option Float) (w : ω) :
    ∀ e ∈ (v.drain timeout w).2.1,
      e = .poolDrained ∨ ∃ n seconds, e = .poolAbandoned n seconds := by
  intro e he
  rw [drain] at he
  dsimp only at he
  split at he
  · simp at he
  · split at he
    · exact .inl (by simpa using he)
    · exact .inr ⟨_, _, by simpa using he⟩

namespace World

variable {σ : Type} {c : Client σ} {w : World σ}

/-- What every call keeps holds after a drain, if it is about the store and the calls only. -/
theorem drain_run {I : World σ → Prop} (s : Schedule)
    (haside : ∀ w w', w'.remote = w.remote → w'.pool.calls = w.pool.calls → I w → I w')
    (hcall : ∀ n w, I w → I (runCall c n w)) (hw : I w) :
    ∃ done w', (drain c s).run w = (.ok done, w') ∧ I w' := by
  have hruns : ∀ calls x, I x → I (runCalls c calls x) := by
    intro calls
    induction calls with
    | nil => exact fun x hx => hx
    | cons n rest ih => exact fun x hx => ih _ (hcall n x hx)
  have hdrained := (waiting c s).drain_keeps (fun x hx => haside x _ rfl rfl hx)
    (fun x hx => hruns _ _ (haside x _ rfl rfl hx)) none hw
  generalize hdrain : (waiting c s).drain none w = x at hdrained
  obtain ⟨done, events, w'⟩ := x
  refine ⟨done, w'.tell events, ?_, haside w' _ rfl rfl hdrained⟩
  simp only [drain, Action.run, hdrain]

/-- A drain of a pool without open calls changes neither the store nor the calls. -/
lemma drain_of_finished (c : Client σ) (s : Schedule) (hw : ∀ n, w.pool.openJob? n = none) :
    ∃ done w', (drain c s).run w = (.ok done, w') ∧ w'.remote = w.remote ∧
      w'.pool.calls = w.pool.calls := by
  refine drain_run (I := fun x => x.remote = w.remote ∧ x.pool.calls = w.pool.calls) s ?_ ?_ ⟨rfl, rfl⟩
  · rintro x y hremote hcalls ⟨hx, hx'⟩
    exact ⟨hremote.trans hx, hcalls.trans hx'⟩
  · rintro n x ⟨hx, hx'⟩
    have hopen : x.pool.openJob? n = none := by
      rw [← hw n, Pool.openJob?, Pool.openJob?, hx']
    rw [runCall_of_finished hopen]
    exact ⟨hx, hx'⟩

end World

end TableFeed
