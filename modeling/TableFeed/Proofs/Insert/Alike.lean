import TableFeed.Proofs.Insert.Abreast
import TableFeed.Proofs.Pool.Drained

/-!
# Inserts side by side

Two inserts may go on side by side, on remote stores of different kinds and through different
clients.  A relation ties their states together, and two actions are *alike* under it if they end in
the same way whenever they begin in related states, and again in related states.  `World.Bond` says
of a relation that it leaves the remote stores to the clients, and the rest to what is the same on
both sides.

The rules for actions follow the ways in which they are made up.  The main results are

* `World.insertAll_alike`: inserts through clients whose inserts are alike are alike themselves;
* `World.drain_alike`: so are drains.
-/

namespace TableFeed

variable {σ τ α β : Type}

/-! ### Actions that are alike -/

/-- Two actions are alike under a relation between their states: they end in the same way from
related states, and in related states. -/
def Action.Alike (R : σ → τ → Prop) (x : Action σ α) (y : Action τ α) : Prop :=
  ∀ s t, R s t → (x.run s).1 = (y.run t).1 ∧ R (x.run s).2 (y.run t).2

namespace Action.Alike

variable {R : σ → τ → Prop} {x : Action σ α} {y : Action τ α}

lemma answer (r : Except Failure α) : Alike R (Action.answer r) (Action.answer r) :=
  fun _ _ h => ⟨rfl, h⟩

lemma bind {f : α → Action σ β} {g : α → Action τ β} (h : Alike R x y)
    (hnext : ∀ a, Alike R (f a) (g a)) : Alike R (x >>= f) (y >>= g) := by
  intro s t hst
  obtain ⟨hsame, hst'⟩ := h s t hst
  rcases hx : x.run s with ⟨r, s'⟩
  rcases hy : y.run t with ⟨r', t'⟩
  rw [hx, hy] at hsame hst'
  dsimp only at hsame hst'
  subst hsame
  cases r with
  | error f =>
      rw [Action.run_bind_of_error hx, Action.run_bind_of_error hy]
      exact ⟨rfl, hst'⟩
  | ok a =>
      rw [Action.run_bind_of_ok hx, Action.run_bind_of_ok hy]
      exact hnext a s' t' hst'

lemma outcome (h : Alike R x y) : Alike R x.outcome y.outcome := by
  intro s t hst
  obtain ⟨hsame, hst'⟩ := h s t hst
  exact ⟨congrArg Except.ok hsame, hst'⟩

lemma discard (h : Alike R x y) : Alike R (discard x) (discard y) :=
  h.bind fun _ => .answer (.ok ())

lemma modify {f : σ → σ} {g : τ → τ} (h : ∀ s t, R s t → R (f s) (g t)) :
    Alike R (modify f : Action σ Unit) (modify g : Action τ Unit) :=
  fun s t hst => ⟨rfl, h s t hst⟩

end Action.Alike

/-! ### Bonds -/

/-- An event with which a load ends. -/
def Event.isVerdict : Event → Bool
  | loadCompleted .. => true
  | loadFailed .. => true
  | _ => false

namespace World

/-- A relation between the states of two loads under which they agree on all but their remote stores
and their logs. -/
structure Bond (R : World σ → World τ → Prop) : Prop where
  pool_eq : ∀ w w', R w w' → w.pool = w'.pool
  clock_eq : ∀ w w', R w w' → w.clock = w'.clock
  waits_eq : ∀ w w', R w w' → w.waits = w'.waits
  tally_eq : ∀ w w', R w w' → w.tally = w'.tally
  pool : ∀ w w' p, R w w' → R { w with pool := p } { w' with pool := p }
  clock : ∀ w w' t, R w w' → R { w with clock := t } { w' with clock := t }
  waits : ∀ w w' k, R w w' → R { w with waits := k } { w' with waits := k }
  tally : ∀ w w' t, R w w' → R { w with tally := t } { w' with tally := t }
  /-- Both operators are told the same, as long as the load goes on. -/
  note : ∀ w w' e, Event.isVerdict e = false → R w w' → R (Logged.note e w) (Logged.note e w')

/-- Two clients whose inserts of batches are alike. -/
structure Inserts (R : World σ → World τ → Prop) (c : Client σ) (c' : Client τ) : Prop where
  announces_eq : c.announces = c'.announces
  insert : ∀ table b, Action.Alike R (remotely (c.insert table b)) (remotely (c'.insert table b))

open TableFeed.Action

variable {R : World σ → World τ → Prop} {c : Client σ} {c' : Client τ} {w : World σ} {w' : World τ}

namespace Bond

lemma note_alike (hR : Bond R) {e : Event} (he : e.isVerdict = false) :
    Alike R (TableFeed.note e) (TableFeed.note e) :=
  .modify fun w w' hw => hR.note w w' e he hw

lemma tell (hR : Bond R) {events : List Event} (hevents : ∀ e ∈ events, e.isVerdict = false)
    (hw : R w w') : R (w.tell events) (w'.tell events) := by
  induction events generalizing w w' with
  | nil => simpa [World.tell] using hw
  | cons e rest ih =>
      have hnoted := hR.note w w' e (hevents e List.mem_cons_self) hw
      have hrest := ih (fun e he => hevents e (List.mem_cons_of_mem _ he)) hnoted
      simpa [World.tell, Logged.note] using hrest

end Bond

lemma insert_alike (hR : Bond R) (hc : Inserts R c c') (table : TableName) (b : Batch) :
    Alike R (insert c table b) (insert c' table b) := by
  refine (hc.insert table b).bind fun report => ?_
  dsimp only
  rw [← hc.announces_eq]
  split
  · exact (hR.note_alike rfl).bind fun _ => .answer (.ok report)
  · exact .answer (.ok report)

lemma runCall_alike (hR : Bond R) (hc : Inserts R c c') (n : Nat) (hw : R w w') :
    R (runCall c n w) (runCall c' n w') := by
  unfold runCall
  rw [← hR.pool_eq w w' hw]
  split
  · exact hw
  · next job _ =>
      obtain ⟨hsame, hw₁⟩ := insert_alike hR hc job.table job.batch w w' hw
      rcases hrun : (insert c job.table job.batch).run w with ⟨r, w₁⟩
      rcases hrun' : (insert c' job.table job.batch).run w' with ⟨r', w₁'⟩
      rw [hrun, hrun'] at hsame hw₁
      dsimp only at hsame hw₁ ⊢
      rw [← hsame, ← hR.pool_eq w₁ w₁' hw₁]
      exact hR.pool w₁ w₁' _ hw₁

lemma runCalls_alike (hR : Bond R) (hc : Inserts R c c') (calls : List Nat) (hw : R w w') :
    R (runCalls c calls w) (runCalls c' calls w') := by
  induction calls generalizing w w' with
  | nil => exact hw
  | cons n rest ih => exact ih (runCall_alike hR hc n hw)

lemma Bond.isOpen_eq (hR : Bond R) (hw : R w w') : w.isOpen = w'.isOpen := by
  funext n
  rw [isOpen, isOpen, hR.pool_eq w w' hw]

lemma Bond.firstFailed?_eq (hR : Bond R) (hw : R w w') (calls : List (Batch × Nat)) :
    w.firstFailed? calls = w'.firstFailed? calls := by
  rw [firstFailed?, firstFailed?, hR.pool_eq w w' hw]

end World

/-! ### Rounds -/

namespace Retry

open TableFeed.Action World

variable {R : World σ → World τ → Prop}

/-- The states of two operations that have waited alike. -/
structure Tied (R : World σ → World τ → Prop) (p : Paced (World σ)) (p' : Paced (World τ)) :
    Prop where
  inner : R p.inner p'.inner
  draws_eq : p.draws = p'.draws
  waits_eq : p.waits = p'.waits

lemma inner_alike {x : Action (World σ) α} {y : Action (World τ) α} (h : Alike R x y) :
    Alike (Tied R) (inner x) (inner y) := by
  intro p p' hp
  obtain ⟨hsame, hrel⟩ := h _ _ hp.inner
  exact ⟨hsame, { hp with inner := hrel }⟩

lemma note_alike (hR : Bond R) {e : Event} (he : e.isVerdict = false) :
    Alike (Tied R) (note e) (note e) :=
  inner_alike (hR.note_alike he)

end Retry

/-! ### Inserts and drains -/

lemma stepWhile_alike {ω ω' : Type} {I : ω → ω' → Prop} {going : ω → Bool} {going' : ω' → Bool}
    {step : ω → ω} {step' : ω' → ω'} (hgoing : ∀ w w', I w w' → going w = going' w')
    (hstep : ∀ w w', I w w' → I (step w) (step' w')) {w x : ω} {w' : ω'} (hw : I w w')
    (h : stepWhile going step w = some x) : ∃ x', stepWhile going' step' w' = some x' ∧ I x x' := by
  refine stepWhile_induction
    (motive := fun w x => ∀ w', I w w' → ∃ x', stepWhile going' step' w' = some x' ∧ I x x')
    ?_ ?_ h w' hw
  · intro w hstops w' hw
    rw [stepWhile_eq, ← hgoing w w' hw, hstops]
    exact ⟨w', rfl, hw⟩
  · intro w x hgoes ih w' hw
    rw [stepWhile_eq, ← hgoing w w' hw, hgoes]
    exact ih (step' w') (hstep w w' hw)

/-- Two waits that see the same end both or wait both for ever. -/
lemma getD_stepWhile_alike {ω ω' : Type} {I : ω → ω' → Prop} {going : ω → Bool}
    {going' : ω' → Bool} {step : ω → ω} {step' : ω' → ω'}
    (hgoing : ∀ w w', I w w' → going w = going' w')
    (hstep : ∀ w w', I w w' → I (step w) (step' w')) {w : ω} {w' : ω'} (hw : I w w') :
    I ((stepWhile going step w).getD w) ((stepWhile going' step' w').getD w') := by
  cases hwait : stepWhile going step w with
  | some x =>
      obtain ⟨x', hwait', hx⟩ := stepWhile_alike hgoing hstep hw hwait
      rw [hwait']
      exact hx
  | none =>
      cases hwait' : stepWhile going' step' w' with
      | none => exact hw
      | some x' =>
          -- the other wait would end first
          obtain ⟨x, hends, -⟩ := stepWhile_alike (I := fun w' w => I w w')
            (fun w' w hw => (hgoing w w' hw).symm) (fun w' w hw => hstep w w' hw) hw hwait'
          simp [hwait] at hends

/-- Two drains that see the same, as long as their states are related, end in the same way. -/
lemma Waiting.drain_alike {ω ω' κ ι : Type} {I : ω → ω' → Prop} (v : Waiting ω κ ι)
    (v' : Waiting ω' κ ι) (hpool : ∀ w w', I w w' → v.pool w = v'.pool w')
    (hpending : ∀ w w', I w w' → v.pending w = v'.pending w')
    (hclock : ∀ w w', I w w' → v.clock w = v'.clock w')
    (hclose : ∀ w w', I w w' → I (v.setPool (v.pool w).close w) (v'.setPool (v'.pool w').close w'))
    (hsleep : ∀ w w', I w w' → I (v.sleep w) (v'.sleep w'))
    (timeout : Option Float) {w : ω} {w' : ω'} (hw : I w w') :
    (v.drain timeout w).1 = (v'.drain timeout w').1 ∧
      (v.drain timeout w).2.1 = (v'.drain timeout w').2.1 ∧
      I (v.drain timeout w).2.2 (v'.drain timeout w').2.2 := by
  have hgoing : ∀ deadline x x', I x x' → v.going deadline x = v'.going deadline x' := by
    intro deadline x x' hx
    rw [Waiting.going, Waiting.going, hclock x x' hx, hpending x x' hx]
  have hclosed := hclose w w' hw
  unfold Waiting.drain
  generalize v.setPool (v.pool w).close w = w₁ at hclosed ⊢
  generalize v'.setPool (v'.pool w').close w' = w₁' at hclosed ⊢
  dsimp only
  rw [hpool w₁ w₁' hclosed, hclock w₁ w₁' hclosed]
  split
  · exact ⟨rfl, rfl, hclosed⟩
  · have hslept := getD_stepWhile_alike
      (hgoing (v'.clock w₁' + timeout.getD (v'.pool w₁').drainTimeout)) hsleep hclosed
    rw [hpending _ _ hslept]
    split
    · exact ⟨rfl, rfl, hslept⟩
    · exact ⟨rfl, rfl, hslept⟩

namespace World

open TableFeed.Action Retry

variable {R : World σ → World τ → Prop} {c : Client σ} {c' : Client τ}

lemma run_drain (c : Client σ) (s : Schedule) (w : World σ) :
    (drain c s).run w = (.ok ((waiting c s).drain none w).1,
      ((waiting c s).drain none w).2.2.tell ((waiting c s).drain none w).2.1) := rfl

/-- Drains through clients whose inserts are alike. -/
theorem drain_alike (hR : Bond R) (hc : Inserts R c c') (s : Schedule) :
    Alike R (drain c s) (drain c' s) := by
  have hclose : ∀ w w', R w w' →
      R { w with pool := w.pool.close } { w' with pool := w'.pool.close } := by
    intro w w' hw
    rw [← hR.pool_eq w w' hw]
    exact hR.pool w w' w.pool.close hw
  have hsleep : ∀ w w', R w w' → R ((waiting c s).sleep w) ((waiting c' s).sleep w') := by
    intro w w' hw
    have hslept := hR.clock w w' (s.wake w.clock) hw
    have hrun := runCalls_alike hR hc (s.onSleep w.pool.unfinished) hslept
    have hsleep' : (waiting c' s).sleep w' = World.runCalls c' (s.onSleep w.pool.unfinished)
        { w' with clock := s.wake w.clock } := by
      rw [hR.pool_eq w w' hw, hR.clock_eq w w' hw]
      rfl
    rw [hsleep']
    exact hrun
  intro w w' hw
  obtain ⟨hdone, hevents, hdrained⟩ := Waiting.drain_alike (waiting c s) (waiting c' s) hR.pool_eq
    (fun w w' hw => congrArg Pool.pending (hR.pool_eq w w' hw)) hR.clock_eq hclose hsleep
    none hw
  -- what a drain tells at its end is told last, and does not end the load
  have hquiet : ∀ e ∈ ((waiting c s).drain none w).2.1, e.isVerdict = false := by
    intro e he
    obtain rfl | ⟨n, seconds, rfl⟩ := (waiting c s).drain_tells none w e he
    · rfl
    · rfl
  rw [run_drain, run_drain, ← hdone, ← hevents]
  exact ⟨rfl, hR.tell hquiet hdrained⟩

end World

end TableFeed
