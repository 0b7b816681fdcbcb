import TableFeed.Proofs.Insert.Courses

/-!
# Interrupted inserts

The user may interrupt an insert while it waits for the calls of a round, and while it sleeps after
a round.  Either ends the insert at once.  The failure names rows by the caller's positions: those
whose calls have not finished when it is the wait that is interrupted, and those that the round
rejected when it is the sleep.  What other calls of the round have come to does not matter.

The main result is `World.insertAll_interrupted`.
-/

namespace TableFeed

open Position World

variable {σ : Type} {s : Schedule} {pace : Pace} {policy : Policy} {table : TableName}
  {rows : List Row} {tokens : Option (List Writing)} {p p' : Paced (World σ)}
  {ds before after : List Dispatch} {d : Dispatch} {r : Except Failure Nat}

namespace Dispatch

variable {w : World σ} {attempt wait sleep sleeps : Nat}

lemma Unfinished.mem_origin {n : Int} (h : d.Unfinished w n) : n ∈ d.origin := by
  obtain ⟨x, hx, -⟩ := h
  exact hx.mem_origin

/-- An insert whose last wait for calls was interrupted. -/
lemma Finishes.of_wait (h : d.Finishes s pace policy table w attempt wait sleep r sleeps)
    (hinterrupt : s.interrupts wait = true) :
    sleeps = sleep ∧ ∃ outstanding, r = .error (.interrupted (.inserting table.spec) outstanding) ∧
      outstanding.Pairwise (· < ·) ∧ ∀ n, n ∈ outstanding ↔ d.Unfinished w n := by
  cases h with
  | interrupted _ hascending houtstanding => exact ⟨rfl, _, rfl, hascending, houtstanding⟩
  | decided hnot _ _ => simp [hinterrupt] at hnot
  | failed hnot _ => simp [hinterrupt] at hnot
  | refused hnot _ => simp [hinterrupt] at hnot

/-- An insert that ends after it has begun to sleep was interrupted in its sleep. -/
lemma Finishes.of_sleep (h : d.Finishes s pace policy table w attempt wait sleep r sleeps)
    (hbegun : sleep < sleeps) :
    sleeps = sleep + 1 ∧ d.Settled w ∧ ∃ outstanding, r = .error (.interrupted .waiting outstanding) ∧
      outstanding.Pairwise (· < ·) ∧ ∀ n, n ∈ outstanding ↔ d.Rejects w n := by
  cases h with
  | decided _ hsettled hdecided =>
      cases hdecided with
      | waiting _ hascending houtstanding =>
          exact ⟨rfl, hsettled, _, rfl, hascending, houtstanding⟩
      | accepted _ => exact absurd hbegun (lt_irrefl _)
      | exhausted _ _ => exact absurd hbegun (lt_irrefl _)
      | overflow _ => exact absurd hbegun (lt_irrefl _)
  | interrupted _ _ _ => exact absurd hbegun (lt_irrefl _)
  | failed _ _ => exact absurd hbegun (lt_irrefl _)
  | refused _ _ => exact absurd hbegun (lt_irrefl _)

/-- An insert that says that it was interrupted was interrupted in its last wait or sleep. -/
lemma Finishes.of_interrupted {during : Interruption} {outstanding : List Int}
    (h : d.Finishes s pace policy table w attempt wait sleep
      (.error (.interrupted during outstanding)) sleeps) :
    s.interrupts wait = true ∨ sleep < sleeps ∧ pace.interrupts sleep = true := by
  generalize hr : (Except.error (.interrupted during outstanding) : Except Failure Nat) = r at h
  cases h with
  | decided _ _ hdecided =>
      cases hdecided with
      | waiting hsleep _ _ => exact .inr ⟨by omega, hsleep⟩
      | accepted _ => simp at hr
      | exhausted _ _ => simp at hr
      | overflow _ => simp at hr
  | interrupted hinterrupt _ _ => exact .inl hinterrupt
  | failed _ _ => simp at hr
  | refused _ hrefused =>
      obtain rfl := Except.error.inj hr
      cases hrefused.isUnusable

end Dispatch

namespace World

/-- What goes into a round was rejected in all rounds before it. -/
lemma Course.later (h : Course s pace table rows tokens p p' ds) :
    ds.Pairwise fun d d' => ∀ n ∈ d'.origin, d.Rejects p'.inner n :=
  pairwise_of_isChain (fun _ _ hn => hn.mem_origin) (h.next.imp fun _ _ hnext n hn => (hnext.2 n).1 hn)

lemma Course.rejects_of_mem_origin (h : Course s pace table rows tokens p p' ds)
    (hsplit : ds = before ++ [d]) {n : Int} (hn : n ∈ d.origin) :
    ∀ e ∈ before, e.Rejects p'.inner n := by
  have hlater := h.later
  rw [hsplit, List.pairwise_append] at hlater
  exact fun e he => hlater.2.2 e he d (by simp) n hn

/-- A round whose wait was interrupted, or the sleep after it, is the last one. -/
lemma Concludes.of_interrupts (h : Concludes s pace policy table p p' ds r)
    (hcourse : Course s pace table rows tokens p p' ds) (hsplit : ds = before ++ d :: after)
    (hinterrupt : s.interrupts (p.inner.waits + before.length) = true ∨
      pace.interrupts (p.waits.length + before.length) = true) :
    after = [] ∧ d.Finishes s pace policy table p'.inner (before.length + 1)
      (p.inner.waits + before.length) (p.waits.length + before.length) r p'.waits.length := by
  have hafter : after = [] := by
    cases after with
    | nil => rfl
    | cons d' after =>
        have hnone := hcourse.uninterrupted before d d' after hsplit
        simp [hnone.1, hnone.2] at hinterrupt
  subst hafter
  exact ⟨rfl, h.of_last hsplit⟩

/-- An insert that says that it was interrupted has ended with a round, whose wait was interrupted or
the sleep after it. -/
lemma Concludes.of_interrupted {during : Interruption} {outstanding : List Int}
    (h : Concludes s pace policy table p p' ds (.error (.interrupted during outstanding))) :
    ∃ before d, ds = before ++ [d] ∧ (s.interrupts (p.inner.waits + before.length) = true ∨
      p.waits.length + before.length < p'.waits.length ∧
        pace.interrupts (p.waits.length + before.length) = true) := by
  generalize hr : (Except.error (.interrupted during outstanding) : Except Failure Nat) = r at h
  cases h with
  | unsent _ _ hf =>
      obtain rfl := Except.error.inj hr
      cases hf
  | finished hsplit hfinishes =>
      subst hr
      exact ⟨_, _, hsplit, hfinishes.of_interrupted⟩

/-- Positions that a failure names in the last round: they ascend, they are the positions of a kind,
and they were rejected in all rounds before. -/
structure Outstanding (w : World σ) (before : List Dispatch) (kind : Int → Prop)
    (positions : List Int) : Prop where
  ascending : positions.Pairwise (· < ·)
  mem_iff : ∀ n, n ∈ positions ↔ kind n
  rejected : ∀ n ∈ positions, ∀ e ∈ before, e.Rejects w n

/-- An insert that is interrupted in a wait for calls or in a sleep ends there, and tells the caller
which of the caller's rows are outstanding: in a wait, those whose calls have not finished; in a
sleep, those that the round has rejected.  All of them were rejected in every round before.  There is
no other way for an insert to be interrupted. -/
theorem insertAll_interrupted (c : Client σ) (s : Schedule) (pace : Pace) (options : InsertOptions)
    (table : TableName) (rows : List Row) (tokens : Option (List Writing)) (p : Paced (World σ)) :
    let q := (insertAll c s pace options (some table) rows tokens).run p
    ∃ ds, Course s pace table rows tokens p q.2 ds ∧
      (∀ before d after, ds = before ++ d :: after →
        s.interrupts (p.inner.waits + before.length) = true →
        after = [] ∧ q.2.waits.length = p.waits.length + before.length ∧
          ∃ outstanding, q.1 = .error (.interrupted (.inserting table.spec) outstanding) ∧
            Outstanding q.2.inner before (d.Unfinished q.2.inner) outstanding) ∧
      (∀ before d after, ds = before ++ d :: after →
        p.waits.length + before.length < q.2.waits.length →
        pace.interrupts (p.waits.length + before.length) = true →
        after = [] ∧ q.2.waits.length = p.waits.length + before.length + 1 ∧
          ∃ outstanding, q.1 = .error (.interrupted .waiting outstanding) ∧
            Outstanding q.2.inner before (d.Rejects q.2.inner) outstanding) ∧
      ∀ during outstanding, q.1 = .error (.interrupted during outstanding) →
        (Failure.interrupted during outstanding).causeName = some "KeyboardInterrupt" ∧
        ∃ before d, ds = before ++ [d] ∧
          (s.interrupts (p.inner.waits + before.length) = true ∨
            p.waits.length + before.length < q.2.waits.length ∧
              pace.interrupts (p.waits.length + before.length) = true) := by
  intro q
  obtain ⟨ds, hcourse, hconcludes⟩ := insertAll_courses (Eq.refl q)
  refine ⟨ds, hcourse, ?_, ?_, ?_⟩
  · intro before d after hsplit hinterrupt
    obtain ⟨rfl, hfinishes⟩ := hconcludes.of_interrupts hcourse hsplit (.inl hinterrupt)
    obtain ⟨hsleeps, outstanding, hr, hascending, hmem⟩ := hfinishes.of_wait hinterrupt
    exact ⟨rfl, hsleeps, outstanding, eq_error_of_map hr, hascending, hmem, fun n hn =>
      hcourse.rejects_of_mem_origin hsplit ((hmem n).1 hn).mem_origin⟩
  · intro before d after hsplit hbegun hinterrupt
    obtain ⟨rfl, hfinishes⟩ := hconcludes.of_interrupts hcourse hsplit (.inr hinterrupt)
    obtain ⟨hsleeps, -, outstanding, hr, hascending, hmem⟩ := hfinishes.of_sleep hbegun
    exact ⟨rfl, hsleeps, outstanding, eq_error_of_map hr, hascending, hmem, fun n hn =>
      hcourse.rejects_of_mem_origin hsplit ((hmem n).1 hn).mem_origin⟩
  · intro during outstanding hq
    rw [hq] at hconcludes
    exact ⟨rfl, hconcludes.of_interrupted⟩

end World

end TableFeed
