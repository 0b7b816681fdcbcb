import Mathlib
import TableFeed.Failure.Basic

/-!
# Results of steps that may fail

How a result that is made up of others came about, and what failure it may be.  Only an insert that
came to its end gives up rows; `Silent` says of a result that it is not a failure which does so, and
goes through the operations of which results are made up.
-/

namespace TableFeed

variable {ε α β : Type}

/-- A result that is an answer comes from an answer of the first step. -/
lemma exists_of_bind_eq_ok {x : Except ε α} {f : α → Except ε β} {b : β} (h : x >>= f = .ok b) :
    ∃ a, x = .ok a ∧ f a = .ok b := by
  cases x with
  | error e => simp [bind, Except.bind] at h
  | ok a => exact ⟨a, rfl, h⟩

/-- A result that is a failure comes from a failure of the first step, or of the second one. -/
lemma of_bind_eq_error {x : Except ε α} {f : α → Except ε β} {e : ε} (h : x >>= f = .error e) :
    x = .error e ∨ ∃ a, x = .ok a ∧ f a = .error e := by
  cases x with
  | error e' => exact .inl (congrArg Except.error (Except.error.inj h))
  | ok a => exact .inr ⟨a, rfl, h⟩

/-- A result whose answer is rewritten fails as it did before. -/
lemma eq_error_of_map {r : Except ε α} {f : α → β} {e : ε} (h : r.map f = .error e) : r = .error e := by
  cases r with
  | error e' => rw [Except.error.inj h]
  | ok a => simp [Except.map] at h

lemma exists_of_map_eq_ok {r : Except ε α} {f : α → β} {b : β} (h : r.map f = .ok b) :
    ∃ a, r = .ok a ∧ f a = b := by
  cases r with
  | error e => simp [Except.map] at h
  | ok a => exact ⟨a, rfl, Except.ok.inj h⟩

/-- A traversal of items that each have an answer has an answer for each of them. -/
lemma exists_mapM {f : α → Except ε β} {R : α → β → Prop} {l : List α}
    (h : ∀ a ∈ l, ∃ b, f a = .ok b ∧ R a b) : ∃ bs, l.mapM f = .ok bs ∧ List.Forall₂ R l bs := by
  induction l with
  | nil => exact ⟨[], rfl, .nil⟩
  | cons a rest ih =>
      obtain ⟨b, hb, hR⟩ := h a (by simp)
      obtain ⟨bs, hbs, hall⟩ := ih fun a' ha' => h a' (by simp [ha'])
      refine ⟨b :: bs, ?_, .cons hR hall⟩
      rw [List.mapM_cons, hb, hbs]
      rfl

lemma exists_left_of_mem {R : α → β → Prop} {l : List α} {m : List β}
    (h : List.Forall₂ R l m) {b : β} (hb : b ∈ m) : ∃ a ∈ l, R a b := by
  induction h with
  | nil => simp at hb
  | @cons a b' _ _ hfirst _ ih =>
      rcases List.mem_cons.1 hb with rfl | hb
      · exact ⟨a, by simp, hfirst⟩
      · obtain ⟨a', ha', hr⟩ := ih hb
        exact ⟨a', by simp [ha'], hr⟩

lemma exists_right_of_mem {R : α → β → Prop} {l : List α} {m : List β}
    (h : List.Forall₂ R l m) {a : α} (ha : a ∈ l) : ∃ b ∈ m, R a b :=
  exists_left_of_mem h.flip ha

/-- A traversal fails with a failure if every item has an answer or that failure, and one has it. -/
lemma mapM_eq_error {f : α → Except ε β} {e : ε} {l : List α}
    (h : ∀ a ∈ l, (∃ b, f a = .ok b) ∨ f a = .error e) (hfailed : ∃ a ∈ l, f a = .error e) :
    l.mapM f = .error e := by
  induction l with
  | nil => simp at hfailed
  | cons a rest ih =>
      rw [List.mapM_cons]
      rcases h a (by simp) with ⟨b, hb⟩ | ha
      · have hrest : ∃ a ∈ rest, f a = .error e := by
          obtain ⟨a', ha', hfailed⟩ := hfailed
          rcases List.mem_cons.1 ha' with rfl | ha'
          · simp [hb] at hfailed
          · exact ⟨a', ha', hfailed⟩
        rw [hb, ih (fun a' ha' => h a' (by simp [ha'])) hrest]
        rfl
      · rw [ha]
        rfl

/-- A result that does not give up rows. -/
def Silent (r : Except Failure α) : Prop :=
  ∀ failures attempts, r ≠ .error (.rejected failures attempts)

namespace Silent

@[simp] lemma ok (a : α) : Silent (.ok a) := by simp [Silent]

lemma error {f : Failure} (h : ∀ failures attempts, f ≠ .rejected failures attempts) :
    Silent (.error f : Except Failure α) := by
  intro failures attempts heq
  exact h failures attempts (Except.error.inj heq)

/-- Whether a failure gives up rows does not depend on the answer that there might have been. -/
lemma cast {f : Failure} (h : Silent (.error f : Except Failure α)) :
    Silent (.error f : Except Failure β) :=
  error fun failures attempts heq => h failures attempts (by rw [heq])

@[simp] lemma misuse (m : Misuse) : Silent (.error (.misuse m) : Except Failure α) :=
  .error (by simp)

lemma bind {x : Except Failure α} {f : α → Except Failure β} (hx : Silent x)
    (hf : ∀ a, Silent (f a)) : Silent (x >>= f) := by
  cases x with
  | error e =>
      intro failures attempts heq
      exact hx failures attempts (congrArg Except.error (Except.error.inj heq))
  | ok a => exact hf a

lemma ite {c : Prop} [Decidable c] {x y : Except Failure α} (hx : Silent x) (hy : Silent y) :
    Silent (if c then x else y) := by
  split
  · exact hx
  · exact hy

lemma map {x : Except Failure α} (hx : Silent x) (f : α → β) : Silent (x.map f) := by
  cases x with
  | error e =>
      intro failures attempts heq
      exact hx failures attempts (congrArg Except.error (Except.error.inj heq))
  | ok a => exact ok _

lemma mapError {x : Except ε α} {f : ε → Failure}
    (hf : ∀ e failures attempts, f e ≠ .rejected failures attempts) : Silent (x.mapError f) := by
  cases x with
  | error e => exact error (hf e)
  | ok a => exact ok _

@[simp] lemma liftFault (x : Except Fault α) : Silent (TableFeed.liftFault x) :=
  mapError (by simp)

end Silent

end TableFeed
