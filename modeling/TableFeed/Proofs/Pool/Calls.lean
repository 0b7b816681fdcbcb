import Mathlib
import TableFeed.Pool.Basic

/-!
# What happens to the calls of a pool

Only two things happen to the calls of a pool: a call is submitted at the end of the list, and a
call that has not finished finishes.  So a later state of a pool keeps the jobs in front and every
outcome that was there.  `Pool.Extends` is this relation, with the jobs that were submitted
meanwhile.
-/

namespace TableFeed.Pool

variable {κ α : Type} {p q r : Pool κ α}

/-- The jobs of the calls, in the order in which they were submitted. -/
def jobs (p : Pool κ α) : List κ := p.calls.map Call.job

@[simp] lemma length_jobs (p : Pool κ α) : p.jobs.length = p.size := by simp [jobs, size]

/-! ### Finishing a call -/

lemma openJob?_eq_some {n : Nat} {job : κ} :
    p.openJob? n = some job ↔ p.calls[n]? = some ⟨job, none⟩ := by
  unfold openJob?
  split
  · next job' h => simp [h]
  · next h =>
      simp only [reduceCtorEq, false_iff]
      exact h job

lemma outcome?_eq_some {n : Nat} {e : α} :
    p.outcome? n = some e ↔ ∃ job, p.calls[n]? = some ⟨job, some e⟩ := by
  unfold outcome?
  rcases h : p.calls[n]? with _ | ⟨job, o⟩ <;> simp

/-- A call of the pool that has no outcome has not finished. -/
lemma isSome_openJob? {n : Nat} (hn : n < p.size) (h : p.outcome? n = none) :
    (p.openJob? n).isSome = true := by
  have hcall : p.calls[n]? = some p.calls[n] := List.getElem?_eq_getElem hn
  rcases hout : p.calls[n] with ⟨job, _ | e⟩
  · rw [hout, ← openJob?_eq_some] at hcall
    simp [hcall]
  · rw [hout] at hcall
    simp [outcome?, hcall] at h

/-- The open calls are those that were submitted and have not finished. -/
lemma isSome_openJob?_iff {n : Nat} :
    (p.openJob? n).isSome = true ↔ n < p.size ∧ p.outcome? n = none := by
  constructor
  · intro h
    obtain ⟨job, hopen⟩ := Option.isSome_iff_exists.1 h
    have hcall := openJob?_eq_some.1 hopen
    exact ⟨(List.getElem?_eq_some_iff.1 hcall).1, by simp [outcome?, hcall]⟩
  · exact fun ⟨hn, h⟩ => isSome_openJob? hn h

@[simp] lemma jobs_finish (p : Pool κ α) (n : Nat) (e : α) : (p.finish n e).jobs = p.jobs := by
  refine List.ext_getElem? fun m => ?_
  simp only [jobs, finish, List.getElem?_map, List.getElem?_modify]
  rcases p.calls[m]? with _ | c
  · rfl
  · by_cases h : n = m <;> simp [h]

@[simp] lemma closed_finish (p : Pool κ α) (n : Nat) (e : α) : (p.finish n e).closed = p.closed := rfl

@[simp] lemma size_finish (p : Pool κ α) (n : Nat) (e : α) : (p.finish n e).size = p.size := by
  rw [← length_jobs, jobs_finish, length_jobs]

lemma calls_finish (p : Pool κ α) (n m : Nat) (e : α) :
    (p.finish n e).calls[m]? = p.calls[m]?.map fun c =>
      if n = m then { c with outcome := c.outcome.or (some e) } else c := by
  simp [finish, List.getElem?_modify]

lemma outcome?_finish_of_some {n m : Nat} {e f : α} (h : p.outcome? m = some f) :
    (p.finish n e).outcome? m = some f := by
  obtain ⟨job, hcall⟩ := outcome?_eq_some.1 h
  rw [outcome?, calls_finish, hcall]
  by_cases hn : n = m <;> simp [hn]

lemma outcome?_finish_self {n : Nat} {job : κ} (h : p.openJob? n = some job) (e : α) :
    (p.finish n e).outcome? n = some e := by
  rw [outcome?, calls_finish, openJob?_eq_some.1 h]
  simp

/-- A call that finishes is no longer open, and the other calls stay as they are. -/
lemma openJob?_finish (p : Pool κ α) (n m : Nat) (e : α) :
    (p.finish n e).openJob? m = if n = m then none else p.openJob? m := by
  rw [openJob?, openJob?, calls_finish]
  rcases p.calls[m]? with _ | ⟨job, _ | o⟩ <;> by_cases h : n = m <;> simp [h]

lemma outcome?_finish {n : Nat} {job : κ} (h : p.openJob? n = some job) (m : Nat) (e : α) :
    (p.finish n e).outcome? m = if n = m then some e else p.outcome? m := by
  split
  · next hn => rw [← hn, outcome?_finish_self h]
  · next hn =>
      rw [outcome?, outcome?, calls_finish]
      simp [hn]

lemma mem_unfinished {n : Nat} : n ∈ p.unfinished ↔ (p.openJob? n).isSome = true := by
  simp only [unfinished, List.mem_map, List.mem_filter, Prod.exists, exists_eq_right,
    List.mem_zipIdx_iff_getElem?, Option.isSome_iff_exists, openJob?_eq_some]
  constructor
  · rintro ⟨⟨job, o⟩, hcall, ho⟩
    obtain rfl : o = none := by simpa using ho
    exact ⟨job, hcall⟩
  · rintro ⟨job, hcall⟩
    exact ⟨_, hcall, rfl⟩

/-! ### Submitting a call -/

/-- The pool after one more call was submitted, started if it was not. -/
def submitted (p : Pool κ α) (job : κ) : Pool κ α :=
  { p with started := true, calls := p.calls ++ [⟨job, none⟩] }

lemma start_of_closed (h : p.closed = true) : p.start = .error .drained := by
  rw [start, if_pos h]

/-- What the operator is told when the pool has to be started. -/
def announcement (p : Pool κ α) : List Event :=
  if p.started then [] else [.poolStarted p.workers]

/-- There is nothing to announce of a pool that was started before. -/
@[simp] lemma announcement_of_started (p : Pool κ α) :
    (if p.started then p.announcement else []) = [] := by
  cases h : p.started <;> simp [announcement, h]

/-- A pool that is not closed starts, unless it was started before. -/
lemma start_of_not_closed (h : p.closed = false) :
    p.start = .ok ({ p with started := true }, p.announcement) := by
  obtain ⟨workers, drainTimeout, started, closed, calls⟩ := p
  cases started <;> simp_all [start, announcement]

lemma submit_of_closed (h : p.closed = true) (job : κ) : p.submit job = .error .drained := by
  rw [submit, start_of_closed h]
  rfl

lemma submit_of_not_closed (h : p.closed = false) (job : κ) :
    p.submit job = .ok (p.submitted job, p.announcement) := by
  rw [submit, start_of_not_closed h]
  rfl

/-- A pool that is not closed takes every call.  The operator is told if it starts the pool. -/
lemma submit_eq (h : p.closed = false) (job : κ) :
    ∃ events, p.submit job = .ok (p.submitted job, events) ∧
      ∀ e ∈ events, e = .poolStarted p.workers :=
  ⟨_, submit_of_not_closed h job, by unfold announcement; split <;> simp⟩

@[simp] lemma jobs_submitted (p : Pool κ α) (job : κ) : (p.submitted job).jobs = p.jobs ++ [job] := by
  simp [jobs, submitted]

@[simp] lemma closed_submitted (p : Pool κ α) (job : κ) : (p.submitted job).closed = p.closed := rfl

@[simp] lemma size_submitted (p : Pool κ α) (job : κ) : (p.submitted job).size = p.size + 1 := by
  simp [size, submitted]

lemma openJob?_size (p : Pool κ α) : p.openJob? p.size = none := by
  rw [openJob?, List.getElem?_eq_none (by simp [size])]

lemma outcome?_submitted (p : Pool κ α) (job : κ) (n : Nat) :
    (p.submitted job).outcome? n = p.outcome? n := by
  simp only [outcome?, submitted]
  rcases lt_trichotomy n p.calls.length with h | rfl | h
  · rw [List.getElem?_append_left h]
  · simp
  · rw [List.getElem?_eq_none (by simp; omega), List.getElem?_eq_none (by omega)]

lemma openJob?_submitted (p : Pool κ α) (job : κ) (n : Nat) :
    (p.submitted job).openJob? n = if n = p.size then some job else p.openJob? n := by
  rcases lt_trichotomy n p.size with h | rfl | h
  · rw [if_neg h.ne, openJob?, openJob?, submitted, List.getElem?_append_left h]
  · simp [openJob?, submitted, size]
  · rw [if_neg h.ne', openJob?, openJob?, submitted, List.getElem?_eq_none h.le,
      List.getElem?_eq_none (by simpa [size] using h)]

/-! ### Later states of a pool -/

/-- A pool that was reached from another one by submitting jobs and finishing calls. -/
structure Extends (js : List κ) (p q : Pool κ α) : Prop where
  jobs_eq : q.jobs = p.jobs ++ js
  outcome_kept : ∀ n e, p.outcome? n = some e → q.outcome? n = some e
  closed_eq : q.closed = p.closed

namespace Extends

variable {js js' : List κ}

lemma refl (p : Pool κ α) : Extends [] p p := ⟨by simp, fun _ _ h => h, rfl⟩

lemma trans (h : Extends js p q) (h' : Extends js' q r) : Extends (js ++ js') p r where
  jobs_eq := by rw [h'.jobs_eq, h.jobs_eq, List.append_assoc]
  outcome_kept n e hn := h'.outcome_kept n e (h.outcome_kept n e hn)
  closed_eq := h'.closed_eq.trans h.closed_eq

lemma finish (p : Pool κ α) (n : Nat) (e : α) : Extends [] p (p.finish n e) :=
  ⟨by simp, fun _ _ h => outcome?_finish_of_some h, rfl⟩

lemma submitted (p : Pool κ α) (job : κ) : Extends [job] p (p.submitted job) :=
  ⟨by simp, fun n _ h => (outcome?_submitted p job n).trans h, rfl⟩

lemma size_eq (h : Extends js p q) : q.size = p.size + js.length := by
  rw [← length_jobs, h.jobs_eq, List.length_append, length_jobs]

/-- The jobs that were submitted meanwhile follow the jobs that were there. -/
lemma getElem?_jobs (h : Extends js p q) (j : Nat) : q.jobs[p.size + j]? = js[j]? := by
  rw [h.jobs_eq, List.getElem?_append_right (by simp), length_jobs]
  simp

end Extends

/-- The calls with a number from a given one on have ended only in ways that agree with their
jobs. -/
def EndsAs (P : κ → α → Prop) (base : Nat) (p : Pool κ α) : Prop :=
  ∀ n job e, base ≤ n → p.calls[n]? = some ⟨job, some e⟩ → P job e

namespace EndsAs

variable {P : κ → α → Prop} {base : Nat}

lemma of_size (p : Pool κ α) : EndsAs P p.size p := by
  intro n job e hn hcall
  rw [List.getElem?_eq_none (by simpa [size] using hn)] at hcall
  simp at hcall

lemma submitted (h : EndsAs P base p) (job : κ) : EndsAs P base (p.submitted job) := by
  intro n job' e hn hcall
  refine h n job' e hn ?_
  rcases lt_trichotomy n p.calls.length with hlt | rfl | hgt
  · rwa [Pool.submitted, List.getElem?_append_left hlt] at hcall
  · simp [Pool.submitted] at hcall
  · rw [Pool.submitted, List.getElem?_eq_none (by simp; omega)] at hcall
    simp at hcall

lemma finish (h : EndsAs P base p) {n : Nat} {job : κ} {e : α} (hopen : p.openJob? n = some job)
    (he : P job e) : EndsAs P base (p.finish n e) := by
  intro m job' e' hm hcall
  rw [calls_finish] at hcall
  by_cases hn : n = m
  · subst hn
    rw [openJob?_eq_some.1 hopen] at hcall
    simp only [Option.map_some, if_true, Option.none_or, Option.some.injEq, Call.mk.injEq] at hcall
    obtain ⟨rfl, rfl⟩ := hcall
    exact he
  · refine h m job' e' hm ?_
    simpa [hn] using hcall

end EndsAs

end TableFeed.Pool
