import TableFeed.Failure.Basic
import TableFeed.Log

/-!
# Actions

What an operation does to a state: it changes the state, and then answers or fails.  What was done
before a failure stays done.
-/

namespace TableFeed

/-- A computation on a state that may fail and keeps the state that it reached. -/
def Action (σ α : Type) : Type := σ → Except Failure α × σ

namespace Action

variable {σ τ α β : Type}

/-- How an action ends on a state, and the state that it reaches. -/
def run (x : Action σ α) (s : σ) : Except Failure α × σ := x s

/-- One action, and then another one that depends on its answer.  A failure ends both. -/
protected def bind (x : Action σ α) (f : α → Action σ β) : Action σ β := fun s =>
  match x s with
  | (.ok a, s) => f a s
  | (.error e, s) => (.error e, s)

instance : Monad (Action σ) where
  pure a := fun s => (.ok a, s)
  bind := Action.bind

instance : MonadStateOf σ (Action σ) where
  get := fun s => (.ok s, s)
  set s := fun _ => (.ok (), s)
  modifyGet f := fun s => let (a, s) := f s; (.ok a, s)

instance : MonadExceptOf Failure (Action σ) where
  throw e := fun s => (.error e, s)
  tryCatch x handle := fun s =>
    match x s with
    | (.ok a, s) => (.ok a, s)
    | (.error e, s) => handle e s

@[simp] theorem run_pure (a : α) (s : σ) : run (pure a) s = (.ok a, s) := rfl

theorem run_bind (x : Action σ α) (f : α → Action σ β) (s : σ) :
    run (x >>= f) s =
      match run x s with
      | (.ok a, s) => run (f a) s
      | (.error e, s) => (.error e, s) := rfl

theorem run_bind_of_ok {x : Action σ α} {f : α → Action σ β} {s t : σ} {a : α}
    (h : run x s = (.ok a, t)) : run (x >>= f) s = run (f a) t := by
  rw [run_bind, h]

theorem run_bind_of_error {x : Action σ α} {f : α → Action σ β} {s t : σ} {e : Failure}
    (h : run x s = (.error e, t)) : run (x >>= f) s = (.error e, t) := by
  rw [run_bind, h]

theorem run_discard (x : Action σ α) (s : σ) :
    run (discard x) s = ((run x s).1.map fun _ => (), (run x s).2) := by
  rw [show discard x = x >>= fun _ => pure () from rfl, run_bind]
  rcases run x s with ⟨e | a, t⟩ <;> rfl

@[simp] theorem run_throw (e : Failure) (s : σ) :
    run (throw e : Action σ α) s = (.error e, s) := rfl

@[simp] theorem run_get (s : σ) : run (get : Action σ σ) s = (.ok s, s) := rfl

@[simp] theorem run_modify (f : σ → σ) (s : σ) : run (modify f : Action σ Unit) s = (.ok (), f s) :=
  rfl

/-- The action that answers with what is given, or fails with it. -/
def answer (r : Except Failure α) : Action σ α := fun s => (r, s)

/-- The action that answers with how another one ends. -/
def outcome (x : Action σ α) : Action σ (Except Failure α) := fun s =>
  let (r, s) := x s
  (.ok r, s)

/-- An action on a part of a state. -/
def on (get : τ → σ) (put : σ → τ → τ) (x : Action σ α) : Action τ α := fun t =>
  let (r, s) := x (get t)
  (r, put s t)

@[simp] theorem run_answer (r : Except Failure α) (s : σ) : run (answer r) s = (r, s) := rfl

@[simp] theorem run_outcome (x : Action σ α) (s : σ) :
    run (outcome x) s = (.ok (run x s).1, (run x s).2) := rfl

@[simp] theorem run_on (get : τ → σ) (put : σ → τ → τ) (x : Action σ α) (t : τ) :
    run (on get put x) t = ((run x (get t)).1, put (run x (get t)).2 t) := rfl

end Action

/-- States that keep a log. -/
class Logged (σ : Type) where
  /-- The state with one more event in its log. -/
  note : Event → σ → σ

/-- The action that tells the operator something. -/
def note {σ : Type} [Logged σ] (e : Event) : Action σ Unit := modify (Logged.note e)

@[simp] theorem Action.run_note {σ : Type} [Logged σ] (e : Event) (s : σ) :
    Action.run (note e) s = (.ok (), Logged.note e s) := rfl

end TableFeed
