import TableFeed.Proofs.Failure.Results
import TableFeed.Settings

/-!
# Settings that were read

Each number among the settings is that of its variable, or its default, and is at least its least
value; where a variable has another text, the environment is refused with the name of that variable.

The main results are `Taken.of_read` and `exists_of_read_eq_error`.
-/

namespace TableFeed.Settings

open Number

variable {env : Environment} {name : String} {m : Misuse}

/-! ### One setting -/

section Taken

variable {α ε : Type} [LT α] [DecidableLT α] {readText : String → Except ε α}
  {unreadable : String → SettingFault} {below : α → α → SettingFault} {default least x : α}

/-- A setting is its default, or what the text of its variable says, which is not too small. -/
lemma of_taken (h : taken readText unreadable below env name default least = .ok x) :
    env name = none ∧ x = default ∨
      ∃ text, env name = some text ∧ readText text = .ok x ∧ ¬ x < least := by
  unfold taken at h
  split at h
  · next hnone => exact .inl ⟨hnone, (Except.ok.inj h).symm⟩
  · next text htext =>
      split at h
      · simp at h
      · next y hy =>
          split at h
          · simp at h
          · next hle =>
              obtain rfl := Except.ok.inj h
              exact .inr ⟨text, htext, hy, hle⟩

/-- A refusal of an environment for the text that one of the variables has in it. -/
structure Refuses (env : Environment) (name : String) (m : Misuse) : Prop where
  isVariable : name ∈ variableNames
  isGiven : env name ≠ none
  isNamed : ∃ fault, m = .setting name fault

/-- A step of the reading that fails for the text of a variable, if it fails. -/
def Blames {β : Type} (env : Environment) (r : Except Misuse β) : Prop :=
  ∀ m, r = .error m → ∃ name, Refuses env name m

lemma blames_taken (hname : name ∈ variableNames) :
    Blames env (taken readText unreadable below env name default least) := by
  intro m h
  unfold taken at h
  split at h
  · simp at h
  · next text htext =>
      have hgiven : env name ≠ none := by simp [htext]
      split at h
      · exact ⟨name, hname, hgiven, _, (Except.error.inj h).symm⟩
      · split at h
        · exact ⟨name, hname, hgiven, _, (Except.error.inj h).symm⟩
        · simp at h

end Taken

/-- If the first step blames a variable, and so does what follows, then both together do. -/
lemma Blames.bind {β γ : Type} {x : Except Misuse β} {f : β → Except Misuse γ} (hx : Blames env x)
    (hf : ∀ b, Blames env (f b)) : Blames env (x >>= f) := by
  intro m h
  rcases of_bind_eq_error h with h | ⟨b, -, h⟩
  · exact hx m h
  · exact hf b m h

lemma le_of_integer {default least n : Int} (hdefault : least ≤ default)
    (h : integer env name default least = .ok n) : least ≤ n := by
  obtain ⟨-, rfl⟩ | ⟨-, -, -, hle⟩ := of_taken h
  · exact hdefault
  · exact Int.not_lt.1 hle

/-! ### All settings -/

/-- The numbers among the settings are those of an environment. -/
structure Taken (env : Environment) (s : Settings) : Prop where
  batchSize : integer env "INSERT_BATCH_SIZE_BYTES" (64 * 1024) 1 = .ok s.batchSize
  batchRows : integer env "INSERT_MAX_ROWS_PER_BATCH" 500 1 = .ok s.batchRows
  attempts : integer env "INSERT_MAX_ATTEMPTS" 5 1 = .ok s.attempts
  firstWait : integer env "INSERT_INITIAL_BACKOFF_MS" 200 0 = .ok s.firstWait
  growth : number env "INSERT_BACKOFF_MULTIPLIER" 1.5 1 = .ok s.growth
  workers : integer env "INSERT_WORKERS" 100 1 = .ok s.workers
  drainTimeout : number env "INSERT_DRAIN_TIMEOUT_SECONDS" 10 0 = .ok s.drainTimeout

theorem Taken.of_read {s : Settings} (h : read env = .ok s) : Taken env s := by
  obtain ⟨batchSize, hbatchSize, h⟩ := exists_of_bind_eq_ok h
  obtain ⟨batchRows, hbatchRows, h⟩ := exists_of_bind_eq_ok h
  obtain ⟨attempts, hattempts, h⟩ := exists_of_bind_eq_ok h
  obtain ⟨firstWait, hfirstWait, h⟩ := exists_of_bind_eq_ok h
  obtain ⟨growth, hgrowth, h⟩ := exists_of_bind_eq_ok h
  obtain ⟨workers, hworkers, h⟩ := exists_of_bind_eq_ok h
  obtain ⟨drainTimeout, hdrainTimeout, h⟩ := exists_of_bind_eq_ok h
  obtain rfl := Except.ok.inj h
  exact ⟨hbatchSize, hbatchRows, hattempts, hfirstWait, hgrowth, hworkers, hdrainTimeout⟩

/-- An environment is refused for the text of a variable. -/
theorem exists_of_read_eq_error (h : read env = .error m) : ∃ name, Refuses env name m := by
  have hblames : Blames env (read env) :=
    -- one step for each number among the settings
    (blames_taken (by decide)).bind fun _ => (blames_taken (by decide)).bind fun _ =>
    (blames_taken (by decide)).bind fun _ => (blames_taken (by decide)).bind fun _ =>
    (blames_taken (by decide)).bind fun _ => (blames_taken (by decide)).bind fun _ =>
    (blames_taken (by decide)).bind fun _ => by simp [Blames]
  exact hblames m h

end TableFeed.Settings
