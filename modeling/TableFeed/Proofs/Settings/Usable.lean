import TableFeed.Proofs.Number.Nearest
import TableFeed.Proofs.Settings.Read

/-!
# Settings that can be used

An environment is refused, or its settings are in range and make a policy.  Two kinds of text get
past the checks.  One is the word for the float that stands for no number, which no comparison finds
to be too small.  The other is a first wait of so many milliseconds that no float holds it in
seconds; the settings are read, and there is no policy for them.

The main result is `read_usable`.
-/

namespace TableFeed

open Number

/-! ### Texts of numbers -/

/-- Whether a text is the word for the float that stands for no number, in any case and with or
without a sign. -/
def Number.spellsNaN (text : String) : Bool :=
  (normalForm? text.toList).any fun cs =>
    String.ofList ((takeSign cs).2.map Char.toLower) == "nan"

lemma Number.isNaN_of_readDecimal {neg : Bool} {body : List Char} {x : Float}
    (h : readDecimal? neg body = some x) : x.isNaN = false := by
  have hvalue : ∀ {coefficient : Nat} {rest : List Char} {shift : Int},
      (readExponent? rest).map (fun e => ofDecimal neg coefficient (e - shift)) = some x →
        x.isNaN = false := by
    intro coefficient rest shift h
    obtain ⟨e, -, rfl⟩ := Option.map_eq_some_iff.1 h
    exact isNaN_ofDecimal
  unfold readDecimal? at h
  split at h
  split at h
  split at h
  · simp at h
  · exact hvalue h

/-- Of all texts only the word for it is read as no number. -/
lemma Number.of_readFloat {text : String} {x : Float} (h : readFloat text = .ok x) :
    if spellsNaN text then x = notANumber else x.isNaN = false := by
  unfold readFloat at h
  unfold spellsNaN
  split at h
  · simp [throw, throwThe, MonadExceptOf.throw] at h
  · next cs hcs =>
      rw [hcs]
      dsimp only [Option.any] at h ⊢
      split at h
      · next hword =>
          have hne : ¬ (String.ofList ((takeSign cs).2.map Char.toLower) == "nan") = true := by
            intro hnan
            rw [eq_of_beq hnan] at hword
            exact absurd hword (by decide)
          obtain rfl := Except.ok.inj h
          rw [if_neg hne]
          exact isNaN_infinity
      · split at h
        · next hnan =>
            rw [if_pos hnan]
            exact (Except.ok.inj h).symm
        · next hnan =>
            rw [if_neg hnan]
            split at h
            · next x' hx =>
                obtain rfl := Except.ok.inj h
                exact isNaN_of_readDecimal hx
            · simp [throw, throwThe, MonadExceptOf.throw] at h

namespace Settings

variable {env : Environment} {name : String} {s : Settings}

/-! ### The range of settings -/

/-- A number setting is at least its least value, unless its text spells no number. -/
lemma of_number {default least x : Float} (hdefault : least ≤ default)
    (hleast : least.isNaN = false) (h : number env name default least = .ok x) :
    if (env name).any spellsNaN then x = notANumber else least ≤ x := by
  obtain ⟨hnone, rfl⟩ | ⟨text, htext, hx, hlt⟩ := of_taken h
  · rw [hnone]
    exact hdefault
  · rw [htext, Option.any_some]
    have hread := of_readFloat hx
    split
    · next hspells => rwa [if_pos hspells] at hread
    · next hspells =>
        rw [if_neg hspells] at hread
        exact (le_or_isNaN hleast hlt).resolve_right (Bool.eq_false_iff.1 hread)

/-- The settings of an environment are in range, but for those that are no number because their
text says so. -/
structure InRange (env : Environment) (s : Settings) : Prop where
  batchSize : 1 ≤ s.batchSize
  batchRows : 1 ≤ s.batchRows
  attempts : 1 ≤ s.attempts
  workers : 1 ≤ s.workers
  firstWait : 0 ≤ s.firstWait
  growth : if (env "INSERT_BACKOFF_MULTIPLIER").any spellsNaN then s.growth = notANumber
    else 1 ≤ s.growth
  drainTimeout : if (env "INSERT_DRAIN_TIMEOUT_SECONDS").any spellsNaN
    then s.drainTimeout = notANumber else 0 ≤ s.drainTimeout

/-- There is a policy for settings, with their attempts and their growth. -/
def HasPolicy (s : Settings) : Prop :=
  ∃ p, s.policy = .ok p ∧ (p.attempts : Int) = s.attempts ∧ p.growth = s.growth

lemma Taken.inRange (h : Taken env s) : InRange env s where
  batchSize := le_of_integer (by decide) h.batchSize
  batchRows := le_of_integer (by decide) h.batchRows
  attempts := le_of_integer (by decide) h.attempts
  workers := le_of_integer (by decide) h.workers
  firstWait := le_of_integer (by decide) h.firstWait
  growth := of_number (by decide) (by decide) h.growth
  drainTimeout := of_number (by decide) (by decide) h.drainTimeout

lemma InRange.not_growth_lt (h : InRange env s) : ¬ s.growth < 1 := by
  have hgrowth := h.growth
  split at hgrowth
  · rw [hgrowth]
    decide
  · exact not_lt_of_le hgrowth

/-! ### The policy -/

/-- Milliseconds are held in seconds, and are not negative there, unless they are too many. -/
lemma seconds_natCast (n : Nat) :
    (∃ x, seconds n = .ok x ∧ ¬ x < 0) ∧ ¬ TooLarge n 1000 ∨
      seconds n = .error .quotient ∧ TooLarge n 1000 := by
  have hseconds : seconds n = (nearest? false n 1000).elim (.error .quotient) .ok := by
    rw [seconds, Int.natAbs_natCast, decide_eq_false (by omega)]
  have hnone := @nearestBits?_eq_none n 1000 (by decide)
  rw [hseconds]
  cases hbits : nearestBits? n 1000 with
  | none => exact .inr ⟨by rw [nearest?, hbits]; rfl, hnone.1 hbits⟩
  | some bits =>
      have hx : nearest? false n 1000 = some (floatOfBits false bits) := by rw [nearest?, hbits]; rfl
      refine .inl ⟨⟨_, by rw [hx]; rfl, nearest?_nonneg hx⟩, fun htoo => ?_⟩
      simp [hnone.2 htoo] at hbits

lemma InRange.hasPolicy (h : InRange env s) {x : Float} (hx : seconds s.firstWait = .ok x)
    (hnonneg : ¬ x < 0) : HasPolicy s := by
  have hattempts := h.attempts
  have hjitter : ((0 : Float) ≤ 0.5 && (0.5 : Float) ≤ 1) = true := by decide +kernel
  refine ⟨⟨s.attempts.toNat, by omega, x, s.growth, 0.5⟩, ?_, Int.toNat_of_nonneg (by omega), rfl⟩
  rw [policy, hx]
  change (Policy.make s.attempts x s.growth 0.5).mapError Failure.misuse = _
  rw [Policy.make, dif_neg (by omega), if_neg hnonneg, if_neg h.not_growth_lt, if_pos hjitter]
  rfl

/-- Settings in range have a policy unless their first wait is too long. -/
lemma InRange.policy_of_firstWait (h : InRange env s) :
    HasPolicy s ∧ ¬ TooLarge s.firstWait.toNat 1000 ∨
      s.policy = .error (.overflow .quotient) ∧ TooLarge s.firstWait.toNat 1000 := by
  obtain ⟨n, hn⟩ := Int.eq_ofNat_of_zero_le h.firstWait
  have hn' : s.firstWait.toNat = n := by rw [hn]; rfl
  rw [hn']
  rcases seconds_natCast n with ⟨⟨x, hx, hnonneg⟩, hsmall⟩ | ⟨hseconds, hlarge⟩
  · exact .inl ⟨h.hasPolicy (by rw [hn]; exact hx) hnonneg, hsmall⟩
  · refine .inr ⟨?_, hlarge⟩
    rw [policy, hn, hseconds]
    rfl

/-- An environment is refused for the text of one of its variables, or it has settings.  These are
in range, but for a growth and a timeout that are no number because their texts say so, and there is
a policy for them unless their first wait is too long for a float. -/
theorem read_usable (env : Environment) :
    (∃ name ∈ variableNames, env name ≠ none ∧ ∃ fault, read env = .error (.setting name fault)) ∨
      ∃ s, read env = .ok s ∧ InRange env s ∧
        (HasPolicy s ∧ ¬ TooLarge s.firstWait.toNat 1000 ∨
          s.policy = .error (.overflow .quotient) ∧ TooLarge s.firstWait.toNat 1000) := by
  cases hread : read env with
  | error m =>
      obtain ⟨name, hvariable, hgiven, fault, hm⟩ := exists_of_read_eq_error hread
      exact .inl ⟨name, hvariable, hgiven, fault, congrArg Except.error hm⟩
  | ok s =>
      have hrange := (Taken.of_read hread).inRange
      exact .inr ⟨s, rfl, hrange, hrange.policy_of_firstWait⟩

/-- An environment whose growth of the waits is spelled as no number. -/
def nanGrowth : Environment
  | "INSERT_BACKOFF_MULTIPLIER" => some "nan"
  | _ => none

theorem read_usable_nanGrowth : ∃ s, read nanGrowth = .ok s ∧ ¬ (1 : Float) ≤ s.growth :=
  ⟨_, rfl, by decide⟩

end Settings

end TableFeed
