import TableFeed.Proofs.Number.Order

/-!
# The nearest float

The float nearest to a fraction is found by scaling the fraction with a power of two so that its
quotient has 53 binary digits, or fewer where the exponent can go no lower.  There is one unless
the fraction lies beyond the largest float by half of its last digit or more.

The main results are `nearestBits?_eq_none`, and `isNaN_ofDecimal`: what decimal digits are read as
is a number.
-/

namespace TableFeed.Number

variable {num den n d : Nat}

/-! ### Rounded quotients -/

lemma div_le_roundDiv : n / d ≤ roundDiv n d := by
  simp only [roundDiv]
  split <;> omega

lemma roundDiv_le : roundDiv n d ≤ n / d + 1 := by
  simp only [roundDiv]
  split <;> omega

/-- A quotient is rounded up to an even bound if it is no further from it than one half. -/
lemma le_roundDiv_iff {b : Nat} (hd : 0 < d) (hlt : n / d < b) (heven : b % 2 = 0) :
    b ≤ roundDiv n d ↔ (2 * b - 1) * d ≤ 2 * n := by
  obtain ⟨c, rfl⟩ := Nat.exists_eq_add_one_of_ne_zero (Nat.ne_zero_of_lt hlt)
  have hn : n = d * (n / d) + n % d := (Nat.div_add_mod n d).symm
  have hr : n % d < d := Nat.mod_lt n hd
  have hbound : (2 * (c + 1) - 1) * d = 2 * (d * c) + d := by
    rw [show 2 * (c + 1) - 1 = 2 * c + 1 by omega]
    ring
  rw [hbound]
  rcases Nat.lt_or_eq_of_le (Nat.le_of_lt_succ hlt) with hlt | heq
  · have hmul : d * (n / d + 1) ≤ d * c := Nat.mul_le_mul_left d hlt
    have hround := @roundDiv_le n d
    rw [Nat.mul_add, Nat.mul_one] at hmul
    exact iff_of_false (by omega) (by omega)
  · -- the quotient is odd, so a half is rounded up
    rw [heq] at hn
    have hodd : c % 2 = 1 := by omega
    simp only [roundDiv, heq, hodd]
    split
    · next h =>
        simp at h
        omega
    · next h =>
        simp at h
        omega

/-! ### Scaling -/

/-- The ratio of two numbers. -/
def ratio (num den : Nat) : ℚ := num / den

/-- A fraction divided by a power of two. -/
def scaled (num den : Nat) (e : Int) : Nat × Nat :=
  if 0 ≤ e then (num, den * Nat.pow 2 e.toNat) else (num * Nat.pow 2 (-e).toNat, den)

/-- The exponent of the last digit, up to one. -/
def guessedExponent (num den : Nat) : Int :=
  max (Int.ofNat num.log2 - Int.ofNat den.log2 - 53) (-1074)

/-- The exponent of the last digit of the float nearest to a fraction. -/
def lastExponent (num den : Nat) : Int :=
  let (n, d) := scaled num den (guessedExponent num den)
  if n / d < Nat.pow 2 53 then guessedExponent num den else guessedExponent num den + 1

lemma nearestBits?_eq (hnum : num ≠ 0) (hden : den ≠ 0) : nearestBits? num den =
    let (n, d) := scaled num den (lastExponent num den)
    let bits := (lastExponent num den + 1074).toNat * Nat.pow 2 52 + roundDiv n d
    if bits < 2047 * Nat.pow 2 52 then some bits else none := by
  have hzero : ¬ (num == 0 || den == 0) = true := by simp [hnum, hden]
  unfold nearestBits?
  rw [if_neg hzero]
  rfl

lemma scaled_pos (hden : 0 < den) (e : Int) : 0 < (scaled num den e).2 := by
  unfold scaled
  split
  · exact Nat.mul_pos hden (Nat.two_pow_pos _)
  · exact hden

lemma ratio_scaled (e : Int) :
    ratio (scaled num den e).1 (scaled num den e).2 = ratio num den / 2 ^ e := by
  unfold scaled ratio
  split
  · next he =>
      obtain ⟨k, rfl⟩ := Int.eq_ofNat_of_zero_le he
      simp [div_div]
  · next he =>
      obtain ⟨k, hk⟩ : ∃ k : Nat, e = -(k : Int) := ⟨(-e).toNat, by omega⟩
      subst hk
      simp [mul_div_right_comm]

/-- How many binary digits the quotient of a scaled fraction has. -/
lemma scaled_div_lt_iff (hden : 0 < den) {e : Int} {k : Nat} :
    (scaled num den e).1 / (scaled num den e).2 < Nat.pow 2 k ↔ ratio num den < 2 ^ (k + e) := by
  have hpos : (0 : ℚ) < (scaled num den e).2 := Nat.cast_pos.2 (scaled_pos hden e)
  calc (scaled num den e).1 / (scaled num den e).2 < Nat.pow 2 k
      ↔ (scaled num den e).1 < Nat.pow 2 k * (scaled num den e).2 :=
        Nat.div_lt_iff_lt_mul (scaled_pos hden e)
    _ ↔ ratio (scaled num den e).1 (scaled num den e).2 < 2 ^ k := by
        rw [ratio, div_lt_iff₀ hpos, Nat.pow_eq]
        exact_mod_cast Iff.rfl
    _ ↔ ratio num den < 2 ^ (k + e) := by
        rw [ratio_scaled, div_lt_iff₀ (zpow_pos two_pos e), zpow_add₀ two_ne_zero, zpow_natCast]

/-- The ratio lies within two powers of two that the logarithms tell. -/
lemma ratio_bounds (hnum : num ≠ 0) (hden : den ≠ 0) :
    2 ^ ((num.log2 : Int) - den.log2 - 1) < ratio num den ∧
      ratio num den < 2 ^ ((num.log2 : Int) - den.log2 + 1) := by
  have hd : (0 : ℚ) < den := Nat.cast_pos.2 (Nat.pos_of_ne_zero hden)
  have hnum_le : ((2 ^ num.log2 : Nat) : ℚ) ≤ num := Nat.cast_le.2 (Nat.log2_self_le hnum)
  have hnum_lt : (num : ℚ) < (2 ^ (num.log2 + 1) : Nat) := Nat.cast_lt.2 Nat.lt_log2_self
  have hden_le : ((2 ^ den.log2 : Nat) : ℚ) ≤ den := Nat.cast_le.2 (Nat.log2_self_le hden)
  have hden_lt : (den : ℚ) < (2 ^ (den.log2 + 1) : Nat) := Nat.cast_lt.2 Nat.lt_log2_self
  push_cast at hnum_le hnum_lt hden_le hden_lt
  constructor
  · rw [ratio, lt_div_iff₀ hd]
    calc (2 : ℚ) ^ ((num.log2 : Int) - den.log2 - 1) * den
        < 2 ^ ((num.log2 : Int) - den.log2 - 1) * 2 ^ (den.log2 + 1) :=
          mul_lt_mul_of_pos_left hden_lt (zpow_pos two_pos _)
      _ = 2 ^ num.log2 := by
          rw [← zpow_natCast, ← zpow_natCast, ← zpow_add₀ two_ne_zero]
          congr 1
          push_cast
          ring
      _ ≤ num := hnum_le
  · rw [ratio, div_lt_iff₀ hd]
    calc (num : ℚ) < 2 ^ (num.log2 + 1) := hnum_lt
      _ = 2 ^ ((num.log2 : Int) - den.log2 + 1) * 2 ^ den.log2 := by
          rw [← zpow_natCast, ← zpow_natCast, ← zpow_add₀ two_ne_zero]
          congr 1
          push_cast
          ring
      _ ≤ 2 ^ ((num.log2 : Int) - den.log2 + 1) * den :=
          mul_le_mul_of_nonneg_left hden_le (zpow_pos two_pos _).le

/-- The quotient at the last exponent has 53 digits at most, and no fewer where the exponent could
be lower. -/
lemma lastExponent_spec (hnum : num ≠ 0) (hden : den ≠ 0) :
    ratio num den < 2 ^ (53 + lastExponent num den) ∧
      (-1074 < lastExponent num den → 2 ^ (52 + lastExponent num den) ≤ ratio num den) := by
  obtain ⟨hlow, hhigh⟩ := ratio_bounds hnum hden
  have hguess : guessedExponent num den = max ((num.log2 : Int) - den.log2 - 53) (-1074) := rfl
  have hsplit := @scaled_div_lt_iff num den (Nat.pos_of_ne_zero hden) (guessedExponent num den) 53
  unfold lastExponent
  dsimp only
  split
  · next hlt =>
      refine ⟨hsplit.1 hlt, fun hleast => ?_⟩
      -- the guess is not the least exponent, so it is that of the logarithms
      refine le_trans (zpow_le_zpow_right₀ one_le_two ?_) hlow.le
      omega
  · next hle =>
      refine ⟨lt_of_lt_of_le hhigh (zpow_le_zpow_right₀ one_le_two ?_), fun _ => ?_⟩
      · omega
      · have := not_lt.1 fun h => hle (hsplit.2 h)
        refine le_trans (zpow_le_zpow_right₀ one_le_two ?_) this
        omega

/-! ### Fractions without a nearest float -/

/-- A fraction lies as far beyond the largest float, which is `(2 ^ 53 - 1) * 2 ^ 971`, as half of
its last digit, or farther. -/
def TooLarge (num den : Nat) : Prop := (2 ^ 54 - 1) * 2 ^ 970 * den ≤ num

lemma nearestBits?_eq_none_iff_scaled (hnum : num ≠ 0) (hden : den ≠ 0) :
    nearestBits? num den = none ↔ 2047 * Nat.pow 2 52 ≤
      (lastExponent num den + 1074).toNat * Nat.pow 2 52 +
        roundDiv (scaled num den (lastExponent num den)).1
          (scaled num den (lastExponent num den)).2 := by
  rw [nearestBits?_eq hnum hden]
  dsimp only
  split
  · next h => exact iff_of_false (by simp) (Nat.not_le.2 h)
  · next h => exact iff_of_true rfl (Nat.not_lt.1 h)

lemma tooLarge_iff (hden : 0 < den) :
    TooLarge num den ↔ ((2 : ℚ) ^ 54 - 1) * 2 ^ (970 : Int) ≤ ratio num den := by
  have hd : (0 : ℚ) < den := Nat.cast_pos.2 hden
  have hcast : ∀ k : Nat, (((2 ^ 54 - 1) * 2 ^ k : Nat) : ℚ) = (2 ^ 54 - 1) * 2 ^ (k : Int) := by
    intro k
    rw [Nat.cast_mul, Nat.cast_pow, Nat.cast_ofNat, zpow_natCast]
    norm_num
  rw [TooLarge, ratio, le_div_iff₀ hd]
  refine Iff.trans (@Nat.cast_le ℚ _ _ _ _ _ _).symm ?_
  rw [Nat.cast_mul, hcast]
  rfl

lemma not_tooLarge_of_lt (hden : 0 < den) {e : Int} (he : e ≤ 970)
    (h : ratio num den < 2 ^ (53 + e)) : ¬ TooLarge num den := by
  rw [tooLarge_iff hden, not_le]
  calc ratio num den < 2 ^ (53 + e) := h
    _ ≤ 2 ^ (53 + 970 : Int) := zpow_le_zpow_right₀ one_le_two (by omega)
    _ = 2 ^ 53 * 2 ^ (970 : Int) := by rw [zpow_add₀ two_ne_zero]; rfl
    _ ≤ (2 ^ 54 - 1) * 2 ^ (970 : Int) :=
      mul_le_mul_of_nonneg_right (by norm_num) (zpow_pos two_pos _).le

lemma tooLarge_of_le (hden : 0 < den) {e : Int} (he : 972 ≤ e)
    (h : 2 ^ (52 + e) ≤ ratio num den) : TooLarge num den := by
  rw [tooLarge_iff hden]
  calc ((2 : ℚ) ^ 54 - 1) * 2 ^ (970 : Int)
      ≤ 2 ^ 54 * 2 ^ (970 : Int) :=
        mul_le_mul_of_nonneg_right (by norm_num) (zpow_pos two_pos _).le
    _ = 2 ^ (54 + 970 : Int) := by rw [zpow_add₀ two_ne_zero]; rfl
    _ ≤ 2 ^ (52 + e) := zpow_le_zpow_right₀ one_le_two (by omega)
    _ ≤ ratio num den := h

/-- When rounding gives a quotient of 53 digits one digit more. -/
lemma le_roundDiv_scaled_iff (hden : 0 < den) {e : Int} {k : Nat} (he : e = (k + 1 : Nat))
    (hdigits : (scaled num den e).1 / (scaled num den e).2 < Nat.pow 2 53) :
    Nat.pow 2 53 ≤ roundDiv (scaled num den e).1 (scaled num den e).2 ↔
      (2 ^ 54 - 1) * 2 ^ k * den ≤ num := by
  have hpos := @scaled_pos num den hden e
  have hscaled : scaled num den e = (num, den * 2 ^ (k + 1)) := by
    rw [he]
    exact if_pos (Int.natCast_nonneg _)
  rw [hscaled] at hpos hdigits ⊢
  have hhalf : (2 ^ 54 - 1) * (den * 2 ^ (k + 1)) = 2 * ((2 ^ 54 - 1) * 2 ^ k * den) := by
    rw [pow_succ]
    ring
  calc Nat.pow 2 53 ≤ roundDiv num (den * 2 ^ (k + 1))
      ↔ (2 ^ 54 - 1) * (den * 2 ^ (k + 1)) ≤ 2 * num := le_roundDiv_iff hpos hdigits rfl
    _ ↔ (2 ^ 54 - 1) * 2 ^ k * den ≤ num := by
        rw [hhalf]
        exact Nat.mul_le_mul_left_iff two_pos

/-- A fraction has no nearest float exactly if it is too large. -/
theorem nearestBits?_eq_none (hden : den ≠ 0) :
    nearestBits? num den = none ↔ TooLarge num den := by
  have hpos : 0 < den := Nat.pos_of_ne_zero hden
  by_cases hnum : num = 0
  · subst hnum
    refine iff_of_false (by simp [nearestBits?]) ?_
    rw [tooLarge_iff hpos, not_le, ratio, Nat.cast_zero, zero_div]
    exact mul_pos (by norm_num) (zpow_pos two_pos _)
  obtain ⟨hhigh, hlow⟩ := lastExponent_spec hnum hden
  have hdigits := (scaled_div_lt_iff hpos (k := 53)).2 hhigh
  rw [nearestBits?_eq_none_iff_scaled hnum hden]
  have hle := @div_le_roundDiv (scaled num den (lastExponent num den)).1
    (scaled num den (lastExponent num den)).2
  have hge := @roundDiv_le (scaled num den (lastExponent num den)).1
    (scaled num den (lastExponent num den)).2
  rcases lt_trichotomy (lastExponent num den) 971 with hlt | heq | hgt
  · -- a quotient of 53 digits, or of one more after rounding, leaves the exponent in its range
    refine iff_of_false ?_ (not_tooLarge_of_lt hpos (by omega) hhigh)
    rw [Nat.pow_eq] at *
    omega
  · rw [heq] at hdigits ⊢
    rw [TooLarge, ← le_roundDiv_scaled_iff (e := 971) (k := 970) hpos rfl hdigits, Nat.pow_eq,
      Nat.pow_eq]
    omega
  · have hlow := hlow (by omega)
    refine iff_of_true ?_ (tooLarge_of_le hpos (by omega) hlow)
    have hdigits := not_lt.1 fun h => not_le.2 ((scaled_div_lt_iff hpos (k := 52)).1 h) hlow
    rw [Nat.pow_eq] at *
    omega

/-! ### Nearest floats -/

lemma lt_of_nearestBits? {bits : Nat} (h : nearestBits? num den = some bits) :
    bits < 2047 * Nat.pow 2 52 := by
  by_cases hzero : num = 0 ∨ den = 0
  · have : nearestBits? num den = some 0 := if_pos (by simpa using hzero)
    obtain rfl := Option.some.inj (this.symm.trans h)
    decide
  · obtain ⟨hnum, hden⟩ := not_or.1 hzero
    rw [nearestBits?_eq hnum hden] at h
    dsimp only at h
    split at h
    · next hlt => exact Option.some.inj h ▸ hlt
    · simp at h

variable {neg : Bool} {x : Float}

lemma isNaN_nearest? (h : nearest? neg num den = some x) : x.isNaN = false := by
  obtain ⟨bits, hbits, rfl⟩ := Option.map_eq_some_iff.1 h
  exact isNaN_floatOfBits neg (lt_of_nearestBits? hbits).le

lemma nearest?_nonneg (h : nearest? false num den = some x) : ¬ x < 0 := by
  obtain ⟨bits, hbits, rfl⟩ := Option.map_eq_some_iff.1 h
  exact floatOfBits_nonneg (lt_trans (lt_of_nearestBits? hbits) (by decide))

lemma isNaN_infinity : (infinity neg).isNaN = false := isNaN_floatOfBits neg le_rfl

/-- Digits with an exponent are read as a number. -/
lemma isNaN_ofDecimal {coefficient : Nat} {e : Int} :
    (ofDecimal neg coefficient e).isNaN = false := by
  have hnearest : ∀ num den, ((nearest? neg num den).getD (infinity neg)).isNaN = false := by
    intro num den
    cases h : nearest? neg num den with
    | none => exact isNaN_infinity
    | some x => exact isNaN_nearest? h
  unfold ofDecimal
  dsimp only
  split
  · exact isNaN_floatOfBits neg (Nat.zero_le _)
  · split
    · exact isNaN_infinity
    · split
      · exact hnearest _ _
      · exact hnearest _ _

end TableFeed.Number
