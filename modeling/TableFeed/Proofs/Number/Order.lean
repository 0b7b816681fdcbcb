import Mathlib
import TableFeed.Number.Binary

/-!
# The order of floats

Of two floats one is at most the other, unless one of them is the float that stands for no number;
that one is neither below nor above anything.  So a float that is not below a bound is at least the
bound, or it stands for no number.

A float that is made of its bits is a number if its magnitude goes no further than the bits of an
infinity, and it is not below zero unless its sign bit is set.  The main results are `le_or_isNaN`,
`isNaN_floatOfBits` and `floatOfBits_nonneg`.
-/

namespace TableFeed.Number

open Float.Model Float.Model.UnpackedFloat

/-! ### Comparisons -/

/-- Two floats compared the other way round. -/
lemma compare_swap (x y : UnpackedFloat) : y.compare x = (x.compare y).map Ordering.swap := by
  cases x with
  | notANumber => cases y <;> rfl
  | infinity s =>
      cases y with
      | infinity t => cases s <;> cases t <;> rfl
      | _ => cases s <;> rfl
  | zero s =>
      cases y with
      | infinity t => cases t <;> rfl
      | finite t => cases t <;> rfl
      | _ => rfl
  | finite s m e =>
      cases y with
      | infinity t => cases s <;> cases t <;> rfl
      | finite t n f =>
          cases s <;> cases t <;>
            simp [UnpackedFloat.compare, Ordering.swap_then, Int.compare_swap, Nat.compare_swap]
      | _ => cases s <;> rfl

/-- Only what stands for no number cannot be compared. -/
lemma isNaN_of_compare_eq_none {x y : UnpackedFloat} (h : x.compare y = none) :
    x.isNaN = true ∨ y.isNaN = true := by
  unfold UnpackedFloat.compare at h
  split at h
  · exact .inl rfl
  · exact .inr rfl
  all_goals simp at h

variable {x least : Float}

lemma lt_iff_compare :
    x < least ↔ x.toModel.unpack.compare least.toModel.unpack = some .lt := by
  change decide (x.toModel < least.toModel) = true ↔ _
  rw [decide_eq_true_iff]
  exact beq_iff_eq

lemma le_iff_compare :
    x ≤ least ↔ (x.toModel.unpack.compare least.toModel.unpack).any (·.isLE) = true := by
  change decide (x.toModel ≤ least.toModel) = true ↔ _
  rw [decide_eq_true_iff]
  rfl

lemma not_lt_of_le (h : least ≤ x) : ¬ x < least := by
  rw [le_iff_compare] at h
  rw [lt_iff_compare]
  intro hlt
  rw [compare_swap x.toModel.unpack, hlt] at h
  exact absurd h (by decide)

/-- What is not below a number is at least that number, or no number. -/
lemma le_or_isNaN (hleast : least.isNaN = false) (h : ¬ x < least) :
    least ≤ x ∨ x.isNaN = true := by
  rw [lt_iff_compare] at h
  cases hcompare : x.toModel.unpack.compare least.toModel.unpack with
  | none =>
      cases isNaN_of_compare_eq_none hcompare with
      | inl hx => exact .inr hx
      | inr hl => exact absurd hl (Bool.eq_false_iff.1 hleast)
  | some o =>
      refine .inl (le_iff_compare.2 ?_)
      rw [compare_swap x.toModel.unpack, hcompare]
      cases o with
      | lt => exact absurd hcompare h
      | eq => rfl
      | gt => rfl

/-! ### Signs, and what stands for no number, in the bits -/

section Packed

variable {spec : Format} {b : BitVec spec.numBits} {x : UnpackedFloat}

/-- The sign of a float; what stands for no number counts as positive. -/
def signOf : UnpackedFloat → Sign
  | .finite s _ _ _ => s
  | .zero s => s
  | .infinity s => s
  | .notANumber => .positive

lemma signOf_unpack (h : unpackSign b = 0#1) :
    signOf (UnpackedFloat.unpack spec b) = .positive := by
  have hsign : Sign.ofBitVec (unpackSign b) = .positive := by rw [h]; rfl
  fun_cases UnpackedFloat.unpack with
  | case1 => exact hsign
  | case2 => rfl
  | case3 => exact hsign
  | case4 => exact hsign
  | case5 => exact hsign

lemma compare_zero_ne_lt (h : signOf x = .positive) : x.compare (.zero .positive) ≠ some .lt := by
  cases x with
  | notANumber => simp [UnpackedFloat.compare]
  | zero => simp [UnpackedFloat.compare]
  | infinity s =>
      obtain rfl : s = .positive := h
      simp [UnpackedFloat.compare]
  | finite s =>
      obtain rfl : s = .positive := h
      simp [UnpackedFloat.compare]

/-- The bits of a number are not those of what stands for none. -/
lemma isNaN_unpack (h : isNaNBits b = false) : (UnpackedFloat.unpack spec b).isNaN = false := by
  have hbits : ¬ (unpackExponent b = -1#_ ∧ unpackMantissa b ≠ 0#_) := by
    simpa [isNaNBits] using h
  fun_cases UnpackedFloat.unpack with
  | case1 => rfl
  | case2 _ _ he hm => exact absurd ⟨he, hm⟩ hbits
  | case3 => rfl
  | case4 => rfl
  | case5 => rfl

end Packed

/-! ### Floats made of their bits -/

lemma toNat_unpackMantissa (b : BitVec 64) :
    (@unpackMantissa .binary64 b).toNat = b.toNat % Nat.pow 2 52 := by
  simp [unpackMantissa, BitVec.extractLsb_toNat]

lemma toNat_unpackExponent (b : BitVec 64) :
    (@unpackExponent .binary64 b).toNat = b.toNat / Nat.pow 2 52 % Nat.pow 2 11 := by
  simp [unpackExponent, BitVec.extractLsb_toNat, Nat.shiftRight_eq_div_pow]

lemma toNat_unpackSign (b : BitVec 64) :
    (@unpackSign .binary64 b).toNat = b.toNat / Nat.pow 2 63 % 2 := by
  simp [unpackSign, BitVec.extractLsb_toNat, Nat.shiftRight_eq_div_pow]

/-- The bits of a float, with that of the sign. -/
def word (neg : Bool) (bits : Nat) : BitVec 64 :=
  BitVec.ofNat 64 (bits + if neg then Nat.pow 2 63 else 0)

/-- Packing keeps the bits, up to those that stand for no number. -/
lemma unpack_floatOfBits (neg : Bool) (bits : Nat) :
    (floatOfBits neg bits).toModel.unpack =
      if @isNaNBits .binary64 (word neg bits) then .notANumber
      else UnpackedFloat.unpack .binary64 (word neg bits) := by
  have hpacked := @pack_unpack .binary64 (word neg bits) (by decide)
  change UnpackedFloat.unpack .binary64
    (UnpackedFloat.pack .binary64 (UnpackedFloat.unpack .binary64 (word neg bits))) = _
  rw [hpacked]
  split
  · exact unpack_packedNaN
  · rfl

variable {bits : Nat}

lemma toNat_word {neg : Bool} (h : bits < Nat.pow 2 63) :
    (word neg bits).toNat = bits + if neg then Nat.pow 2 63 else 0 := by
  rw [word, BitVec.toNat_ofNat]
  refine Nat.mod_eq_of_lt ?_
  rw [Nat.pow_eq] at *
  split <;> omega

/-- All bits of the exponent are set in an infinity, and its mantissa is zero. -/
lemma isNaNBits_word {neg : Bool} (h : bits ≤ 2047 * Nat.pow 2 52) :
    @isNaNBits .binary64 (word neg bits) = false := by
  have hbits : bits < Nat.pow 2 63 := Nat.lt_of_le_of_lt h (by decide)
  refine decide_eq_false fun ⟨he, hm⟩ => hm (BitVec.eq_of_toNat_eq ?_)
  have he : bits / Nat.pow 2 52 % Nat.pow 2 11 = 2047 := by
    have htop : (-BitVec.ofNat Format.binary64.exponentBits 1).toNat = 2047 := by decide
    rw [← htop, ← he, toNat_unpackExponent, toNat_word hbits]
    simp only [Nat.pow_eq]
    split <;> omega
  have hzero : (BitVec.ofNat Format.binary64.mantissaBitsWithoutImplicit 0).toNat = 0 := rfl
  rw [toNat_unpackMantissa, toNat_word hbits, hzero]
  simp only [Nat.pow_eq] at *
  split <;> omega

/-- Up to the bits of an infinity, bits are those of a number. -/
lemma isNaN_floatOfBits (neg : Bool) (h : bits ≤ 2047 * Nat.pow 2 52) :
    (floatOfBits neg bits).isNaN = false := by
  change (floatOfBits neg bits).toModel.unpack.isNaN = false
  rw [unpack_floatOfBits, isNaNBits_word h]
  exact isNaN_unpack (isNaNBits_word h)

/-- A float whose sign bit is not set is not below zero. -/
lemma floatOfBits_nonneg (h : bits < Nat.pow 2 63) : ¬ floatOfBits false bits < 0 := by
  have hsign : @unpackSign .binary64 (word false bits) = 0#1 := by
    apply BitVec.eq_of_toNat_eq
    rw [toNat_unpackSign, toNat_word h]
    rw [Nat.pow_eq] at *
    simp
    omega
  rw [lt_iff_compare, unpack_floatOfBits]
  refine compare_zero_ne_lt ?_
  split
  · rfl
  · exact signOf_unpack hsign

end TableFeed.Number
