import Mathlib.Algebra.Order.Field.Power
import Mathlib.Data.Rat.Cast.Order
import Mathlib.Tactic.FieldSimp
import Mathlib.Tactic.Linarith
import Mathlib.Tactic.NormNum
import Mathlib.Tactic.Positivity
import Mathlib.Tactic.Ring
import RecordGraph.Json.Binary64

/-!
# How far rounding goes

The number that is nearest to a quotient lies within half a unit of its last binary digit.  From
this one fact follow a bound on its size, that it fits in the format, and that it is there at all as
long as the quotient is below the middle between the greatest number and the next power of two.
-/

namespace RecordGraph.Json.Binary64

/-- The size of a number, its sign left out. -/
def magnitude (number : Binary64) : ℚ := number.mantissa * 2 ^ number.exponent

/-- A number with 53 binary digits and an exponent of the format. -/
structure InFormat (number : Binary64) : Prop where
  mantissa : number.mantissa < 2 ^ 53
  least : minExponent ≤ number.exponent
  greatest : number.exponent ≤ maxExponent

/-- What is below this is rounded to a number of the format. -/
def overflowBound : ℚ := (2 ^ 53 - 1 / 2) * 2 ^ maxExponent

/-! ## Powers of two -/

theorem zpow_eq_twoTo_div (exponent : ℤ) :
    (2 : ℚ) ^ exponent = twoTo exponent.toNat / twoTo (-exponent).toNat := by
  simp only [twoTo, Nat.pow_eq, Nat.cast_pow, Nat.cast_ofNat]
  rcases le_total 0 exponent with hpositive | hnegative
  · lift exponent to ℕ using hpositive
    simp
  · obtain ⟨size, rfl⟩ : ∃ size : ℕ, exponent = -(size : ℤ) :=
      ⟨(-exponent).toNat, by omega⟩
    simp

/-- A mantissa of 53 digits more makes one power of two. -/
theorem zpow_add_digits (exponent : ℤ) : (2 : ℚ) ^ (exponent + 53) = 2 ^ 53 * 2 ^ exponent := by
  rw [zpow_add₀ two_ne_zero, mul_comm]
  norm_cast

theorem overflowBound_le : overflowBound ≤ 2 ^ (maxExponent + 53) := by
  have hunit : (0 : ℚ) < 2 ^ maxExponent := zpow_pos two_pos _
  rw [zpow_add_digits, overflowBound]
  exact mul_le_mul_of_nonneg_right (by norm_num) hunit.le

theorem twoTo_pos (exponent : ℕ) : 0 < twoTo exponent := Nat.two_pow_pos exponent

/-- A quotient in units of a power of two, as a quotient of natural numbers. -/
theorem scaled_ratio (numerator denominator : ℕ) (exponent : ℤ) :
    ((numerator * twoTo (-exponent).toNat : ℕ) : ℚ) /
        (denominator * twoTo exponent.toNat : ℕ) =
      (numerator / denominator) / 2 ^ exponent := by
  rw [zpow_eq_twoTo_div, Nat.cast_mul, Nat.cast_mul, div_div_div_eq]

/-! ## The nearest integer -/

theorem divideEven_near (numerator : ℕ) {denominator : ℕ} (hdenominator : 0 < denominator) :
    (divideEven numerator denominator : ℚ) ≤ numerator / denominator + 1 / 2 ∧
      (numerator : ℚ) / denominator - 1 / 2 ≤ divideEven numerator denominator := by
  have hpositive : (0 : ℚ) < denominator := Nat.cast_pos.2 hdenominator
  -- In whole numbers: twice the rounded quotient misses by one denominator at most.
  have hnear : 2 * (divideEven numerator denominator * denominator) ≤ 2 * numerator + denominator ∧
      2 * numerator ≤ 2 * (divideEven numerator denominator * denominator) + denominator := by
    have hparts := Nat.div_add_mod numerator denominator
    have hrest := Nat.mod_lt numerator hdenominator
    rw [Nat.mul_comm] at hparts
    simp only [divideEven]
    split
    · omega
    · split
      · rw [Nat.add_mul]
        omega
      · split
        · omega
        · rw [Nat.add_mul]
          omega
  have hupper : (2 * (divideEven numerator denominator * denominator) : ℚ) ≤
      2 * numerator + denominator := by exact_mod_cast hnear.1
  have hlower : (2 * numerator : ℚ) ≤
      2 * (divideEven numerator denominator * denominator) + denominator := by
    exact_mod_cast hnear.2
  constructor
  · rw [div_add' _ _ _ hpositive.ne', le_div_iff₀ hpositive]
    linarith
  · rw [sub_le_iff_le_add, div_le_iff₀ hpositive]
    linarith

/-! ## The binary logarithm -/

theorem powerFits_iff (numerator : ℕ) {denominator : ℕ} (hdenominator : 0 < denominator)
    (power : ℤ) :
    powerFits numerator denominator power = true ↔
      (2 : ℚ) ^ power ≤ numerator / denominator := by
  have hpositive : (0 : ℚ) < denominator := Nat.cast_pos.2 hdenominator
  have hscale : (0 : ℚ) < twoTo (-power).toNat := Nat.cast_pos.2 (twoTo_pos _)
  rw [powerFits, decide_eq_true_iff, zpow_eq_twoTo_div, div_le_div_iff₀ hscale hpositive]
  rw [← Nat.cast_mul, ← Nat.cast_mul, Nat.cast_le, Nat.mul_comm]

theorem floorLog_bounds {numerator denominator : ℕ} (hnumerator : numerator ≠ 0)
    (hdenominator : 0 < denominator) :
    (2 : ℚ) ^ floorLog numerator denominator ≤ numerator / denominator ∧
      (numerator : ℚ) / denominator < 2 ^ (floorLog numerator denominator + 1) := by
  have hpositive : (0 : ℚ) < denominator := Nat.cast_pos.2 hdenominator
  have hlow : ((2 : ℚ) ^ (numerator.log2 : ℤ)) ≤ numerator := by
    rw [zpow_natCast]
    exact_mod_cast Nat.log2_self_le hnumerator
  have hhigh : (numerator : ℚ) < 2 ^ ((numerator.log2 : ℤ) + 1) := by
    have hnat : numerator < 2 ^ (numerator.log2 + 1) := Nat.lt_log2_self
    exact_mod_cast hnat
  have hlowBelow : ((2 : ℚ) ^ (denominator.log2 : ℤ)) ≤ denominator := by
    rw [zpow_natCast]
    exact_mod_cast Nat.log2_self_le hdenominator.ne'
  have hhighBelow : (denominator : ℚ) < 2 ^ ((denominator.log2 : ℤ) + 1) := by
    have hnat : denominator < 2 ^ (denominator.log2 + 1) := Nat.lt_log2_self
    exact_mod_cast hnat
  have htwo : (2 : ℚ) ≠ 0 := two_ne_zero
  have hupper : (numerator : ℚ) / denominator <
      2 ^ ((numerator.log2 : ℤ) - denominator.log2 + 1) := by
    calc (numerator : ℚ) / denominator
        ≤ numerator / 2 ^ (denominator.log2 : ℤ) := by gcongr
      _ < 2 ^ ((numerator.log2 : ℤ) + 1) / 2 ^ (denominator.log2 : ℤ) := by gcongr
      _ = 2 ^ ((numerator.log2 : ℤ) - denominator.log2 + 1) := by
          rw [← zpow_sub₀ htwo]
          congr 1
          ring
  have hlower : (2 : ℚ) ^ ((numerator.log2 : ℤ) - denominator.log2 - 1) ≤
      numerator / denominator := by
    calc (2 : ℚ) ^ ((numerator.log2 : ℤ) - denominator.log2 - 1)
        = 2 ^ (numerator.log2 : ℤ) / 2 ^ ((denominator.log2 : ℤ) + 1) := by
          rw [← zpow_sub₀ htwo]
          congr 1
          ring
      _ ≤ numerator / 2 ^ ((denominator.log2 : ℤ) + 1) := by gcongr
      _ ≤ numerator / denominator := by gcongr
  rw [floorLog]
  split
  · next hfits => exact ⟨(powerFits_iff numerator hdenominator _).1 hfits, hupper⟩
  · next hfits =>
    refine ⟨hlower, ?_⟩
    rw [sub_add_cancel]
    exact lt_of_not_ge (mt (powerFits_iff numerator hdenominator _).2 hfits)

/-! ## The nearest number -/

/-- A mantissa that was rounded up to `2 ^ 53` is halved. -/
def carried (negative : Bool) (mantissa : ℕ) (exponent : ℤ) : Binary64 :=
  if mantissa = twoTo 53 then ⟨negative, twoTo 52, exponent + 1⟩
  else ⟨negative, mantissa, exponent⟩

theorem magnitude_carried (negative : Bool) (mantissa : ℕ) (exponent : ℤ) :
    (carried negative mantissa exponent).magnitude = mantissa * 2 ^ exponent := by
  rw [carried]
  split
  · next hfull =>
    rw [magnitude, hfull, zpow_add_one₀ two_ne_zero]
    simp only [twoTo, Nat.pow_eq]
    push_cast
    ring
  · rfl

/-- A quotient, the exponent at which it is rounded, and the mantissa that it is rounded to. -/
structure Rounded (ratio : ℚ) (exponent : ℤ) (mantissa : ℕ) : Prop where
  positive : 0 < ratio
  least : minExponent ≤ exponent
  /-- Above the least exponent the mantissa has all its digits. -/
  full : exponent = minExponent ∨ (2 : ℚ) ^ (exponent + 52) ≤ ratio
  small : ratio < 2 ^ (exponent + 53)
  above : (mantissa : ℚ) ≤ ratio / 2 ^ exponent + 1 / 2
  below : ratio / 2 ^ exponent - 1 / 2 ≤ mantissa

theorem ofRatio_eq (negative : Bool) {numerator denominator : ℕ} (hnumerator : numerator ≠ 0)
    (hdenominator : 0 < denominator) :
    ∃ exponent mantissa, Rounded (numerator / denominator) exponent mantissa ∧
      ofRatio negative numerator denominator =
        if (carried negative mantissa exponent).exponent ≤ maxExponent then
          some (carried negative mantissa exponent)
        else none := by
  obtain ⟨hlow, hhigh⟩ := floorLog_bounds hnumerator hdenominator
  let exponent := max (floorLog numerator denominator - 52) minExponent
  have hscaled : 0 < denominator * twoTo exponent.toNat := Nat.mul_pos hdenominator (twoTo_pos _)
  obtain ⟨habove, hbelow⟩ := divideEven_near (numerator * twoTo (-exponent).toNat) hscaled
  rw [scaled_ratio] at habove hbelow
  have hpositive : (0 : ℚ) < numerator / denominator :=
    div_pos (Nat.cast_pos.2 (Nat.pos_of_ne_zero hnumerator)) (Nat.cast_pos.2 hdenominator)
  refine ⟨exponent, _, ⟨hpositive, le_max_right _ _, ?_, ?_, habove, hbelow⟩, ?_⟩
  · rcases max_choice (floorLog numerator denominator - 52) minExponent with hlog | hleast
    · right
      have hsum : exponent + 52 = floorLog numerator denominator := by
        show max _ _ + 52 = _
        omega
      rw [hsum]
      exact hlow
    · exact .inl hleast
  · refine lt_of_lt_of_le hhigh (zpow_le_zpow_right₀ one_le_two ?_)
    show floorLog numerator denominator + 1 ≤ max _ _ + 53
    omega
  · rw [ofRatio, if_neg hnumerator]
    rfl

namespace Rounded

variable {ratio : ℚ} {exponent : ℤ} {mantissa : ℕ} (hrounded : Rounded ratio exponent mantissa)
include hrounded

/-- A mantissa has 53 digits, or it is the next power of two. -/
theorem mantissa_le : mantissa ≤ 2 ^ 53 := by
  have hunit : (0 : ℚ) < 2 ^ exponent := zpow_pos two_pos exponent
  have hratio : ratio / 2 ^ exponent < 2 ^ 53 := by
    rw [div_lt_iff₀ hunit]
    rw [← zpow_add_digits]
    exact hrounded.small
  have hbelow : (mantissa : ℚ) < 2 ^ 53 + 1 := by linarith [hrounded.above]
  have hnat : mantissa < 2 ^ 53 + 1 := by exact_mod_cast hbelow
  omega

/-- Rounding adds at most half a unit of the last digit, which is a small part of the quotient
unless the quotient itself is tiny. -/
theorem size_le : mantissa * 2 ^ exponent ≤ ratio * (1 + 2 ^ (-53 : ℤ)) + 2 ^ (-1075 : ℤ) := by
  have hunit : (0 : ℚ) < 2 ^ exponent := zpow_pos two_pos exponent
  have hsize : mantissa * 2 ^ exponent ≤ ratio + 2 ^ exponent / 2 := by
    calc (mantissa : ℚ) * 2 ^ exponent
        ≤ (ratio / 2 ^ exponent + 1 / 2) * 2 ^ exponent := by gcongr; exact hrounded.above
      _ = ratio + 2 ^ exponent / 2 := by field_simp
  have hhalf : (2 : ℚ) ^ exponent / 2 = 2 ^ (exponent - 1) := by
    rw [zpow_sub_one₀ two_ne_zero]
    rfl
  have htiny : (0 : ℚ) < 2 ^ (-1075 : ℤ) := zpow_pos two_pos _
  have hpart : (0 : ℚ) < 2 ^ (-53 : ℤ) := zpow_pos two_pos _
  rcases hrounded.full with hleast | hfull
  · have hunits : (2 : ℚ) ^ (exponent - 1) = 2 ^ (-1075 : ℤ) := by
      rw [hleast, minExponent]
      rfl
    have hproduct : 0 < ratio * 2 ^ (-53 : ℤ) := mul_pos hrounded.positive hpart
    linarith
  · have hunits : (2 : ℚ) ^ (exponent - 1) ≤ ratio * 2 ^ (-53 : ℤ) := by
      calc (2 : ℚ) ^ (exponent - 1) = 2 ^ (exponent + 52) * 2 ^ (-53 : ℤ) := by
            rw [← zpow_add₀ two_ne_zero]
            congr 1
            ring
        _ ≤ ratio * 2 ^ (-53 : ℤ) := by gcongr
    linarith

/-- Rounding takes away at most half a unit of the last digit. -/
theorem le_size (hone : 1 ≤ ratio) : ratio / 2 ≤ mantissa * 2 ^ exponent := by
  have hunit : (0 : ℚ) < 2 ^ exponent := zpow_pos two_pos exponent
  have hsize : ratio - 2 ^ exponent / 2 ≤ mantissa * 2 ^ exponent := by
    calc ratio - 2 ^ exponent / 2 = (ratio / 2 ^ exponent - 1 / 2) * 2 ^ exponent := by field_simp
      _ ≤ mantissa * 2 ^ exponent := by gcongr; exact hrounded.below
  have hunits : (2 : ℚ) ^ exponent ≤ ratio := by
    rcases hrounded.full with hleast | hfull
    · refine le_trans (zpow_le_one_of_nonpos₀ one_le_two ?_) hone
      rw [hleast, minExponent]
      norm_num
    · exact le_trans (zpow_le_zpow_right₀ one_le_two (by omega)) hfull
  linarith

/-- What is below the bound is rounded to a number of the format. -/
theorem exponent_carried_le (negative : Bool) (hbound : ratio < overflowBound) :
    (carried negative mantissa exponent).exponent ≤ maxExponent := by
  have hunit : (0 : ℚ) < 2 ^ maxExponent := zpow_pos two_pos _
  have hexponent : exponent ≤ maxExponent := by
    rcases hrounded.full with hleast | hfull
    · rw [hleast]
      decide
    · have hlarge : (2 : ℚ) ^ (exponent + 52) < 2 ^ (maxExponent + 53) :=
        lt_of_le_of_lt hfull (hbound.trans_le overflowBound_le)
      have hless := (zpow_lt_zpow_iff_right₀ one_lt_two).1 hlarge
      omega
  rw [carried]
  split
  · next hfull =>
    -- A full mantissa at the greatest exponent would be beyond the bound.
    have hother : exponent ≠ maxExponent := by
      intro hgreatest
      have hmantissa : (mantissa : ℚ) = 2 ^ 53 := by
        rw [hfull]
        exact_mod_cast rfl
      have habove := hrounded.above
      rw [hgreatest, hmantissa] at habove
      rw [overflowBound] at hbound
      have hratio : ratio / 2 ^ maxExponent < 2 ^ 53 - 1 / 2 := (div_lt_iff₀ hunit).2 hbound
      linarith
    show exponent + 1 ≤ maxExponent
    omega
  · exact hexponent

theorem inFormat_carried (negative : Bool)
    (hgreatest : (carried negative mantissa exponent).exponent ≤ maxExponent) :
    (carried negative mantissa exponent).InFormat := by
  have hleast := hrounded.least
  have hmantissa := hrounded.mantissa_le
  refine ⟨?_, ?_, hgreatest⟩
  · rw [carried]
    split
    · show twoTo 52 < 2 ^ 53
      decide
    · next hfull => exact lt_of_le_of_ne hmantissa hfull
  · rw [carried]
    split
    · show minExponent ≤ exponent + 1
      omega
    · exact hleast

end Rounded

/-! ## Quotients -/

variable {negative : Bool} {numerator denominator : ℕ} {number : Binary64}

theorem ofRatio_isSome (negative : Bool) (hdenominator : 0 < denominator)
    (hbound : (numerator : ℚ) / denominator < overflowBound) :
    (ofRatio negative numerator denominator).isSome = true := by
  by_cases hzero : numerator = 0
  · rw [ofRatio, if_pos hzero]
    rfl
  · obtain ⟨exponent, mantissa, hrounded, heq⟩ := ofRatio_eq negative hzero hdenominator
    rw [heq, if_pos (hrounded.exponent_carried_le negative hbound)]
    rfl

theorem magnitude_le_of_ofRatio (hdenominator : 0 < denominator)
    (hnumber : ofRatio negative numerator denominator = some number) :
    number.magnitude ≤
      (numerator / denominator) * (1 + 2 ^ (-53 : ℤ)) + 2 ^ (-1075 : ℤ) := by
  by_cases hzero : numerator = 0
  · rw [ofRatio, if_pos hzero] at hnumber
    cases hnumber
    have htiny : (0 : ℚ) < 2 ^ (-1075 : ℤ) := zpow_pos two_pos _
    simp only [magnitude, hzero, Nat.cast_zero, zero_mul, zero_div, zero_add]
    exact htiny.le
  · obtain ⟨exponent, mantissa, hrounded, heq⟩ := ofRatio_eq negative hzero hdenominator
    rw [heq] at hnumber
    split at hnumber
    · cases hnumber
      rw [magnitude_carried]
      exact hrounded.size_le
    · cases hnumber

theorem le_magnitude_of_ofRatio (hdenominator : 0 < denominator)
    (hone : 1 ≤ (numerator : ℚ) / denominator)
    (hnumber : ofRatio negative numerator denominator = some number) :
    (numerator / denominator : ℚ) / 2 ≤ number.magnitude := by
  have hzero : numerator ≠ 0 := by
    intro hzero
    rw [hzero, Nat.cast_zero, zero_div] at hone
    norm_num at hone
  obtain ⟨exponent, mantissa, hrounded, heq⟩ := ofRatio_eq negative hzero hdenominator
  rw [heq] at hnumber
  split at hnumber
  · cases hnumber
    rw [magnitude_carried]
    exact hrounded.le_size hone
  · cases hnumber

theorem inFormat_of_ofRatio (hdenominator : 0 < denominator)
    (hnumber : ofRatio negative numerator denominator = some number) : number.InFormat := by
  by_cases hzero : numerator = 0
  · rw [ofRatio, if_pos hzero] at hnumber
    cases hnumber
    exact ⟨Nat.two_pow_pos 53, le_refl minExponent, show minExponent ≤ maxExponent by decide⟩
  · obtain ⟨exponent, mantissa, hrounded, heq⟩ := ofRatio_eq negative hzero hdenominator
    rw [heq] at hnumber
    split at hnumber
    · next hgreatest =>
      cases hnumber
      exact hrounded.inFormat_carried negative hgreatest
    · cases hnumber

end RecordGraph.Json.Binary64
