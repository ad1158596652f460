import RecordGraph.Proofs.Rounding

/-!
# Decimals that can be read

A decimal is read by rounding its digits, rounding the power of ten and rounding their product or
quotient.  Three roundings in a row may lead beyond the greatest number although the decimal itself
does not; this module says how far below the bound a decimal has to be for that not to happen.
-/

namespace RecordGraph.Json.Binary64

/-- What rounding multiplies a natural number by at most. -/
def roundingFactor : ℚ := 1 + 2 ^ (-53 : ℤ) + 2 ^ (-60 : ℤ)

theorem roundingFactor_pos : 0 < roundingFactor := by
  norm_num [roundingFactor]

theorem one_le_roundingFactor : 1 ≤ roundingFactor := by
  norm_num [roundingFactor]

theorem roundingFactor_le_two : roundingFactor ≤ 2 := by
  norm_num [roundingFactor]

/-! ## Natural numbers -/

theorem overflowBound_eq : overflowBound = (2 ^ 53 - 1 / 2) * (twoTo 971 : ℚ) := by
  rw [overflowBound, zpow_eq_twoTo_div]
  have hzero : (-maxExponent).toNat = 0 := rfl
  have hsame : maxExponent.toNat = 971 := rfl
  have hone : (twoTo 0 : ℚ) = 1 := by norm_num [twoTo]
  rw [hzero, hsame, hone, div_one]

/-- The greatest number of the format. -/
def greatest : ℕ := (2 ^ 53 - 1) * twoTo 971

theorem cast_lt_overflowBound {value : ℕ} (hvalue : value ≤ greatest) :
    (value : ℚ) < overflowBound := by
  have hunit : (0 : ℚ) < twoTo 971 := Nat.cast_pos.2 (twoTo_pos 971)
  have hcast : (greatest : ℚ) = (2 ^ 53 - 1) * (twoTo 971 : ℚ) := by
    have hmantissa : ((2 ^ 53 - 1 : ℕ) : ℚ) = 2 ^ 53 - 1 := by norm_num
    rw [greatest, Nat.cast_mul, hmantissa]
  refine lt_of_le_of_lt (Nat.cast_le.2 hvalue) ?_
  rw [hcast, overflowBound_eq]
  refine mul_lt_mul_of_pos_right ?_ hunit
  norm_num

theorem le_greatest {value : ℕ} (hvalue : value ≤ 2 ^ 66) : value ≤ greatest := by
  have hsmall : 2 ^ 66 ≤ greatest := by decide +kernel
  exact le_trans hvalue hsmall

theorem ofRatio_one_eq {value : ℕ} (hvalue : value ≤ greatest) :
    ofRatio false value 1 = some (ofNat value) := by
  have hbound : (value : ℚ) / (1 : ℕ) < overflowBound := by
    rw [Nat.cast_one, div_one]
    exact cast_lt_overflowBound hvalue
  obtain ⟨number, hnumber⟩ := Option.isSome_iff_exists.1 (ofRatio_isSome false one_pos hbound)
  rw [ofNat, hnumber, Option.getD_some]

theorem magnitude_ofNat_le {value : ℕ} (hvalue : value ≤ greatest) :
    (ofNat value).magnitude ≤ value * roundingFactor := by
  rcases Nat.eq_zero_or_pos value with rfl | hpositive
  · norm_num [ofNat, ofRatio, magnitude]
  · have hsize := magnitude_le_of_ofRatio one_pos (ofRatio_one_eq hvalue)
    rw [Nat.cast_one, div_one] at hsize
    have hone : (1 : ℚ) ≤ value := Nat.one_le_cast.2 hpositive
    have htiny : (2 : ℚ) ^ (-1075 : ℤ) ≤ 2 ^ (-60 : ℤ) :=
      zpow_le_zpow_right₀ one_le_two (by norm_num)
    have hpart : (0 : ℚ) < 2 ^ (-60 : ℤ) := zpow_pos two_pos _
    have hgrown : (2 : ℚ) ^ (-60 : ℤ) ≤ value * 2 ^ (-60 : ℤ) := le_mul_of_one_le_left hpart.le hone
    rw [roundingFactor]
    linarith

theorem le_magnitude_ofNat {value : ℕ} (hpositive : 0 < value) (hvalue : value ≤ greatest) :
    (value : ℚ) / 2 ≤ (ofNat value).magnitude := by
  have hone : (1 : ℚ) ≤ (value : ℚ) / (1 : ℕ) := by
    rw [Nat.cast_one, div_one]
    exact Nat.one_le_cast.2 hpositive
  have hsize := le_magnitude_of_ofRatio one_pos hone (ofRatio_one_eq hvalue)
  rwa [Nat.cast_one, div_one] at hsize

/-! ## Powers of ten -/

theorem tenTo_mono {left right : ℕ} (hle : left ≤ right) : tenTo left ≤ tenTo right :=
  Nat.pow_le_pow_right (by decide) hle

theorem tenTo_le {exponent : ℕ} (hexponent : exponent ≤ 308) : tenTo exponent ≤ greatest := by
  have hgreatest : tenTo 308 ≤ greatest := by decide +kernel
  exact le_trans (tenTo_mono hexponent) hgreatest

theorem cast_tenTo (exponent : ℕ) : (tenTo exponent : ℚ) = 10 ^ exponent := by
  simp [tenTo]

theorem magnitude_powerOfTen_le {exponent : ℕ} (hexponent : exponent ≤ 308) :
    (powerOfTen exponent).magnitude ≤ 10 ^ exponent * roundingFactor := by
  rw [← cast_tenTo]
  exact magnitude_ofNat_le (tenTo_le hexponent)

theorem le_magnitude_powerOfTen {exponent : ℕ} (hexponent : exponent ≤ 308) :
    (10 : ℚ) ^ exponent / 2 ≤ (powerOfTen exponent).magnitude := by
  rw [← cast_tenTo]
  exact le_magnitude_ofNat (Nat.pos_of_ne_zero (by simp [tenTo])) (tenTo_le hexponent)

theorem four_le_magnitude_powerOfTen {exponent : ℕ} (hpositive : 1 ≤ exponent)
    (hexponent : exponent ≤ 308) : 4 ≤ (powerOfTen exponent).magnitude := by
  have hten : (10 : ℚ) ^ 1 ≤ 10 ^ exponent := pow_le_pow_right₀ (by norm_num) hpositive
  have hpower := le_magnitude_powerOfTen hexponent
  linarith

theorem overflowBound_lt : overflowBound < 10 ^ (309 : ℤ) := by
  have hnat : 2 ^ 53 * twoTo 971 ≤ tenTo 309 := by decide +kernel
  have hunit : (0 : ℚ) < twoTo 971 := Nat.cast_pos.2 (twoTo_pos 971)
  have hcast : ((2 ^ 53 * twoTo 971 : ℕ) : ℚ) ≤ tenTo 309 := Nat.cast_le.2 hnat
  have hten : (10 : ℚ) ^ (309 : ℤ) = tenTo 309 := by
    rw [cast_tenTo]
    exact zpow_natCast 10 309
  rw [hten, overflowBound_eq]
  refine lt_of_lt_of_le ?_ hcast
  rw [Nat.cast_mul]
  refine mul_lt_mul_of_pos_right ?_ hunit
  norm_num

/-! ## Products and quotients -/

theorem magnitude_nonneg (number : Binary64) : 0 ≤ number.magnitude :=
  mul_nonneg (Nat.cast_nonneg _) (zpow_pos two_pos _).le

theorem mantissa_pos_of_magnitude_pos {number : Binary64} (hsize : 0 < number.magnitude) :
    0 < number.mantissa := by
  rw [Nat.pos_iff_ne_zero]
  intro hzero
  rw [magnitude, hzero, Nat.cast_zero, zero_mul] at hsize
  exact lt_irrefl _ hsize

theorem mul?_isSome {left right : Binary64}
    (hbound : left.magnitude * right.magnitude < overflowBound) :
    (left.mul? right).isSome = true := by
  refine ofRatio_isSome _ (twoTo_pos _) ?_
  have hratio : (((left.mantissa * right.mantissa *
      twoTo (left.exponent + right.exponent).toNat : ℕ) : ℚ) /
        (twoTo (-(left.exponent + right.exponent)).toNat : ℕ)) =
      left.magnitude * right.magnitude := by
    rw [Nat.cast_mul, mul_div_assoc, ← zpow_eq_twoTo_div, zpow_add₀ two_ne_zero, magnitude,
      magnitude]
    push_cast
    ring
  rw [hratio]
  exact hbound

/-- The quotient that is rounded by a division. -/
theorem div_ratio (left right : Binary64) :
    (((left.mantissa * twoTo (left.exponent - right.exponent).toNat : ℕ) : ℚ) /
        (right.mantissa * twoTo (-(left.exponent - right.exponent)).toNat : ℕ)) =
      left.magnitude / right.magnitude := by
  have hunits := zpow_eq_twoTo_div (left.exponent - right.exponent)
  rw [zpow_sub₀ two_ne_zero] at hunits
  rw [Nat.cast_mul, Nat.cast_mul, mul_div_mul_comm, ← hunits, ← mul_div_mul_comm]
  rfl

theorem div?_isSome {left right : Binary64} (hright : 0 < right.magnitude)
    (hbound : left.magnitude / right.magnitude < overflowBound) :
    (left.div? right).isSome = true := by
  refine ofRatio_isSome _ (Nat.mul_pos (mantissa_pos_of_magnitude_pos hright) (twoTo_pos _)) ?_
  rw [div_ratio]
  exact hbound

theorem magnitude_le_of_div? {left right number : Binary64} (hright : 0 < right.magnitude)
    (hnumber : left.div? right = some number) :
    number.magnitude ≤
      left.magnitude / right.magnitude * (1 + 2 ^ (-53 : ℤ)) + 2 ^ (-1075 : ℤ) := by
  rw [← div_ratio]
  exact magnitude_le_of_ofRatio
    (Nat.mul_pos (mantissa_pos_of_magnitude_pos hright) (twoTo_pos _)) hnumber

/-! ## Scaling -/

/-- The size below which the number of some digits is, whatever they are. -/
def digitsBound : ℚ := 2 ^ 65

theorem digitsBound_pos : 0 < digitsBound := by
  norm_num [digitsBound]

theorem lt_overflowBound_of_le {size : ℚ} (hsize : size ≤ 2 * digitsBound) :
    size < overflowBound := by
  refine lt_of_le_of_lt hsize (lt_of_le_of_lt ?_ (cast_lt_overflowBound (le_greatest (le_refl _))))
  norm_num [digitsBound]

/-- A quotient with a power of ten is at most twice as large. -/
theorem div_powerOfTen_le {number : Binary64} {exponent : ℕ} (hexponent : exponent ≤ 308)
    (hsize : number.magnitude ≤ digitsBound) :
    0 < (powerOfTen exponent).magnitude ∧
      number.magnitude / (powerOfTen exponent).magnitude ≤ 2 * digitsBound := by
  have hten : (1 : ℚ) ≤ 10 ^ exponent := one_le_pow₀ (by norm_num)
  have hpower := le_magnitude_powerOfTen hexponent
  have hpositive : 0 < (powerOfTen exponent).magnitude := by linarith
  refine ⟨hpositive, ?_⟩
  have hnumber := number.magnitude_nonneg
  rw [div_le_iff₀ hpositive]
  have hproduct :
      2 * digitsBound * (1 / 2) ≤ 2 * digitsBound * (powerOfTen exponent).magnitude := by
    exact mul_le_mul_of_nonneg_left (by linarith) (by linarith [digitsBound_pos])
  linarith

/-- Dividing by the greatest power of ten leaves a number no larger. -/
theorem magnitude_div_greatest_le {number smaller : Binary64}
    (hsize : number.magnitude ≤ digitsBound)
    (hsmaller : number.div? (powerOfTen 308) = some smaller) :
    smaller.magnitude ≤ digitsBound := by
  have hfour := four_le_magnitude_powerOfTen (by decide) (le_refl 308)
  have hpositive : 0 < (powerOfTen 308).magnitude := lt_of_lt_of_le (by norm_num) hfour
  have hquotient : number.magnitude / (powerOfTen 308).magnitude ≤ digitsBound / 4 := by
    have hnumber := number.magnitude_nonneg
    have hbound := digitsBound_pos.le
    gcongr
  have hrounded := magnitude_le_of_div? hpositive hsmaller
  have htiny : (2 : ℚ) ^ (-1075 : ℤ) ≤ 1 := zpow_le_one_of_nonpos₀ one_le_two (by norm_num)
  have hgrown : number.magnitude / (powerOfTen 308).magnitude * (1 + 2 ^ (-53 : ℤ)) ≤
      digitsBound / 4 * 2 := by
    have hfactor : (1 : ℚ) + 2 ^ (-53 : ℤ) ≤ 2 := by norm_num
    have hbound : (0 : ℚ) ≤ digitsBound / 4 := div_nonneg digitsBound_pos.le (by norm_num)
    exact mul_le_mul hquotient hfactor (by positivity) hbound
  have hroom : digitsBound / 4 * 2 + 1 ≤ digitsBound := by norm_num [digitsBound]
  linarith

/-- Scaling down never fails. -/
theorem scale_isSome_of_neg (number : Binary64) (exponent : ℤ) (hexponent : exponent < 0)
    (hsize : number.magnitude ≤ digitsBound) : (number.scale exponent).isSome = true := by
  fun_induction scale number exponent with
  | case1 number exponent hzero => rfl
  | case2 number exponent hzero hlarge => omega
  | case3 number exponent hzero hlarge hpositive => omega
  | case4 number exponent hzero hlarge hpositive hsmall =>
    obtain ⟨hpower, hquotient⟩ := div_powerOfTen_le (show (-exponent).toNat ≤ 308 by omega) hsize
    exact div?_isSome hpower (lt_overflowBound_of_le hquotient)
  | case5 number exponent hzero hlarge hpositive hsmall smaller hsmaller ih =>
    exact ih (by omega) (magnitude_div_greatest_le hsize hsmaller)
  | case6 number exponent hzero hlarge hpositive hsmall hnone =>
    obtain ⟨hpower, hquotient⟩ := div_powerOfTen_le (le_refl 308) hsize
    have hsome := div?_isSome hpower (lt_overflowBound_of_le hquotient)
    rw [hnone] at hsome
    cases hsome

/-- Scaling up does not fail as long as the product stays below the bound. -/
theorem scale_isSome_of_nonneg {number : Binary64} {exponent : ℤ} (hexponent : 0 ≤ exponent)
    (hgreatest : exponent ≤ 308)
    (hbound : number.magnitude * (powerOfTen exponent.toNat).magnitude < overflowBound) :
    (number.scale exponent).isSome = true := by
  rw [scale, if_pos hexponent]
  split
  · rfl
  · rw [if_neg (not_lt.2 hgreatest)]
    exact mul?_isSome hbound

/-! ## Decimals -/

/-- A decimal below the bound has an exponent of at most 308, unless it is zero. -/
theorem exponent_le_of_lt {digits : ℕ} {exponent : ℤ} (hpositive : 0 < digits)
    (hbound : (digits : ℚ) * 10 ^ exponent < overflowBound) : exponent ≤ 308 := by
  have hone : (1 : ℚ) ≤ digits := Nat.one_le_cast.2 hpositive
  have hten : (0 : ℚ) < 10 ^ exponent := zpow_pos (by norm_num) exponent
  have hpower : (10 : ℚ) ^ exponent < 10 ^ (309 : ℤ) := by
    calc (10 : ℚ) ^ exponent ≤ digits * 10 ^ exponent := le_mul_of_one_le_left hten.le hone
      _ < 10 ^ (309 : ℤ) := hbound.trans overflowBound_lt
  have hless := (zpow_lt_zpow_iff_right₀ (by norm_num : (1 : ℚ) < 10)).1 hpower
  omega

/-- Digits of 64 bits are read with their power of ten, unless the decimal is too close to the
bound. -/
theorem ofDecimal_isSome (negative : Bool) {digits : ℕ} {exponent : ℤ} (hdigits : digits < 2 ^ 64)
    (hbound : (digits : ℚ) * 10 ^ exponent * (roundingFactor * roundingFactor) < overflowBound) :
    (ofDecimal negative digits exponent).isSome = true := by
  have hnat : digits ≤ greatest := le_greatest (le_trans hdigits.le (by decide))
  have hsize := magnitude_ofNat_le hnat
  rw [ofDecimal, Option.isSome_map]
  rcases lt_or_ge exponent 0 with hnegative | hnonneg
  · refine scale_isSome_of_neg _ _ hnegative (le_trans hsize ?_)
    have hcast : (digits : ℚ) ≤ 2 ^ 64 := by exact_mod_cast hdigits.le
    calc (digits : ℚ) * roundingFactor ≤ 2 ^ 64 * 2 :=
          mul_le_mul hcast roundingFactor_le_two roundingFactor_pos.le (by norm_num)
      _ = digitsBound := by norm_num [digitsBound]
  · rcases Nat.eq_zero_or_pos digits with rfl | hpositive
    · rw [scale, if_pos (by decide)]
      rfl
    · have hfactor : 1 ≤ roundingFactor * roundingFactor :=
        one_le_mul_of_one_le_of_one_le one_le_roundingFactor one_le_roundingFactor
      have hdecimal : (0 : ℚ) ≤ digits * 10 ^ exponent :=
        mul_nonneg (Nat.cast_nonneg _) (zpow_pos (by norm_num) exponent).le
      have hgreatest := exponent_le_of_lt hpositive
        (lt_of_le_of_lt (le_mul_of_one_le_right hdecimal hfactor) hbound)
      refine scale_isSome_of_nonneg hnonneg hgreatest ?_
      lift exponent to ℕ using hnonneg
      have hpower := magnitude_powerOfTen_le (show exponent ≤ 308 by exact_mod_cast hgreatest)
      rw [Int.toNat_natCast]
      calc (ofNat digits).magnitude * (powerOfTen exponent).magnitude
          ≤ (digits * roundingFactor) * (10 ^ exponent * roundingFactor) :=
            mul_le_mul hsize hpower (magnitude_nonneg _)
              (mul_nonneg (Nat.cast_nonneg _) roundingFactor_pos.le)
        _ = digits * 10 ^ (exponent : ℤ) * (roundingFactor * roundingFactor) := by
            rw [zpow_natCast]
            ring
        _ < overflowBound := hbound

end RecordGraph.Json.Binary64
