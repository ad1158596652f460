import RecordGraph.Json.Shortest
import RecordGraph.Proofs.Scaling
import RecordGraph.Proofs.WrittenNumbers

/-!
# Reading back floating-point numbers

A floating-point number is written as the shortest decimal that is nearest to it, so the decimal
lies at most half a unit above it.  That is far enough below the bound of the format for reading it
to succeed, except for the three greatest numbers, whose texts are looked at one by one.  So every
number that is written can be read, and what is read is a number of the format again.
-/

namespace RecordGraph.Json

namespace Lexeme

/-! ## The amount of a number -/

def fractionDigits (lexeme : Lexeme) : List Char := lexeme.fraction.getD []

/-- What the digits and the power of a number stand for, its sign left out. -/
def amount (lexeme : Lexeme) : ℚ :=
  Decimal.ofDigits (lexeme.whole ++ lexeme.fractionDigits) *
    10 ^ (powerValue lexeme.power - lexeme.fractionDigits.length)

theorem absorb_lt {significand : ℕ} (hfits : significand < wordSize) (cs : List Char) :
    (absorb significand cs).1 < wordSize := by
  fun_induction absorb significand cs with
  | case1 significand => exact hfits
  | case2 significand c rest grown hgrown ih => exact ih hgrown
  | case3 significand c rest grown hgrown => exact hfits

/-- The digits that are left over are taken for zeros. -/
theorem absorb_le (significand : ℕ) (cs : List Char) :
    (absorb significand cs).1 * 10 ^ (absorb significand cs).2.length ≤
      significand * 10 ^ cs.length + Decimal.ofDigits cs := by
  fun_induction absorb significand cs with
  | case1 significand => simp
  | case2 significand c rest grown hgrown ih =>
    have hshift : significand * 10 ^ (c :: rest).length + Decimal.ofDigits (c :: rest) =
        grown * 10 ^ rest.length + Decimal.ofDigits rest := by
      rw [← Decimal.foldl_digits, ← Decimal.foldl_digits]
      rfl
    rw [hshift]
    exact ih
  | case3 significand c rest grown hgrown => exact Nat.le_add_right _ _

theorem absorb_eq_of_lt {significand : ℕ} {cs : List Char}
    (hfits : significand * 10 ^ cs.length + Decimal.ofDigits cs < wordSize) :
    absorb significand cs = (significand * 10 ^ cs.length + Decimal.ofDigits cs, []) := by
  induction cs generalizing significand with
  | nil => simp [absorb, Decimal.ofDigits]
  | cons c rest ih =>
    have hshift : significand * 10 ^ (c :: rest).length + Decimal.ofDigits (c :: rest) =
        (10 * significand + Decimal.digitValue c) * 10 ^ rest.length + Decimal.ofDigits rest := by
      rw [← Decimal.foldl_digits, ← Decimal.foldl_digits]
      rfl
    rw [hshift] at hfits ⊢
    have hgrown : 10 * significand + Decimal.digitValue c < wordSize :=
      lt_of_le_of_lt (le_trans (Nat.le_mul_of_pos_right _ (Nat.pow_pos (by decide)))
        (Nat.le_add_right _ _)) hfits
    rw [absorb, if_pos hgrown]
    exact ih hfits

/-- Whole digits that fit in 64 bits are all taken. -/
theorem absorb_whole {lexeme : Lexeme} (hwhole : IsNumeral lexeme.whole)
    (hlength : lexeme.whole.length ≤ 19) :
    absorb 0 lexeme.whole = (Decimal.ofDigits lexeme.whole, []) := by
  have hfits : 0 * 10 ^ lexeme.whole.length + Decimal.ofDigits lexeme.whole < wordSize := by
    rw [Nat.zero_mul, Nat.zero_add]
    calc Decimal.ofDigits lexeme.whole < 10 ^ lexeme.whole.length := Decimal.ofDigits_lt hwhole.2
      _ ≤ 10 ^ 19 := Nat.pow_le_pow_right (by decide) hlength
      _ < wordSize := by decide
  rw [absorb_eq_of_lt hfits, Nat.zero_mul, Nat.zero_add]

/-- A number with a short whole part is read if its amount stays below the bound. -/
theorem toFloat?_isSome {lexeme : Lexeme} (hwhole : IsNumeral lexeme.whole)
    (hlength : lexeme.whole.length ≤ 19)
    (hbound : lexeme.amount * (Binary64.roundingFactor * Binary64.roundingFactor) <
      Binary64.overflowBound) : lexeme.toFloat?.isSome = true := by
  rw [toFloat?, absorb_whole hwhole hlength]
  have hfits : Decimal.ofDigits lexeme.whole < wordSize := by
    have hall := absorb_lt (show 0 < wordSize by decide) lexeme.whole
    rwa [absorb_whole hwhole hlength] at hall
  have hless := absorb_lt hfits lexeme.fractionDigits
  have hvalue := absorb_le (Decimal.ofDigits lexeme.whole) lexeme.fractionDigits
  rw [← Decimal.ofDigits_append] at hvalue
  rw [fractionDigits] at hless hvalue
  rw [Option.isSome_map]
  refine Binary64.ofDecimal_isSome _ hless (lt_of_le_of_lt ?_ hbound)
  have hfactor := Binary64.roundingFactor_pos.le
  refine mul_le_mul_of_nonneg_right ?_ (mul_nonneg hfactor hfactor)
  have hplaces : ∀ power places left : ℤ,
      power + 0 - (places - left) = left + (power - places) := by
    intro power places left
    omega
  have hunit : (0 : ℚ) ≤ 10 ^ (powerValue lexeme.power - (lexeme.fraction.getD []).length) :=
    (zpow_pos (by norm_num) _).le
  rw [List.length_nil, Nat.cast_zero, hplaces, amount, fractionDigits, zpow_add₀ (by norm_num),
    zpow_natCast, ← mul_assoc]
  exact mul_le_mul_of_nonneg_right (by exact_mod_cast hvalue) hunit

/-! ## Decimals as they are written -/

/-- An exponent with its sign. -/
def powerOf (exponent : ℤ) : Bool × List Char :=
  (decide (exponent < 0), Decimal.digits exponent.natAbs)

/-- The form in which a floating-point number is written, from its digits and its power of ten. -/
def ofDecimal (negative : Bool) (value : ℕ) (exponent : ℤ) : Lexeme :=
  let digits := Decimal.digits value
  let point : ℤ := digits.length + exponent
  if 0 ≤ exponent ∧ point ≤ 16 then
    ⟨negative, digits ++ List.replicate exponent.toNat '0', some ['0'], none⟩
  else if 0 < point ∧ point ≤ 16 then
    ⟨negative, digits.take point.toNat, some (digits.drop point.toNat), none⟩
  else if -5 < point ∧ point ≤ 0 then
    ⟨negative, ['0'], some (List.replicate (-point).toNat '0' ++ digits), none⟩
  else
    match digits with
    | [digit] => ⟨negative, [digit], none, some (powerOf (point - 1))⟩
    | first :: rest => ⟨negative, [first], some rest, some (powerOf (point - 1))⟩
    | [] => ⟨negative, [], none, none⟩

theorem powerText_powerOf (exponent : ℤ) :
    powerText (some (powerOf exponent)) = Binary64.writeExponent exponent := by
  cases exponent with
  | ofNat exponent =>
    have hpositive : ¬ (exponent : ℤ) < 0 := not_lt.2 (Int.natCast_nonneg exponent)
    simp [powerOf, powerText, Binary64.writeExponent, Decimal.write, hpositive]
  | negSucc exponent =>
    simp [powerOf, powerText, Binary64.writeExponent, Decimal.write, Int.negSucc_lt_zero]

@[simp]
theorem powerValue_powerOf (exponent : ℤ) : powerValue (some (powerOf exponent)) = exponent := by
  by_cases hnegative : exponent < 0
  · simp only [powerOf, hnegative, decide_true, powerValue, Decimal.ofDigits_digits]
    omega
  · simp only [powerOf, hnegative, decide_false, powerValue, Decimal.ofDigits_digits]
    omega

/-- A number that is written as a decimal: it is none of the integers, and reading it takes in all
of its whole part. -/
structure Denotes (lexeme : Lexeme) (value : ℕ) (exponent : ℤ) : Prop where
  proper : lexeme.Proper
  length : lexeme.whole.length ≤ 19
  amount : lexeme.amount = value * 10 ^ exponent
  toFloat : lexeme.toJson? = lexeme.toFloat?

theorem ten_zpow_add (left right : ℤ) : (10 : ℚ) ^ (left + right) = 10 ^ left * 10 ^ right :=
  zpow_add₀ (by norm_num) left right

/-- The amount of a number whose digits are those of a value, with some zeros behind them. -/
theorem amount_eq {lexeme : Lexeme} {value places : ℕ} {exponent : ℤ}
    (hdigits : Decimal.ofDigits (lexeme.whole ++ lexeme.fractionDigits) = value * 10 ^ places)
    (hshift : places + (powerValue lexeme.power - lexeme.fractionDigits.length) = exponent) :
    lexeme.amount = value * 10 ^ exponent := by
  rw [amount, hdigits, ← hshift, ten_zpow_add, zpow_natCast, Nat.cast_mul, Nat.cast_pow,
    Nat.cast_ofNat, mul_assoc]

variable (negative : Bool) {value : ℕ} {exponent : ℤ} {digits : List Char}

/-- The digits with zeros up to the point. -/
theorem denotes_padded (hdigits : digits = Decimal.digits value)
    (hzero : value = 0 → exponent = 0) (hexponent : 0 ≤ exponent)
    (hpoint : (digits.length : ℤ) + exponent ≤ 16) :
    Denotes ⟨negative, digits ++ List.replicate exponent.toNat '0', some ['0'], none⟩
      value exponent := by
  subst hdigits
  lift exponent to ℕ using hexponent
  rw [Int.toNat_natCast]
  refine ⟨⟨(isNumeral_digits value).append ?_, ?_, ?_, ?_⟩, ?_, ?_, rfl⟩
  · intro c hc
    rw [(List.mem_replicate.1 hc).2]
    decide
  · intro rest hleading
    cases hhead : Decimal.digits value with
    | nil => exact absurd hhead (Decimal.digits_ne_nil value)
    | cons c tail =>
      rw [hhead, List.cons_append] at hleading
      obtain ⟨rfl, hrest⟩ := List.cons.inj hleading
      obtain ⟨hvalue, rfl⟩ := Decimal.digits_head_zero hhead
      have hnone : exponent = 0 := by exact_mod_cast hzero hvalue
      rw [← hrest, hnone]
      rfl
  · intro fraction hfraction
    cases hfraction
    exact isNumeral_zero
  · intro sign power hpower
    cases hpower
  · rw [List.length_append, List.length_replicate]
    omega
  · have hparts : Decimal.ofDigits
        ((Decimal.digits value ++ List.replicate exponent '0') ++ ['0']) =
          value * 10 ^ (exponent + 1) := by
      rw [Decimal.ofDigits_append_singleton, Decimal.ofDigits_append, Decimal.ofDigits_zeros,
        Decimal.ofDigits_digits, List.length_replicate, Nat.pow_succ, ← Nat.mul_assoc]
      exact Nat.mul_comm 10 _
    refine amount_eq hparts ?_
    simp only [powerValue, fractionDigits, Option.getD_some, List.length_singleton]
    omega

/-- The point between the digits. -/
theorem denotes_pointed (hdigits : digits = Decimal.digits value)
    (hzero : value = 0 → exponent = 0) (hexponent : exponent < 0)
    (hleft : 0 < (digits.length : ℤ) + exponent) (hpoint : (digits.length : ℤ) + exponent ≤ 16) :
    Denotes ⟨negative, digits.take ((digits.length : ℤ) + exponent).toNat,
      some (digits.drop ((digits.length : ℤ) + exponent).toNat), none⟩ value exponent := by
  have hnumeral := isNumeral_digits value
  rw [← hdigits] at hnumeral
  generalize hplace : ((digits.length : ℤ) + exponent).toNat = place
  have hplace_pos : 0 < place := by omega
  have hplace_lt : place < digits.length := by omega
  refine ⟨⟨⟨?_, fun c hc => hnumeral.2 c (List.mem_of_mem_take hc)⟩, ?_, ?_, ?_⟩, ?_, ?_, rfl⟩
  · intro hnil
    rcases List.take_eq_nil_iff.1 hnil with hnone | hnone
    · omega
    · exact hnumeral.1 hnone
  · intro rest hleading
    have hhead : digits = '0' :: (rest ++ digits.drop place) := by
      rw [← List.cons_append, ← hleading, List.take_append_drop]
    have hvalue := (Decimal.digits_head_zero (hdigits ▸ hhead)).1
    rw [hzero hvalue] at hexponent
    exact absurd hexponent (lt_irrefl 0)
  · intro fraction hfraction
    cases hfraction
    refine ⟨?_, fun c hc => hnumeral.2 c (List.mem_of_mem_drop hc)⟩
    intro hnil
    rw [List.drop_eq_nil_iff] at hnil
    omega
  · intro sign power hpower
    cases hpower
  · rw [List.length_take]
    omega
  · have hparts : Decimal.ofDigits (digits.take place ++ digits.drop place) = value * 10 ^ 0 := by
      rw [List.take_append_drop, hdigits, Decimal.ofDigits_digits, Nat.pow_zero, Nat.mul_one]
    refine amount_eq hparts ?_
    simp only [powerValue, fractionDigits, Option.getD_some, List.length_drop]
    omega

/-- The point before the digits. -/
theorem denotes_small (hdigits : digits = Decimal.digits value)
    (hpoint : (digits.length : ℤ) + exponent ≤ 0) :
    Denotes ⟨negative, ['0'],
      some (List.replicate (-((digits.length : ℤ) + exponent)).toNat '0' ++ digits), none⟩
      value exponent := by
  have hnumeral := isNumeral_digits value
  rw [← hdigits] at hnumeral
  generalize hzeros : (-((digits.length : ℤ) + exponent)).toNat = zeros
  refine ⟨⟨isNumeral_zero, ?_, ?_, ?_⟩, show 1 ≤ 19 by decide, ?_, rfl⟩
  · intro rest hleading
    cases hleading
    rfl
  · intro fraction hfraction
    cases hfraction
    refine ⟨fun hnil => hnumeral.1 (List.append_eq_nil_iff.1 hnil).2, ?_⟩
    intro c hc
    rcases List.mem_append.1 hc with hc | hc
    · rw [(List.mem_replicate.1 hc).2]
      decide
    · exact hnumeral.2 c hc
  · intro sign power hpower
    cases hpower
  · have hparts : Decimal.ofDigits (['0'] ++ (List.replicate zeros '0' ++ digits)) =
        value * 10 ^ 0 := by
      rw [← List.append_assoc, Decimal.ofDigits_append, Decimal.ofDigits_append,
        Decimal.ofDigits_zeros, hdigits, Decimal.ofDigits_digits]
      simp [Decimal.ofDigits, Decimal.digitValue]
    refine amount_eq hparts ?_
    simp only [powerValue, fractionDigits, Option.getD_some, List.length_append,
      List.length_replicate]
    omega

theorem isNumeral_powerOf (exponent : ℤ) : IsNumeral (powerOf exponent).2 := isNumeral_digits _

/-- One digit and a power of ten. -/
theorem denotes_digit {digit : Char} (hdigits : [digit] = Decimal.digits value) :
    Denotes ⟨negative, [digit], none, some (powerOf (([digit].length : ℤ) + exponent - 1))⟩
      value exponent := by
  have hnumeral := isNumeral_digits value
  rw [← hdigits] at hnumeral
  refine ⟨⟨hnumeral, ?_, ?_, ?_⟩, show 1 ≤ 19 by decide, ?_, rfl⟩
  · intro rest hleading
    cases hleading
    rfl
  · intro fraction hfraction
    cases hfraction
  · intro sign power hpower
    cases hpower
    exact isNumeral_powerOf _
  · have hparts : Decimal.ofDigits ([digit] ++ []) = value * 10 ^ 0 := by
      rw [List.append_nil, hdigits, Decimal.ofDigits_digits, Nat.pow_zero, Nat.mul_one]
    refine amount_eq hparts ?_
    simp only [powerValue_powerOf, fractionDigits, Option.getD_none, List.length_nil,
      List.length_singleton]
    omega

/-- One digit before the point, the others after it, and a power of ten. -/
theorem denotes_scientific {first next : Char} {rest : List Char}
    (hdigits : first :: next :: rest = Decimal.digits value) :
    Denotes ⟨negative, [first], some (next :: rest),
      some (powerOf (((first :: next :: rest).length : ℤ) + exponent - 1))⟩ value exponent := by
  have hnumeral := isNumeral_digits value
  rw [← hdigits] at hnumeral
  refine ⟨⟨⟨List.cons_ne_nil _ _, ?_⟩, ?_, ?_, ?_⟩, show 1 ≤ 19 by decide, ?_, rfl⟩
  · intro c hc
    rw [List.mem_singleton.1 hc]
    exact hnumeral.2 first List.mem_cons_self
  · intro tail hleading
    cases hleading
    rfl
  · intro fraction hfraction
    cases hfraction
    exact ⟨List.cons_ne_nil _ _, fun c hc => hnumeral.2 c (List.mem_cons_of_mem first hc)⟩
  · intro sign power hpower
    cases hpower
    exact isNumeral_powerOf _
  · have hparts : Decimal.ofDigits ([first] ++ next :: rest) = value * 10 ^ 0 := by
      rw [List.singleton_append, hdigits, Decimal.ofDigits_digits, Nat.pow_zero, Nat.mul_one]
    refine amount_eq hparts ?_
    simp only [powerValue_powerOf, fractionDigits, Option.getD_some, List.length_cons]
    omega

/-- Whatever form is chosen, it stands for the decimal. -/
theorem denotes_ofDecimal (hzero : value = 0 → exponent = 0) :
    (ofDecimal negative value exponent).Denotes value exponent := by
  simp only [ofDecimal]
  split
  · next hform => exact denotes_padded negative rfl hzero hform.1 hform.2
  · next hpadded =>
    split
    · next hform =>
      have hexponent : exponent < 0 := by omega
      exact denotes_pointed negative rfl hzero hexponent hform.1 hform.2
    · split
      · next hform => exact denotes_small negative rfl hform.2
      · generalize hdigits : Decimal.digits value = digits
        rcases digits with _ | ⟨first, _ | ⟨next, rest⟩⟩
        · exact absurd hdigits (Decimal.digits_ne_nil value)
        · exact denotes_digit negative hdigits.symm
        · exact denotes_scientific negative hdigits.symm

end Lexeme

namespace Binary64

/-! ## The shortest decimal -/

theorem nearest?_le {range : Interval} {step digits : ℕ}
    (hdigits : range.nearest? step = some digits) : digits * step ≤ range.high := by
  have hinside : ∀ candidate, range.contains candidate = true → candidate ≤ range.high := by
    intro candidate hcontains
    rw [Interval.contains] at hcontains
    split at hcontains
    · exact of_decide_eq_true (Bool.and_eq_true_iff.1 hcontains).2
    · exact (of_decide_eq_true (Bool.and_eq_true_iff.1 hcontains).2).le
  simp only [Interval.nearest?] at hdigits
  split at hdigits
  · next hlower hupper =>
    split at hdigits
    · cases hdigits
      exact hinside _ hlower
    · split at hdigits
      · cases hdigits
        exact hinside _ hupper
      · split at hdigits
        · cases hdigits
          exact hinside _ hlower
        · cases hdigits
          exact hinside _ hupper
  · next hlower hupper =>
    cases hdigits
    exact hinside _ hlower
  · next hlower hupper =>
    cases hdigits
    exact hinside _ hupper
  · cases hdigits

theorem search_le {range : Interval} (hvalue : range.value ≤ range.high) (power : ℕ) :
    ((range.search power).1 : ℚ) * 10 ^ (range.search power).2 ≤
      range.high * 10 ^ range.exponent := by
  have hunit : (0 : ℚ) < 10 ^ range.exponent := zpow_pos (by norm_num) _
  induction power with
  | zero => exact mul_le_mul_of_nonneg_right (Nat.cast_le.2 hvalue) hunit.le
  | succ power ih =>
    rw [Interval.search]
    split
    · next digits hdigits =>
      have hnearest : ((digits * tenTo (power + 1) : ℕ) : ℚ) ≤ range.high :=
        Nat.cast_le.2 (nearest?_le hdigits)
      rw [Nat.cast_mul, cast_tenTo] at hnearest
      rw [add_comm range.exponent, Lexeme.ten_zpow_add, zpow_natCast, ← mul_assoc]
      exact mul_le_mul_of_nonneg_right hnearest hunit.le
    · exact ih

/-- Zeros at the end only move the point. -/
theorem dropZeros_eq (digits : ℕ) (exponent : ℤ) :
    ((dropZeros digits exponent).1 : ℚ) * 10 ^ (dropZeros digits exponent).2 =
      digits * 10 ^ exponent := by
  fun_induction dropZeros digits exponent with
  | case1 exponent => simp
  | case2 digits exponent hpositive hzero ih =>
    have hten : digits = digits / 10 * 10 := by omega
    have hcast : (digits : ℚ) = (digits / 10 : ℕ) * 10 := by exact_mod_cast hten
    rw [ih, hcast, add_comm exponent, Lexeme.ten_zpow_add, zpow_one, mul_assoc]
  | case3 digits exponent hpositive hlast => rfl

theorem dropZeros_exponent {digits : ℕ} {exponent : ℤ}
    (hzero : (dropZeros digits exponent).1 = 0) : (dropZeros digits exponent).2 = 0 := by
  fun_induction dropZeros digits exponent with
  | case1 exponent => rfl
  | case2 digits exponent hpositive hten ih => exact ih hzero
  | case3 digits exponent hpositive hlast => exact absurd hzero hpositive

/-- The upper end of the interval lies half a unit above the number. -/
theorem interval_high (number : Binary64) :
    (number.interval.high : ℚ) * 10 ^ number.interval.exponent =
      (number.mantissa + 1 / 2) * 2 ^ number.exponent := by
  have hunit :
      ((twoTo (number.exponent - 2).toNat * fiveTo (-(number.exponent - 2)).toNat : ℕ) : ℚ) *
        10 ^ min (number.exponent - 2) 0 = 2 ^ (number.exponent - 2) := by
    generalize number.exponent - 2 = quarter
    simp only [twoTo, fiveTo, Nat.pow_eq]
    push_cast
    rcases le_total 0 quarter with hpositive | hnegative
    · lift quarter to ℕ using hpositive
      simp
    · obtain ⟨size, rfl⟩ : ∃ size : ℕ, quarter = -(size : ℤ) := ⟨(-quarter).toNat, by omega⟩
      have hten : (10 : ℚ) ^ size = 2 ^ size * 5 ^ size := by
        rw [← mul_pow]
        norm_num
      simp [hten]
  have hquarter : (2 : ℚ) ^ number.exponent = 4 * 2 ^ (number.exponent - 2) := by
    rw [zpow_sub₀ two_ne_zero]
    norm_num
    exact (mul_div_cancel₀ _ (by norm_num)).symm
  rw [hquarter, ← hunit]
  simp only [interval]
  push_cast
  ring

theorem shortest_le (number : Binary64) :
    (number.shortest.1 : ℚ) * 10 ^ number.shortest.2 ≤
      (number.mantissa + 1 / 2) * 2 ^ number.exponent := by
  have hvalue : number.interval.value ≤ number.interval.high :=
    Nat.mul_le_mul_right _ (Nat.le_add_right _ 2)
  rw [← interval_high, shortest, dropZeros_eq]
  exact search_le hvalue _

/-! ## The text of a number -/

/-- The decimal that is written for a number. -/
def decimal (number : Binary64) : ℕ × ℤ := if number.isZero then (0, 0) else number.shortest

/-- A number as it is written. -/
def lexeme (number : Binary64) : Lexeme :=
  Lexeme.ofDecimal number.negative number.decimal.1 number.decimal.2

theorem text_lexeme (number : Binary64) : number.lexeme.text = number.write := by
  have hparts : ∀ lexeme : Lexeme, lexeme.text =
      (if lexeme.negative then ['-'] else []) ++ (lexeme.whole ++
        (Lexeme.fractionText lexeme.fraction ++ Lexeme.powerText lexeme.power)) := by
    intro lexeme
    rw [Lexeme.text, Lexeme.unsignedText, List.append_assoc]
    split <;> rfl
  rw [hparts, lexeme, decimal, write]
  split
  · have hdigits : Decimal.digits 0 = ['0'] := by decide +kernel
    simp [Lexeme.ofDecimal, hdigits, Lexeme.fractionText, Lexeme.powerText]
  · generalize number.shortest = shortest
    obtain ⟨value, exponent⟩ := shortest
    simp only [Lexeme.ofDecimal]
    split
    · simp [Lexeme.fractionText, Lexeme.powerText]
    · split
      · simp [Lexeme.fractionText, Lexeme.powerText]
      · split
        · simp [Lexeme.fractionText, Lexeme.powerText]
        · generalize Decimal.digits value = digits
          rcases digits with _ | ⟨first, _ | ⟨next, rest⟩⟩
          · simp [Lexeme.fractionText, Lexeme.powerText]
          · simp [Lexeme.fractionText, Lexeme.powerText_powerOf]
          · simp [Lexeme.fractionText, Lexeme.powerText_powerOf]

theorem denotes_lexeme (number : Binary64) :
    number.lexeme.Denotes number.decimal.1 number.decimal.2 := by
  refine Lexeme.denotes_ofDecimal number.negative ?_
  rw [decimal]
  split
  · exact fun _ => rfl
  · exact dropZeros_exponent

theorem amount_lexeme_le (number : Binary64) :
    number.lexeme.amount ≤ (number.mantissa + 1 / 2) * 2 ^ number.exponent := by
  rw [(denotes_lexeme number).amount, decimal]
  split
  · have hunit : (0 : ℚ) < 2 ^ number.exponent := zpow_pos two_pos _
    have hmantissa : (0 : ℚ) ≤ number.mantissa + 1 / 2 := by positivity
    rw [Nat.cast_zero, zero_mul]
    exact mul_nonneg hmantissa hunit.le
  · exact shortest_le number

/-! ## Reading the text -/

/-- Half a unit above the number, and rounded up as far as reading may round, is below the bound,
except for the three greatest mantissas. -/
theorem half_unit_above_lt {number : Binary64} (hformat : number.InFormat)
    (htop : number.exponent < maxExponent ∨ number.mantissa + 3 < 2 ^ 53) :
    (number.mantissa + 1 / 2) * 2 ^ number.exponent * (roundingFactor * roundingFactor) <
      overflowBound := by
  have hunit : (0 : ℚ) < 2 ^ maxExponent := zpow_pos two_pos _
  have hsquare : 0 ≤ roundingFactor * roundingFactor :=
    mul_nonneg roundingFactor_pos.le roundingFactor_pos.le
  -- In units of the greatest power of two there is room for the two factors.
  obtain ⟨units, hunits, hroom⟩ : ∃ units : ℚ,
      (number.mantissa + 1 / 2) * 2 ^ number.exponent ≤ units * 2 ^ maxExponent ∧
        units * (roundingFactor * roundingFactor) < 2 ^ 53 - 1 / 2 := by
    rcases htop with hexponent | hmantissa
    · refine ⟨2 ^ 53 * 2⁻¹, ?_, by norm_num [roundingFactor]⟩
      have hhalf : (2 : ℚ) ^ number.exponent ≤ 2⁻¹ * 2 ^ maxExponent := by
        rw [mul_comm, ← zpow_sub_one₀ (two_ne_zero : (2 : ℚ) ≠ 0)]
        exact zpow_le_zpow_right₀ one_le_two (by omega)
      have hmantissa : (number.mantissa : ℚ) + 1 ≤ 2 ^ 53 := by exact_mod_cast hformat.mantissa
      rw [mul_assoc]
      exact mul_le_mul (by linarith) hhalf (zpow_pos two_pos _).le (by norm_num)
    · refine ⟨2 ^ 53 - 7 / 2, ?_, by norm_num [roundingFactor]⟩
      have hexponent : (2 : ℚ) ^ number.exponent ≤ 2 ^ maxExponent :=
        zpow_le_zpow_right₀ one_le_two hformat.greatest
      have hless : (number.mantissa : ℚ) + 4 ≤ 2 ^ 53 := by exact_mod_cast hmantissa
      exact mul_le_mul (by linarith) hexponent (zpow_pos two_pos _).le (by norm_num)
  calc (number.mantissa + 1 / 2) * 2 ^ number.exponent * (roundingFactor * roundingFactor)
      ≤ units * 2 ^ maxExponent * (roundingFactor * roundingFactor) :=
        mul_le_mul_of_nonneg_right hunits hsquare
    _ = units * (roundingFactor * roundingFactor) * 2 ^ maxExponent := by ring
    _ < overflowBound := mul_lt_mul_of_pos_right hroom hunit

/-- The decimals of the three greatest mantissas. -/
theorem shortest_top : ∀ below < 3,
    shortest ⟨false, 2 ^ 53 - 1 - below, maxExponent⟩ = (17976931348623157 - 2 * below, 292) := by
  decide +kernel

theorem toJson?_ofDecimal_top : ∀ negative : Bool, ∀ below < 3,
    (Lexeme.ofDecimal negative (17976931348623157 - 2 * below) 292).toJson?.isSome = true := by
  decide +kernel

/-- The sign has no part in the decimal. -/
theorem shortest_eq_unsigned (number : Binary64) :
    number.shortest = shortest ⟨false, number.mantissa, number.exponent⟩ := by
  have hinterval : number.interval = interval ⟨false, number.mantissa, number.exponent⟩ := rfl
  rw [shortest, shortest, hinterval]

theorem toJson?_lexeme_isSome_of_top {number : Binary64} (hmantissa : number.mantissa < 2 ^ 53)
    (hexponent : number.exponent = maxExponent) (htop : 2 ^ 53 ≤ number.mantissa + 3) :
    number.lexeme.toJson?.isSome = true := by
  generalize hbelow : 2 ^ 53 - 1 - number.mantissa = below
  have hless : below < 3 := by omega
  have hsame : number.mantissa = 2 ^ 53 - 1 - below := by omega
  have hnonzero : ¬ number.isZero = true := by
    rw [isZero, beq_iff_eq]
    omega
  rw [lexeme, decimal, if_neg hnonzero, shortest_eq_unsigned, hexponent, hsame,
    shortest_top below hless]
  exact toJson?_ofDecimal_top number.negative below hless

/-- Every number of the format is written as a text that can be read. -/
theorem toJson?_lexeme_isSome {number : Binary64} (hformat : number.InFormat) :
    number.lexeme.toJson?.isSome = true := by
  obtain ⟨hproper, hlength, _, hfloat⟩ := denotes_lexeme number
  by_cases htop : number.exponent < maxExponent ∨ number.mantissa + 3 < 2 ^ 53
  · rw [hfloat]
    refine Lexeme.toFloat?_isSome hproper.whole hlength (lt_of_le_of_lt ?_
      (half_unit_above_lt hformat htop))
    exact mul_le_mul_of_nonneg_right (amount_lexeme_le number)
      (mul_nonneg roundingFactor_pos.le roundingFactor_pos.le)
  · obtain ⟨hexponent, hmantissa⟩ := not_or.1 htop
    exact toJson?_lexeme_isSome_of_top hformat.mantissa
      (le_antisymm hformat.greatest (not_lt.1 hexponent)) (not_lt.1 hmantissa)

/-! ## What is read -/

theorem inFormat_ofNat (value : ℕ) : (ofNat value).InFormat := by
  rw [ofNat]
  cases hnumber : ofRatio false value 1 with
  | none =>
    exact ⟨Nat.two_pow_pos 53, le_refl minExponent, show minExponent ≤ maxExponent by decide⟩
  | some number => exact inFormat_of_ofRatio one_pos hnumber

theorem inFormat_of_mul? {left right number : Binary64} (hnumber : left.mul? right = some number) :
    number.InFormat := inFormat_of_ofRatio (twoTo_pos _) hnumber

theorem inFormat_of_div? {left right number : Binary64} (hright : 0 < right.magnitude)
    (hnumber : left.div? right = some number) : number.InFormat :=
  inFormat_of_ofRatio (Nat.mul_pos (mantissa_pos_of_magnitude_pos hright) (twoTo_pos _)) hnumber

theorem powerOfTen_pos {exponent : ℕ} (hexponent : exponent ≤ 308) :
    0 < (powerOfTen exponent).magnitude :=
  lt_of_lt_of_le (div_pos (pow_pos (by norm_num) exponent) two_pos)
    (le_magnitude_powerOfTen hexponent)

theorem inFormat_of_scale {number result : Binary64} {exponent : ℤ} (hformat : number.InFormat)
    (hresult : number.scale exponent = some result) : result.InFormat := by
  fun_induction scale number exponent with
  | case1 number exponent hzero =>
    cases hresult
    exact hformat
  | case2 number exponent hzero hlarge => cases hresult
  | case3 number exponent hzero hlarge hpositive => exact inFormat_of_mul? hresult
  | case4 number exponent hzero hlarge hpositive hsmall =>
    exact inFormat_of_div? (powerOfTen_pos (by omega)) hresult
  | case5 number exponent hzero hlarge hpositive hsmall smaller hsmaller ih =>
    exact ih (inFormat_of_div? (powerOfTen_pos (le_refl 308)) hsmaller) hresult
  | case6 number exponent hzero hlarge hpositive hsmall hnone => cases hresult

theorem inFormat_of_ofDecimal {negative : Bool} {digits : ℕ} {exponent : ℤ} {number : Binary64}
    (hnumber : ofDecimal negative digits exponent = some number) : number.InFormat := by
  obtain ⟨unsigned, hunsigned, rfl⟩ := Option.map_eq_some_iff.1 hnumber
  obtain ⟨hmantissa, hleast, hgreatest⟩ := inFormat_of_scale (inFormat_ofNat digits) hunsigned
  exact ⟨hmantissa, hleast, hgreatest⟩

end Binary64

namespace Lexeme

theorem inFormat_of_toFloat? {lexeme : Lexeme} {document : Json}
    (hdocument : lexeme.toFloat? = some document) :
    ∃ number : Binary64, document = .float number ∧ number.InFormat := by
  obtain ⟨number, hnumber, rfl⟩ := Option.map_eq_some_iff.1 hdocument
  exact ⟨number, rfl, Binary64.inFormat_of_ofDecimal hnumber⟩

/-- A number is read as an integer of 64 bits or as a number of the format. -/
theorem toJson?_cases {lexeme : Lexeme} {document : Json}
    (hdocument : lexeme.toJson? = some document) :
    (∃ value, document = .int value ∧ IntegerInRange value) ∨
      ∃ number : Binary64, document = .float number ∧ number.InFormat := by
  simp only [toJson?] at hdocument
  split at hdocument
  · split at hdocument
    · split at hdocument
      · next hfits =>
        cases hdocument
        refine .inl ⟨_, rfl, ?_⟩
        rw [IntegerInRange, minInteger, maxInteger]
        rw [halfWord] at hfits
        omega
      · exact .inr (inFormat_of_toFloat? hdocument)
    · split at hdocument
      · next hfits =>
        cases hdocument
        refine .inl ⟨_, rfl, ?_⟩
        rw [IntegerInRange, minInteger, maxInteger]
        rw [wordSize] at hfits
        omega
      · exact .inr (inFormat_of_toFloat? hdocument)
  · exact .inr (inFormat_of_toFloat? hdocument)

end Lexeme

end RecordGraph.Json
