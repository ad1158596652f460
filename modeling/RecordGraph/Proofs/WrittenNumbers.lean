import Mathlib.Algebra.Order.Ring.Nat
import RecordGraph.Json.Number

/-!
# Numbers as they are written

The text of a number is put together from its parts: a sign, whole digits, a fraction and a power of
ten.  Reading a text finds these parts again, whatever follows the number, as long as that cannot be
taken for more of it.
-/

namespace RecordGraph.Decimal

/-! ## Digits -/

theorem digitChar_eq_zero {digit : Nat} (hdigit : digit < 10) (hzero : digitChar digit = '0') :
    digit = 0 := by
  have hall : ∀ digit, digit < 10 → digitChar digit = '0' → digit = 0 := by decide
  exact hall digit hdigit hzero

/-- The digits of a number start with `0` only where the number is zero. -/
theorem digits_head_zero {value : Nat} {rest : List Char} (hdigits : digits value = '0' :: rest) :
    value = 0 ∧ rest = [] := by
  fun_induction digits value generalizing rest with
  | case1 value hsmall =>
    obtain ⟨hzero, hrest⟩ := List.cons.inj hdigits
    exact ⟨digitChar_eq_zero hsmall hzero, hrest.symm⟩
  | case2 value hlarge ih =>
    cases hhead : digits (value / 10) with
    | nil => exact absurd hhead (digits_ne_nil _)
    | cons c tail =>
      rw [hhead, List.cons_append] at hdigits
      obtain ⟨rfl, _⟩ := List.cons.inj hdigits
      have hzero := (ih hhead).1
      omega

/-- Digits behind a number move it up by as many places. -/
theorem foldl_digits (value : Nat) (cs : List Char) :
    cs.foldl (fun value c => 10 * value + digitValue c) value =
      value * 10 ^ cs.length + ofDigits cs := by
  induction cs generalizing value with
  | nil => simp [ofDigits]
  | cons c rest ih =>
    have htail := ih (10 * 0 + digitValue c)
    rw [ofDigits, List.foldl_cons, List.foldl_cons, ih, htail, List.length_cons, Nat.pow_succ]
    simp only [Nat.mul_zero, Nat.zero_add, Nat.add_mul]
    rw [Nat.add_assoc, Nat.mul_comm 10 value, Nat.mul_assoc, Nat.mul_comm 10]

theorem ofDigits_append (left right : List Char) :
    ofDigits (left ++ right) = ofDigits left * 10 ^ right.length + ofDigits right := by
  rw [ofDigits, List.foldl_append, foldl_digits]
  rfl

theorem ofDigits_cons (c : Char) (rest : List Char) :
    ofDigits (c :: rest) = digitValue c * 10 ^ rest.length + ofDigits rest := by
  have hone : ofDigits [c] = digitValue c := by simp [ofDigits]
  rw [← List.singleton_append, ofDigits_append, hone]

@[simp]
theorem ofDigits_zeros (count : Nat) : ofDigits (List.replicate count '0') = 0 := by
  induction count with
  | zero => rfl
  | succ count ih =>
    have hzero : digitValue '0' = 0 := rfl
    rw [List.replicate_succ, ofDigits_cons, hzero, ih, Nat.zero_mul]

theorem digitValue_lt {c : Char} (hdigit : c.isDigit = true) : digitValue c < 10 := by
  simp only [Char.isDigit, Bool.and_eq_true, decide_eq_true_eq] at hdigit
  have hlast : c.toNat ≤ 57 := UInt32.le_iff_toNat_le.1 hdigit.2
  rw [digitValue]
  omega

theorem ofDigits_lt {cs : List Char} (hdigits : ∀ c ∈ cs, c.isDigit = true) :
    ofDigits cs < 10 ^ cs.length := by
  induction cs with
  | nil => exact Nat.one_pos
  | cons c rest ih =>
    have hhead := digitValue_lt (hdigits c (by simp))
    have htail := ih fun other hother => hdigits other (List.mem_cons_of_mem c hother)
    rw [ofDigits_cons, List.length_cons, Nat.pow_succ]
    calc digitValue c * 10 ^ rest.length + ofDigits rest
        < digitValue c * 10 ^ rest.length + 10 ^ rest.length := Nat.add_lt_add_left htail _
      _ = (digitValue c + 1) * 10 ^ rest.length := by rw [Nat.add_mul, Nat.one_mul]
      _ ≤ 10 * 10 ^ rest.length := Nat.mul_le_mul_right _ hhead
      _ = 10 ^ rest.length * 10 := Nat.mul_comm _ _

end RecordGraph.Decimal

namespace RecordGraph.Json

/-- A text that does not go on with a number that stands before it. -/
def EndsNumber (rest : List Char) : Prop :=
  ∀ c after, rest = c :: after → c.isDigit = false ∧ c ≠ '.' ∧ c ≠ 'e' ∧ c ≠ 'E'

theorem endsNumber_nil : EndsNumber [] := by
  intro c after hrest
  cases hrest

theorem endsNumber_cons {c : Char} (rest : List Char)
    (hc : c.isDigit = false ∧ c ≠ '.' ∧ c ≠ 'e' ∧ c ≠ 'E') : EndsNumber (c :: rest) := by
  intro head after hrest
  cases hrest
  exact hc

namespace Lexeme

/-! ## Parts and text -/

/-- The digits of the power of ten with their sign, which is written for both signs. -/
def powerText : Option (Bool × List Char) → List Char
  | none => []
  | some (true, digits) => 'e' :: '-' :: digits
  | some (false, digits) => 'e' :: '+' :: digits

def fractionText : Option (List Char) → List Char
  | none => []
  | some digits => '.' :: digits

/-- The text of a number after its sign. -/
def unsignedText (lexeme : Lexeme) : List Char :=
  lexeme.whole ++ fractionText lexeme.fraction ++ powerText lexeme.power

def text (lexeme : Lexeme) : List Char :=
  if lexeme.negative then '-' :: lexeme.unsignedText else lexeme.unsignedText

/-- One or more digits. -/
def IsNumeral (cs : List Char) : Prop := cs ≠ [] ∧ ∀ c ∈ cs, c.isDigit = true

/-- The parts of a number that may be written: each is a numeral where it is there, and the whole
part starts with `0` only where it is `0`. -/
structure Proper (lexeme : Lexeme) : Prop where
  whole : IsNumeral lexeme.whole
  leading : ∀ rest, lexeme.whole = '0' :: rest → rest = []
  fraction : ∀ digits, lexeme.fraction = some digits → IsNumeral digits
  power : ∀ sign digits, lexeme.power = some (sign, digits) → IsNumeral digits

theorem IsNumeral.append {left right : List Char} (hleft : IsNumeral left)
    (hright : ∀ c ∈ right, c.isDigit = true) : IsNumeral (left ++ right) := by
  refine ⟨fun hnil => hleft.1 (List.append_eq_nil_iff.1 hnil).1, ?_⟩
  intro c hc
  rcases List.mem_append.1 hc with hc | hc
  · exact hleft.2 c hc
  · exact hright c hc

theorem isNumeral_zero : IsNumeral ['0'] :=
  ⟨List.cons_ne_nil _ _, List.forall_mem_singleton.2 rfl⟩

theorem isNumeral_digits (value : Nat) : IsNumeral (Decimal.digits value) :=
  ⟨Decimal.digits_ne_nil value, fun _ => Decimal.isDigit_of_mem_digits⟩

/-! ## Finding the parts -/

theorem spanDigits_append {digits rest : List Char} (hdigits : ∀ c ∈ digits, c.isDigit = true)
    (hrest : ∀ c after, rest = c :: after → c.isDigit = false) :
    spanDigits (digits ++ rest) = (digits, rest) := by
  have hstop : rest.takeWhile Char.isDigit = [] ∧ rest.dropWhile Char.isDigit = rest := by
    cases rest with
    | nil => exact ⟨rfl, rfl⟩
    | cons c after => simp [hrest c after rfl]
  rw [spanDigits, List.takeWhile_append_of_pos hdigits, List.dropWhile_append_of_pos hdigits,
    hstop.1, hstop.2, List.append_nil]

theorem scanPowerDigits_append {digits rest : List Char} (sign : Bool) (hdigits : IsNumeral digits)
    (hrest : EndsNumber rest) :
    scanPowerDigits sign (digits ++ rest) = some (some (sign, digits), rest) := by
  rw [scanPowerDigits, spanDigits_append hdigits.2 fun c after hc => (hrest c after hc).1]
  cases digits with
  | nil => exact absurd rfl hdigits.1
  | cons c digits => rfl

theorem scanPower_append {power : Option (Bool × List Char)} {rest : List Char}
    (hpower : ∀ sign digits, power = some (sign, digits) → IsNumeral digits)
    (hrest : EndsNumber rest) : scanPower (powerText power ++ rest) = some (power, rest) := by
  cases power with
  | none =>
    cases rest with
    | nil => rfl
    | cons c after =>
      obtain ⟨_, _, hlower, hupper⟩ := hrest c after rfl
      simp [powerText, scanPower, hlower, hupper]
  | some power =>
    obtain ⟨sign, digits⟩ := power
    have hdigits := scanPowerDigits_append sign (hpower sign digits rfl) hrest
    cases sign with
    | true => simpa [powerText, scanPower] using hdigits
    | false => simpa [powerText, scanPower] using hdigits

/-- A power of ten, or what follows a number, is no fraction. -/
theorem powerText_head (power : Option (Bool × List Char)) {rest : List Char}
    (hrest : EndsNumber rest) {c : Char} {after : List Char}
    (htext : powerText power ++ rest = c :: after) : c.isDigit = false ∧ c ≠ '.' := by
  cases power with
  | none =>
    obtain ⟨hdigit, hpoint, _⟩ := hrest c after htext
    exact ⟨hdigit, hpoint⟩
  | some power =>
    obtain ⟨sign, digits⟩ := power
    cases sign with
    | true =>
      cases htext
      decide
    | false =>
      cases htext
      decide

theorem scanFraction_append {fraction : Option (List Char)} {power : Option (Bool × List Char)}
    {rest : List Char} (hfraction : ∀ digits, fraction = some digits → IsNumeral digits)
    (hrest : EndsNumber rest) :
    scanFraction (fractionText fraction ++ (powerText power ++ rest)) =
      some (fraction, powerText power ++ rest) := by
  cases fraction with
  | none =>
    simp only [fractionText, List.nil_append]
    cases htext : powerText power ++ rest with
    | nil => rfl
    | cons c after =>
      have hpoint := (powerText_head power hrest htext).2
      rw [scanFraction]
      intro tail htail
      cases htail
      exact hpoint rfl
  | some digits =>
    obtain ⟨hne, hdigits⟩ := hfraction digits rfl
    have hspan := spanDigits_append hdigits fun c after hc => (powerText_head power hrest hc).1
    rw [fractionText, List.cons_append, scanFraction, hspan]
    cases digits with
    | nil => exact absurd rfl hne
    | cons c digits => rfl

/-- After the whole digits there is no digit. -/
theorem fractionText_head (fraction : Option (List Char)) (power : Option (Bool × List Char))
    {rest : List Char} (hrest : EndsNumber rest) {c : Char} {after : List Char}
    (htext : fractionText fraction ++ (powerText power ++ rest) = c :: after) :
    c.isDigit = false := by
  cases fraction with
  | none => exact (powerText_head power hrest htext).1
  | some digits =>
    cases htext
    decide

theorem scanUnsigned_append {lexeme : Lexeme} (hproper : lexeme.Proper) {rest : List Char}
    (hrest : EndsNumber rest) :
    scanUnsigned lexeme.negative (lexeme.unsignedText ++ rest) = some (lexeme, rest) := by
  obtain ⟨negative, whole, fraction, power⟩ := lexeme
  have hspan : spanDigits (unsignedText ⟨negative, whole, fraction, power⟩ ++ rest) =
      (whole, fractionText fraction ++ (powerText power ++ rest)) := by
    rw [unsignedText, List.append_assoc, List.append_assoc]
    exact spanDigits_append hproper.whole.2 fun c after hc =>
      fractionText_head fraction power hrest hc
  rw [scanUnsigned, hspan]
  split
  · next hnil => exact absurd (congrArg Prod.fst hnil) hproper.whole.1
  · next hzero =>
    have hlong := hproper.leading _ (congrArg Prod.fst hzero)
    cases hlong
  · next hparts =>
    obtain ⟨rfl, rfl⟩ := Prod.mk.inj hparts
    rw [scanFraction_append hproper.fraction hrest]
    simp only [scanPower_append hproper.power hrest]

/-- Reading finds the parts of a number that was written. -/
theorem scan_append {lexeme : Lexeme} (hproper : lexeme.Proper) {rest : List Char}
    (hrest : EndsNumber rest) : scan (lexeme.text ++ rest) = some (lexeme, rest) := by
  have hscan := scanUnsigned_append hproper hrest
  cases hsign : lexeme.negative with
  | true =>
    rw [hsign] at hscan
    simpa [text, hsign, scan] using hscan
  | false =>
    rw [hsign] at hscan
    rw [text, hsign, if_neg (by simp)]
    -- A digit stands first, and no minus sign.
    obtain ⟨hne, hdigits⟩ := hproper.whole
    cases hwhole : lexeme.whole with
    | nil => exact absurd hwhole hne
    | cons c whole =>
      have hdigit := hdigits c (by simp [hwhole])
      rw [← hscan, unsignedText, hwhole, scan]
      intro tail htail
      cases htail
      exact absurd hdigit (by decide)

/-- A number starts with a digit or with a minus sign. -/
theorem text_head {lexeme : Lexeme} (hproper : lexeme.Proper) :
    ∃ c rest, lexeme.text = c :: rest ∧ (c.isDigit = true ∨ c = '-') := by
  rw [text]
  cases lexeme.negative with
  | true => exact ⟨'-', lexeme.unsignedText, rfl, .inr rfl⟩
  | false =>
    obtain ⟨hne, hdigits⟩ := hproper.whole
    cases hwhole : lexeme.whole with
    | nil => exact absurd hwhole hne
    | cons c whole =>
      refine ⟨c, whole ++ fractionText lexeme.fraction ++ powerText lexeme.power, ?_,
        .inl (hdigits c (by simp [hwhole]))⟩
      simp [unsignedText, hwhole]

/-! ## Integers -/

/-- An integer as it is written. -/
def ofInt : Int → Lexeme
  | .ofNat value => ⟨false, Decimal.digits value, none, none⟩
  | .negSucc value => ⟨true, Decimal.digits (value + 1), none, none⟩

@[simp]
theorem text_ofInt (value : Int) : (ofInt value).text = Decimal.write value := by
  cases value with
  | ofNat value => simp [ofInt, text, unsignedText, fractionText, powerText, Decimal.write]
  | negSucc value => simp [ofInt, text, unsignedText, fractionText, powerText, Decimal.write]

theorem proper_ofInt (value : Int) : (ofInt value).Proper := by
  have hnumeral : ∀ number : Nat, (⟨false, Decimal.digits number, none, none⟩ : Lexeme).Proper :=
    fun number => {
      whole := isNumeral_digits number
      leading := fun _ hzero => (Decimal.digits_head_zero hzero).2
      fraction := fun _ hfraction => by cases hfraction
      power := fun _ _ hpower => by cases hpower }
  cases value with
  | ofNat value => exact hnumeral value
  | negSucc value =>
    obtain ⟨hwhole, hleading, hfraction, hpower⟩ := hnumeral (value + 1)
    exact ⟨hwhole, hleading, hfraction, hpower⟩

/-- Integers of the 64-bit ranges are read as what they are. -/
theorem toJson?_ofInt {value : Int} (hrange : IntegerInRange value) :
    (ofInt value).toJson? = some (.int value) := by
  obtain ⟨hleast, hgreatest⟩ := hrange
  rw [minInteger] at hleast
  rw [maxInteger] at hgreatest
  cases value with
  | ofNat value =>
    have hfits : value < wordSize := by
      rw [Int.ofNat_eq_natCast] at hgreatest
      rw [wordSize]
      omega
    simp [ofInt, toJson?, hfits]
  | negSucc value =>
    have hfits : value + 1 ≤ halfWord := by
      rw [halfWord]
      omega
    simp [ofInt, toJson?, hfits, Int.negSucc_eq]

end Lexeme

end RecordGraph.Json
