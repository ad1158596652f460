/-!
# Integers in decimal

Ids and times are signed 64-bit integers.  They are held as `Int`; the range is checked where a
number is read from text.
-/

namespace RecordGraph.Decimal

def minId : Int := -9223372036854775808

def maxId : Int := 9223372036854775807

/-- The signed 64-bit range of ids and times. -/
def InRange (value : Int) : Prop := minId ≤ value ∧ value ≤ maxId

instance (value : Int) : Decidable (InRange value) :=
  inferInstanceAs (Decidable (_ ∧ _))

def digitChar (digit : Nat) : Char := Char.ofNat (48 + digit)

def digitValue (c : Char) : Nat := c.toNat - 48

/-- The decimal digits of a number, without leading zeros; zero is one digit. -/
def digits (value : Nat) : List Char :=
  if value < 10 then [digitChar value]
  else digits (value / 10) ++ [digitChar (value % 10)]
termination_by value
decreasing_by omega

/-- The number that a run of digits stands for. -/
def ofDigits (cs : List Char) : Nat :=
  cs.foldl (fun value c => 10 * value + digitValue c) 0

/-- The decimal text of an integer: digits, after a minus sign when it is negative. -/
def write : Int → List Char
  | .ofNat value => digits value
  | .negSucc value => '-' :: digits (value + 1)

def text (value : Int) : String := String.ofList (write value)

/-- One or more digits and nothing else. -/
def readNat? (cs : List Char) : Option Nat :=
  if cs ≠ [] ∧ cs.all Char.isDigit then some (ofDigits cs) else none

/-- An optional sign, then one or more digits. -/
def readInt? : List Char → Option Int
  | '-' :: rest => (readNat? rest).map (fun value => -(value : Int))
  | '+' :: rest => (readNat? rest).map Int.ofNat
  | cs => (readNat? cs).map Int.ofNat

/-- A signed integer of the 64-bit range; anything else is refused. -/
def read? (cs : List Char) : Option Int :=
  (readInt? cs).filter (fun value => decide (InRange value))

theorem digits_ne_nil (value : Nat) : digits value ≠ [] := by
  rw [digits]
  split <;> simp

@[simp]
theorem digitValue_digitChar {digit : Nat} (hdigit : digit < 10) :
    digitValue (digitChar digit) = digit := by
  have hall : ∀ digit, digit < 10 → digitValue (digitChar digit) = digit := by decide
  exact hall digit hdigit

@[simp]
theorem isDigit_digitChar {digit : Nat} (hdigit : digit < 10) :
    (digitChar digit).isDigit = true := by
  have hall : ∀ digit, digit < 10 → (digitChar digit).isDigit = true := by decide
  exact hall digit hdigit

theorem isDigit_of_mem_digits {value : Nat} {c : Char} (hmem : c ∈ digits value) :
    c.isDigit = true := by
  fun_induction digits value with
  | case1 value hsmall =>
    simp only [List.mem_singleton] at hmem
    simp [hmem, hsmall]
  | case2 value hlarge ih =>
    simp only [List.mem_append, List.mem_singleton] at hmem
    rcases hmem with hhead | rfl
    · exact ih hhead
    · exact isDigit_digitChar (by omega)

@[simp]
theorem ofDigits_append_singleton (cs : List Char) (c : Char) :
    ofDigits (cs ++ [c]) = 10 * ofDigits cs + digitValue c := by
  simp [ofDigits]

@[simp]
theorem ofDigits_digits (value : Nat) : ofDigits (digits value) = value := by
  fun_induction digits value with
  | case1 value hsmall => simp [ofDigits, hsmall]
  | case2 value hlarge ih =>
    rw [ofDigits_append_singleton, ih, digitValue_digitChar (by omega)]
    omega

@[simp]
theorem readNat?_digits (value : Nat) : readNat? (digits value) = some value := by
  have hall : (digits value).all Char.isDigit = true :=
    List.all_eq_true.2 fun _ hmem => isDigit_of_mem_digits hmem
  simp [readNat?, digits_ne_nil, hall]

theorem readInt?_digits (value : Nat) : readInt? (digits value) = some (value : Int) := by
  have hread := readNat?_digits value
  have hdigit : ∀ c ∈ digits value, c.isDigit = true := fun _ hmem => isDigit_of_mem_digits hmem
  unfold readInt?
  split
  · next rest heq => exact absurd (hdigit '-' (by simp [heq])) (by decide)
  · next rest heq => exact absurd (hdigit '+' (by simp [heq])) (by decide)
  · simp [hread]

/-- Reading undoes writing. -/
@[simp]
theorem readInt?_write (value : Int) : readInt? (write value) = some value := by
  cases value with
  | ofNat value => exact readInt?_digits value
  | negSucc value => simp [write, readInt?, Int.negSucc_eq]

theorem read?_write {value : Int} (hrange : InRange value) : read? (write value) = some value := by
  simp [read?, hrange]

end RecordGraph.Decimal
