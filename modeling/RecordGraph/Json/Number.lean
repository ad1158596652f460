import RecordGraph.Json.Basic
import RecordGraph.Text.Decimal

/-!
# Written numbers

The text of a number has a sign, whole digits, a fraction and a power of ten.  Without fraction and
power it is an integer where it fits in 64 bits.  Otherwise its leading digits, as many as fit in 64
bits, make the significand of a floating-point number, and further ones only move the point.
-/

namespace RecordGraph.Json

/-- A number as it is written. -/
structure Lexeme where
  negative : Bool
  whole : List Char
  fraction : Option (List Char)
  /-- The sign of the power of ten, `true` for minus, and its digits. -/
  power : Option (Bool × List Char)
deriving DecidableEq, Repr, Inhabited

namespace Lexeme

/-- Split a text after its leading digits. -/
def spanDigits (cs : List Char) : List Char × List Char :=
  (cs.takeWhile Char.isDigit, cs.dropWhile Char.isDigit)

def scanFraction : List Char → Option (Option (List Char) × List Char)
  | '.' :: rest =>
    match spanDigits rest with
    | ([], _) => none
    | (digits, after) => some (some digits, after)
  | rest => some (none, rest)

def scanPowerDigits (negative : Bool) (cs : List Char) :
    Option (Option (Bool × List Char) × List Char) :=
  match spanDigits cs with
  | ([], _) => none
  | (digits, after) => some (some (negative, digits), after)

def scanPower : List Char → Option (Option (Bool × List Char) × List Char)
  | c :: rest =>
    if c = 'e' ∨ c = 'E' then
      match rest with
      | '-' :: rest => scanPowerDigits true rest
      | '+' :: rest => scanPowerDigits false rest
      | rest => scanPowerDigits false rest
    else some (none, c :: rest)
  | [] => some (none, [])

/-- Read the part of a number after its sign.  Zero is the only whole part that starts with `0`. -/
def scanUnsigned (negative : Bool) (cs : List Char) : Option (Lexeme × List Char) :=
  match spanDigits cs with
  | ([], _) => none
  | ('0' :: _ :: _, _) => none
  | (whole, rest) =>
    match scanFraction rest with
    | none => none
    | some (fraction, rest) =>
      match scanPower rest with
      | none => none
      | some (power, rest) => some (⟨negative, whole, fraction, power⟩, rest)

def scan : List Char → Option (Lexeme × List Char)
  | '-' :: rest => scanUnsigned true rest
  | rest => scanUnsigned false rest

/-- How many values a word of 64 bits has. -/
def wordSize : Nat := 18446744073709551616

/-- How many negative values a word of 64 bits has. -/
def halfWord : Nat := 9223372036854775808

/-- The digits that fit behind a significand of 64 bits: the new significand and those left. -/
def absorb (significand : Nat) : List Char → Nat × List Char
  | [] => (significand, [])
  | c :: rest =>
    let grown := 10 * significand + Decimal.digitValue c
    if grown < wordSize then absorb grown rest else (significand, c :: rest)

def powerValue : Option (Bool × List Char) → Int
  | none => 0
  | some (true, digits) => -(Decimal.ofDigits digits : Int)
  | some (false, digits) => Decimal.ofDigits digits

def toFloat? (lexeme : Lexeme) : Option Json :=
  let (significand, wholeLeft) := absorb 0 lexeme.whole
  let fraction := lexeme.fraction.getD []
  let (significand, fractionLeft) := absorb significand fraction
  let places : Int := (fraction.length : Int) - (fractionLeft.length : Int)
  let power := powerValue lexeme.power + (wholeLeft.length : Int) - places
  (Binary64.ofDecimal lexeme.negative significand power).map .float

/-- The number that a text stands for; none where it is beyond the floating-point numbers.  A zero
with a minus sign is a floating-point zero. -/
def toJson? (lexeme : Lexeme) : Option Json :=
  match lexeme.fraction, lexeme.power with
  | none, none =>
    let value := Decimal.ofDigits lexeme.whole
    if lexeme.negative then
      if 0 < value ∧ value ≤ halfWord then some (.int (-(value : Int))) else lexeme.toFloat?
    else if value < wordSize then some (.int value)
    else lexeme.toFloat?
  | _, _ => lexeme.toFloat?

/-- The integer that a text stands for, if it is written as one of the signed 64-bit range. -/
def toId? (lexeme : Lexeme) : Option Int :=
  match lexeme.toJson? with
  | some (.int value) => if Decimal.InRange value then some value else none
  | _ => none

end Lexeme

end RecordGraph.Json
