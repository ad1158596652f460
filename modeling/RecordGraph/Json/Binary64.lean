/-!
# Binary floating-point numbers

A finite number of the IEEE 754 format `binary64` is a sign, a mantissa below `2 ^ 53` and a power
of two.  Products and quotients are rounded to the nearest such number, a tie going to the even
mantissa.  All arithmetic is on natural numbers, so that it is exact and can be reasoned about.
-/

namespace RecordGraph.Json

/-- A finite number `mantissa * 2 ^ exponent`, negated when `negative`.  The exponent is as small
as the format allows, so that every number has one form, but zero has two signs. -/
structure Binary64 where
  negative : Bool
  mantissa : Nat
  exponent : Int
deriving DecidableEq, Repr, Inhabited

namespace Binary64

def twoTo (exponent : Nat) : Nat := Nat.pow 2 exponent

def fiveTo (exponent : Nat) : Nat := Nat.pow 5 exponent

def tenTo (exponent : Nat) : Nat := Nat.pow 10 exponent

def minExponent : Int := -1074

def maxExponent : Int := 971

def zero : Binary64 := ⟨false, 0, minExponent⟩

def isZero (value : Binary64) : Bool := value.mantissa == 0

/-- The nearest integer to a quotient; a tie goes to the even one. -/
def divideEven (numerator denominator : Nat) : Nat :=
  let quotient := numerator / denominator
  let twice := 2 * (numerator % denominator)
  if twice < denominator then quotient
  else if denominator < twice then quotient + 1
  else if quotient % 2 == 0 then quotient
  else quotient + 1

/-- Whether `2 ^ power` is at most the quotient of two numbers. -/
def powerFits (numerator denominator : Nat) (power : Int) : Bool :=
  decide (denominator * twoTo power.toNat ≤ numerator * twoTo (-power).toNat)

/-- The greatest power of two that is at most the quotient of two positive numbers. -/
def floorLog (numerator denominator : Nat) : Int :=
  let guess := (Nat.log2 numerator : Int) - (Nat.log2 denominator : Int)
  if powerFits numerator denominator guess then guess else guess - 1

/-- The number nearest to a quotient of natural numbers; `none` beyond the greatest one. -/
def ofRatio (negative : Bool) (numerator denominator : Nat) : Option Binary64 :=
  if numerator = 0 then some ⟨negative, 0, minExponent⟩
  else
    let exponent := max (floorLog numerator denominator - 52) minExponent
    let mantissa :=
      divideEven (numerator * twoTo (-exponent).toNat) (denominator * twoTo exponent.toNat)
    let normal : Binary64 :=
      if mantissa = twoTo 53 then ⟨negative, twoTo 52, exponent + 1⟩
      else ⟨negative, mantissa, exponent⟩
    if normal.exponent ≤ maxExponent then some normal else none

/-- The number nearest to a natural number below `2 ^ 1024`. -/
def ofNat (value : Nat) : Binary64 := (ofRatio false value 1).getD zero

def mul? (left right : Binary64) : Option Binary64 :=
  let exponent := left.exponent + right.exponent
  ofRatio (left.negative != right.negative)
    (left.mantissa * right.mantissa * twoTo exponent.toNat) (twoTo (-exponent).toNat)

def div? (left right : Binary64) : Option Binary64 :=
  let exponent := left.exponent - right.exponent
  ofRatio (left.negative != right.negative)
    (left.mantissa * twoTo exponent.toNat) (right.mantissa * twoTo (-exponent).toNat)

/-- The number nearest to a power of ten with an exponent of at most 308. -/
def powerOfTen (exponent : Nat) : Binary64 := ofNat (tenTo exponent)

/-- Multiply by a power of ten, step by step: one product or quotient with a rounded power up to
`10 ^ 308`, after quotients with `10 ^ 308` while the exponent is below that. -/
def scale (value : Binary64) (exponent : Int) : Option Binary64 :=
  if value.isZero then some value
  else if 308 < exponent then none
  else if 0 ≤ exponent then value.mul? (powerOfTen exponent.toNat)
  else if -308 ≤ exponent then value.div? (powerOfTen (-exponent).toNat)
  else
    match value.div? (powerOfTen 308) with
    | some smaller => smaller.scale (exponent + 308)
    | none => none
termination_by (-exponent).toNat
decreasing_by omega

/-- The number read from decimal digits and a power of ten.  Reading rounds once for the digits and
once for each step of scaling, and it refuses what is beyond the greatest number. -/
def ofDecimal (negative : Bool) (digits : Nat) (exponent : Int) : Option Binary64 :=
  ((ofNat digits).scale exponent).map (fun value => { value with negative := negative })

end Binary64

end RecordGraph.Json
