import RecordGraph.Json.Binary64
import RecordGraph.Text.Decimal

/-!
# Shortest decimal text of a number

A number is written with the fewest digits that single it out among all numbers of the format; of
several candidates the nearest one, and of two equally near ones that with the even last digit.
-/

namespace RecordGraph.Json

namespace Binary64

/-- The decimals that round to a number, exactly: the value and the two ends of their interval, all
in units of one power of ten. -/
structure Interval where
  low : Nat
  value : Nat
  high : Nat
  closed : Bool
  exponent : Int
deriving Repr

/-- The halves of the gaps to the two neighbours bound the interval; below a power of two the gap
is half as wide.  The ends belong to it when the mantissa is even. -/
def interval (number : Binary64) : Interval :=
  let quarter := number.exponent - 2
  let unit := twoTo quarter.toNat * fiveTo (-quarter).toNat
  let below :=
    if number.mantissa == twoTo 52 && decide (minExponent < number.exponent) then 1 else 2
  { low := (4 * number.mantissa - below) * unit
    value := 4 * number.mantissa * unit
    high := (4 * number.mantissa + 2) * unit
    closed := number.mantissa % 2 == 0
    exponent := min quarter 0 }

def Interval.contains (range : Interval) (candidate : Nat) : Bool :=
  if range.closed then decide (range.low ≤ candidate) && decide (candidate ≤ range.high)
  else decide (range.low < candidate) && decide (candidate < range.high)

/-- The better of the two multiples of `step` around the value that lie in the interval. -/
def Interval.nearest? (range : Interval) (step : Nat) : Option Nat :=
  let quotient := range.value / step
  let lower := quotient * step
  let upper := (quotient + 1) * step
  let belowGap := range.value - lower
  let aboveGap := upper - range.value
  match range.contains lower, range.contains upper with
  | true, true =>
    if belowGap < aboveGap then some quotient
    else if aboveGap < belowGap then some (quotient + 1)
    else if quotient % 2 == 0 then some quotient
    else some (quotient + 1)
  | true, false => some quotient
  | false, true => some (quotient + 1)
  | false, false => none

/-- Try steps of falling powers of ten. -/
def Interval.search (range : Interval) : Nat → Nat × Int
  | 0 => (range.value, range.exponent)
  | power + 1 =>
    match range.nearest? (tenTo (power + 1)) with
    | some digits => (digits, range.exponent + (power + 1 : Nat))
    | none => range.search power

/-- Drop the zeros at the end of a positive number, counting them into the exponent. -/
def dropZeros (digits : Nat) (exponent : Int) : Nat × Int :=
  if digits = 0 then (0, 0)
  else if digits % 10 = 0 then dropZeros (digits / 10) (exponent + 1)
  else (digits, exponent)
termination_by digits
decreasing_by omega

/-- The digits and the power of ten of the shortest decimal. -/
def shortest (number : Binary64) : Nat × Int :=
  let range := number.interval
  let (digits, exponent) := range.search (Decimal.digits range.value).length
  dropZeros digits exponent

/-- An exponent with its sign, which is written for both signs. -/
def writeExponent (exponent : Int) : List Char :=
  if 0 ≤ exponent then 'e' :: '+' :: Decimal.write exponent else 'e' :: Decimal.write exponent

/-- The text of a number.  The point is written out where it falls within 16 digits or at most five
zeros before the digits; otherwise one digit stands before it and an exponent follows. -/
def write (number : Binary64) : List Char :=
  let sign := if number.negative then ['-'] else []
  if number.isZero then sign ++ ['0', '.', '0']
  else
    let (value, exponent) := number.shortest
    let digits := Decimal.digits value
    let point : Int := digits.length + exponent
    let body :=
      if 0 ≤ exponent ∧ point ≤ 16 then
        digits ++ List.replicate exponent.toNat '0' ++ ['.', '0']
      else if 0 < point ∧ point ≤ 16 then
        digits.take point.toNat ++ '.' :: digits.drop point.toNat
      else if -5 < point ∧ point ≤ 0 then
        '0' :: '.' :: List.replicate (-point).toNat '0' ++ digits
      else
        match digits with
        | [digit] => digit :: writeExponent (point - 1)
        | first :: rest => first :: '.' :: rest ++ writeExponent (point - 1)
        | [] => []
    sign ++ body

end Binary64

end RecordGraph.Json
