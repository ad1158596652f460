import RecordGraph.Text.Decimal

/-!
# Points in time

Times are counted in microseconds from the start of 1970 in UTC.  They are shown in the Gregorian
calendar, which is carried on into the past and the future.
-/

namespace RecordGraph

/-- A time that the calendar shows. -/
structure Timestamp where
  micros : Int
deriving DecidableEq, Repr, Inhabited

namespace Timestamp

/-- The start of the year -262143. -/
def earliest : Int := -8334601228800000000

/-- The last microsecond of the year 262142. -/
def latest : Int := 8210266876799999999

def ofMicros? (micros : Int) : Option Timestamp :=
  if earliest ≤ micros ∧ micros ≤ latest then some ⟨micros⟩ else none

structure Date where
  year : Int
  month : Nat
  day : Nat
deriving DecidableEq, Repr

/-- The date of a day, counted from the first of January 1970.  Years are taken to start in March,
so that a leap day is the last day of its year, and are grouped in cycles of 400. -/
def dateOfDay (day : Int) : Date :=
  let shifted := day + 719468
  let cycle := shifted / 146097
  let dayOfCycle := (shifted % 146097).toNat
  let yearOfCycle :=
    (dayOfCycle - dayOfCycle / 1460 + dayOfCycle / 36524 - dayOfCycle / 146096) / 365
  let dayOfYear := dayOfCycle - (365 * yearOfCycle + yearOfCycle / 4 - yearOfCycle / 100)
  let marchMonth := (5 * dayOfYear + 2) / 153
  let dayOfMonth := dayOfYear - (153 * marchMonth + 2) / 5 + 1
  let month := if marchMonth < 10 then marchMonth + 3 else marchMonth - 9
  let year := 400 * cycle + yearOfCycle + (if month ≤ 2 then 1 else 0)
  ⟨year, month, dayOfMonth⟩

/-- Digits with zeros in front up to a width. -/
def padded (width value : Nat) : List Char :=
  let digits := Decimal.digits value
  List.replicate (width - digits.length) '0' ++ digits

/-- Four digits, and a sign for years that do not fit in them. -/
def yearText (year : Int) : List Char :=
  if year < 0 then '-' :: padded 4 year.natAbs
  else if 9999 < year then '+' :: padded 4 year.natAbs
  else padded 4 year.natAbs

def date (time : Timestamp) : Date := dateOfDay (time.micros / 86400000000)

def microsOfDay (time : Timestamp) : Nat := (time.micros % 86400000000).toNat

def dateText (time : Timestamp) : List Char :=
  yearText time.date.year ++ '-' :: padded 2 time.date.month ++ '-' :: padded 2 time.date.day

def clockText (time : Timestamp) : List Char :=
  let seconds := time.microsOfDay / 1000000
  padded 2 (seconds / 3600) ++ ':' :: padded 2 (seconds / 60 % 60) ++ ':' :: padded 2 (seconds % 60)

/-- The fraction of a second: none, three digits or six. -/
def fractionText (time : Timestamp) : List Char :=
  let fraction := time.microsOfDay % 1000000
  if fraction = 0 then []
  else if fraction % 1000 = 0 then '.' :: padded 3 (fraction / 1000)
  else '.' :: padded 6 fraction

/-- The form of RFC 3339, such as `2024-02-29T08:30:00.250Z`. -/
def internetText (time : Timestamp) : String :=
  String.ofList (time.dateText ++ 'T' :: time.clockText ++ time.fractionText ++ ['Z'])

/-- The form for people, to the second, such as `2024-02-29 08:30:00`. -/
def plainText (time : Timestamp) : String :=
  String.ofList (time.dateText ++ ' ' :: time.clockText)

end Timestamp

end RecordGraph
