import LogSieve.Text.Decimal

/-!
# Calendar time

Moments as microseconds since the beginning of 1970, and their written form in the Gregorian
calendar, extended in both directions.
-/

namespace LogSieve.Time

open LogSieve.Text

/-- A day of the Gregorian calendar. -/
structure Date where
  year : Int
  month : Nat
  day : Nat
deriving DecidableEq

/-- The date of a day counted from the first of January 1970. Years are counted from March, so that
a leap day ends one; a period of 400 years has 146097 days. -/
def Date.ofDays (days : Int) : Date :=
  let shifted := days + 719468
  let era := Int.fdiv shifted 146097
  let dayOfEra := (shifted - era * 146097).toNat
  let yearOfEra := (dayOfEra - dayOfEra / 1460 + dayOfEra / 36524 - dayOfEra / 146096) / 365
  let dayOfYear := dayOfEra - (365 * yearOfEra + yearOfEra / 4 - yearOfEra / 100)
  let shiftedMonth := (5 * dayOfYear + 2) / 153
  let day := dayOfYear - (153 * shiftedMonth + 2) / 5 + 1
  let month := if shiftedMonth < 10 then shiftedMonth + 3 else shiftedMonth - 9
  ⟨yearOfEra + era * 400 + (if month ≤ 2 then 1 else 0), month, day⟩

/-- The digits of a number, filled up with zeros to a width. -/
def padded (width value : Nat) : List Char :=
  let digits := digitsOf value
  List.replicate (width - digits.length) '0' ++ digits

/-- A year: four digits, and a sign outside of 0 to 9999. -/
def yearChars (year : Int) : List Char :=
  if 0 ≤ year ∧ year ≤ 9999 then padded 4 year.toNat
  else (if year < 0 then '-' else '+') :: padded 4 year.natAbs

/-- The fraction of a second: none, three digits or six, as few as show all microseconds. -/
def fractionChars (micros : Nat) : List Char :=
  if micros = 0 then []
  else if micros % 1000 = 0 then '.' :: padded 3 (micros / 1000)
  else '.' :: padded 6 micros

/-- The first and the last year that have a written form. -/
def firstYear : Int := -262143
/-- See `firstYear`. -/
def lastYear : Int := 262142

/-- The written form of a moment, unless its year is out of range. -/
def format? (micros : Int) : Option String :=
  let seconds := Int.fdiv micros 1000000
  let fraction := (micros - seconds * 1000000).toNat
  let days := Int.fdiv seconds 86400
  let ofDay := (seconds - days * 86400).toNat
  let date := Date.ofDays days
  if firstYear ≤ date.year ∧ date.year ≤ lastYear then
    some (String.ofList
      (yearChars date.year ++ '-' :: padded 2 date.month ++ '-' :: padded 2 date.day ++
        'T' :: padded 2 (ofDay / 3600) ++ ':' :: padded 2 (ofDay / 60 % 60) ++
        ':' :: padded 2 (ofDay % 60) ++ fractionChars fraction ++ "+00:00".toList))
  else none

end LogSieve.Time
