import LogSieve.Number.Double
import LogSieve.Text.Blank
import LogSieve.Text.Decimal
import LogSieve.Toml.Text
import LogSieve.Toml.Value

/-!
# TOML scalars

Values without quotes: truth values, integers, floats, moments.
-/

namespace LogSieve.Toml

open LogSieve.Text

/-- Digits with single underscores between them, without the underscores. -/
def digits? (isDigit : Char → Bool) (chars : List Char) : Option (List Char) :=
  let groups := splitAt '_' chars
  if groups.all fun group => !group.isEmpty && group.all isDigit then some groups.flatten else none

/-- Decimal digits without needless zeros in front. -/
def wholeDigits? (chars : List Char) : Option (List Char) := do
  let digits ← digits? Char.isDigit chars
  if 1 < digits.length ∧ digits.head? = some '0' then none else some digits

/-- The number given by digits of a base. -/
def numberOf (base : Nat) (digits : List Char) : Nat :=
  digits.foldl (fun value char => base * value + (hexValue? char).getD 0) 0

/-- The sign of a number and what follows. -/
def signed : List Char → Bool × List Char
  | '-' :: rest => (true, rest)
  | '+' :: rest => (false, rest)
  | chars => (false, chars)

/-- Reads an integer. Only decimal ones may have a sign. -/
def integer? (chars : List Char) : Option Int :=
  match chars with
  | '0' :: 'x' :: digits =>
      (digits? (fun char => (hexValue? char).isSome) digits).map (numberOf 16 ·)
  | '0' :: 'o' :: digits =>
      (digits? (fun char => '0' ≤ char && char ≤ '7') digits).map (numberOf 8 ·)
  | '0' :: 'b' :: digits =>
      (digits? (fun char => char == '0' || char == '1') digits).map (numberOf 2 ·)
  | _ =>
      let (negative, digits) := signed chars
      (wholeDigits? digits).map fun digits =>
        if negative then -(numberOf 10 digits : Int) else (numberOf 10 digits : Int)

/-- Whether a character begins an exponent. -/
def isExponentMark (char : Char) : Bool := char == 'e' || char == 'E'

/-- Reads a float: whether a double can hold it. -/
def float? (chars : List Char) : Option Bool := do
  let (_, chars) := signed chars
  if chars = "inf".toList ∨ chars = "nan".toList then some true
  else
    let mantissa := chars.takeWhile (!isExponentMark ·)
    let exponent ← match chars.dropWhile (!isExponentMark ·) with
      | [] => some none
      | _ :: rest =>
          let (negative, digits) := signed rest
          (digits? Char.isDigit digits).map fun digits =>
            some (if negative then -(numberOf 10 digits : Int) else (numberOf 10 digits : Int))
    let whole ← wholeDigits? (mantissa.takeWhile (· != '.'))
    let fraction ← match mantissa.dropWhile (· != '.') with
      | [] => if exponent.isSome then some [] else none
      | _ :: rest => digits? Char.isDigit rest
    some (Number.isFiniteDecimal (numberOf 10 (whole ++ fraction))
      (exponent.getD 0 - fraction.length))

/-- Reads a number of a fixed count of decimal digits. -/
def fixedNumber? (count : Nat) (chars : List Char) : Option (Nat × List Char) :=
  let digits := chars.take count
  if digits.length = count ∧ digits.all Char.isDigit then
    some (numberOf 10 digits, chars.drop count)
  else none

/-- What follows a given character. -/
def after? (mark : Char) : List Char → Option (List Char)
  | char :: rest => if char = mark then some rest else none
  | [] => none

/-- The number of days of a month. -/
def daysIn (year month : Nat) : Nat :=
  if month = 2 then
    if (year % 4 = 0 ∧ year % 100 ≠ 0) ∨ year % 400 = 0 then 29 else 28
  else if [4, 6, 9, 11].contains month then 30
  else 31

/-- Reads a date; what follows is the result. -/
def afterDate? (chars : List Char) : Option (List Char) := do
  let (year, rest) ← fixedNumber? 4 chars
  let (month, rest) ← fixedNumber? 2 (← after? '-' rest)
  let (day, rest) ← fixedNumber? 2 (← after? '-' rest)
  if 1 ≤ month ∧ month ≤ 12 ∧ 1 ≤ day ∧ day ≤ daysIn year month then some rest else none

/-- Reads the fraction of a second, if there is one. -/
def afterFraction? : List Char → Option (List Char)
  | '.' :: rest =>
      if (rest.takeWhile Char.isDigit).isEmpty then none else some (rest.dropWhile Char.isDigit)
  | rest => some rest

/-- Reads a time of day, seconds or not; what follows is the result. -/
def afterTime? (chars : List Char) : Option (List Char) := do
  let (hour, rest) ← fixedNumber? 2 chars
  let (minute, rest) ← fixedNumber? 2 (← after? ':' rest)
  if 23 < hour ∨ 59 < minute then none
  else
    match rest with
    | ':' :: rest => do
        let (second, rest) ← fixedNumber? 2 rest
        if 60 < second then none else afterFraction? rest
    | rest => some rest

/-- Whether a text is a distance from universal time, or nothing. -/
def isOffset : List Char → Bool
  | [] | ['Z'] | ['z'] => true
  | mark :: rest =>
      (mark == '+' || mark == '-') && ((do
        let (hour, rest) ← fixedNumber? 2 rest
        let (minute, rest) ← fixedNumber? 2 (← after? ':' rest)
        some (hour ≤ 23 && minute ≤ 59 && rest.isEmpty)).getD false)

/-- Whether a text is a date alone. -/
def isDate (chars : List Char) : Bool := (afterDate? chars).any List.isEmpty

/-- Whether a text is a moment, a date or a time. -/
def isMoment (chars : List Char) : Bool :=
  match afterDate? chars with
  | some [] => true
  | some (mark :: rest) =>
      (mark == 'T' || mark == 't' || mark == ' ') && (afterTime? rest).any isOffset
  | none => (afterTime? chars).any List.isEmpty

/-- Reads a value without quotes. -/
def scalar? (chars : List Char) : Option Value :=
  if chars = "true".toList then some (.bool true)
  else if chars = "false".toList then some (.bool false)
  else if isMoment chars then some .moment
  else
    match integer? chars with
    | some value => some (.integer value)
    | none => (float? chars).map .float

end LogSieve.Toml
