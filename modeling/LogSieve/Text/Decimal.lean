/-!
# Decimal integers

Integers written in decimal: their digits, and a strict reader that says what is wrong with a text.
-/

namespace LogSieve.Text

/-- The decimal digits of a natural number, without leading zeros. -/
def digitsOf (value : Nat) : List Char := Nat.toDigits 10 value

/-- The decimal digits of an integer, with a minus sign if it is negative. -/
def integerDigits (value : Int) : List Char :=
  if value < 0 then '-' :: digitsOf value.natAbs else digitsOf value.natAbs

/-- A natural number as text. -/
def toDecimal (value : Nat) : String := String.ofList (digitsOf value)

/-- An integer as text. -/
def toSignedDecimal (value : Int) : String := String.ofList (integerDigits value)

/-- The value of a list of decimal digits. -/
def valueOfDigits (digits : List Char) : Nat :=
  digits.foldl (fun value digit => 10 * value + (digit.toNat - '0'.toNat)) 0

/-- What can be wrong with the text of an integer. -/
inductive IntegerError where
  | empty
  | invalidDigit
  | tooLarge
  | tooSmall
deriving DecidableEq

/-- The wording of an error. -/
def IntegerError.message : IntegerError → String
  | empty => "cannot parse integer from empty string"
  | invalidDigit => "invalid digit found in string"
  | tooLarge => "number too large to fit in target type"
  | tooSmall => "number too small to fit in target type"

/-- Reads digits that stand for at most `limit` and refuses more with `error`. The text is read
from the left, so that too many digits are found before a character after them that is none. -/
def readMagnitude (limit : Nat) (error : IntegerError) (digits : List Char) :
    Except IntegerError Nat :=
  if limit < valueOfDigits (digits.takeWhile Char.isDigit) then .error error
  else if digits.isEmpty || !digits.all Char.isDigit then .error .invalidDigit
  else .ok (valueOfDigits digits)

/-- Reads an integer from `-below` to `above`: a sign, then digits. A minus sign is only accepted
where negative numbers are. -/
def readInteger (below above : Nat) (text : String) : Except IntegerError Int :=
  match text.toList with
  | [] => .error .empty
  | '+' :: digits => (readMagnitude above .tooLarge digits).map Int.ofNat
  | '-' :: digits =>
      if below = 0 then .error .invalidDigit
      else (readMagnitude below .tooSmall digits).map fun value => -Int.ofNat value
  | digits => (readMagnitude above .tooLarge digits).map Int.ofNat

/-- Reads an integer of 64 bits with a sign. -/
def readInt64 (text : String) : Except IntegerError Int64 :=
  (readInteger (UInt64.size / 2) (UInt64.size / 2 - 1) text).map Int64.ofInt

/-- Reads an integer of 64 bits without a sign. -/
def readUInt64 (text : String) : Except IntegerError UInt64 :=
  (readInteger 0 (UInt64.size - 1) text).map fun value => UInt64.ofNat value.toNat

end LogSieve.Text
