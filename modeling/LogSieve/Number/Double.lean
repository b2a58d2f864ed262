/-!
# Whole numbers in double precision

A double keeps 53 significant bits.
-/

namespace LogSieve.Number

/-- The number of significant bits. -/
def doubleBits : Nat := 53

/-- The number of bits of a number; none for zero. -/
def bitLength (value : Nat) : Nat := if value = 0 then 0 else value.log2 + 1

/-- The nearest number with at most 53 significant bits; of two the one whose last bit is zero. -/
def roundToDouble (value : Nat) : Nat :=
  let unit := Nat.pow 2 (bitLength value - doubleBits)
  let quotient := value / unit
  let twice := 2 * (value % unit)
  if twice < unit ∨ (twice = unit ∧ quotient % 2 = 0) then quotient * unit
  else (quotient + 1) * unit

/-- No number from here on is finite in double precision. -/
def doubleLimit : Nat := Nat.pow 2 1024

/-- The least number that is rounded to infinity. -/
def overflowLimit : Nat := Nat.pow 2 1024 - Nat.pow 2 970

/-- Whether a mantissa times a power of ten is finite when rounded once. Very large and very small
exponents are settled by the number of digits. -/
def isFiniteDecimal (mantissa : Nat) (exponent : Int) : Bool :=
  let size : Int := (Nat.toDigits 10 mantissa).length + exponent
  if mantissa = 0 ∨ size < 309 then true
  else if 310 < size then false
  else if 0 ≤ exponent then mantissa * Nat.pow 10 exponent.toNat < overflowLimit
  else mantissa < overflowLimit * Nat.pow 10 (-exponent).toNat

end LogSieve.Number
