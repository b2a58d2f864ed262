import LogSieve.Json.Tree
import LogSieve.Keyed
import LogSieve.Number.Double

/-!
# JSON values

What a JSON text stands for: numbers are integers of 64 bits or fractions, and an object has one
member a key, in the order of the keys.
-/

namespace LogSieve.Json

open LogSieve.Number

/-- A JSON value. The number that a fraction stands for is kept as written. -/
inductive Value where
  | null
  | bool (value : Bool)
  | integer (value : Int)
  | fraction (numeral : Numeral)
  | string (text : String)
  | array (items : List Value)
  | object (members : List (String × Value))
deriving Inhabited

/-- Containers may be nested this deep. -/
def nestingLimit : Nat := 127

/-- The integer that a numeral stands for: a plain one, not a negative zero, that fits 64 bits with
or without a sign. -/
def Numeral.integer? (numeral : Numeral) : Option Int :=
  if !numeral.plain then none
  else if numeral.negative then
    if 0 < numeral.mantissa ∧ numeral.mantissa ≤ UInt64.size / 2 then
      some (-(numeral.mantissa : Int))
    else none
  else if numeral.mantissa < UInt64.size then some numeral.mantissa
  else none

/-- The natural number of 64 bits that a numeral stands for. -/
def Numeral.natural? (numeral : Numeral) : Option UInt64 :=
  if numeral.plain && !numeral.negative && numeral.mantissa < UInt64.size then
    some (UInt64.ofNat numeral.mantissa)
  else none

/-- Drops last digits until a mantissa fits 64 bits; each one dropped raises the exponent. The fuel
bounds the number of digits. -/
def shortenMantissa : (fuel : Nat) → (mantissa : Nat) → (exponent : Int) → Nat × Int
  | 0, mantissa, exponent => (mantissa, exponent)
  | fuel + 1, mantissa, exponent =>
      if mantissa < UInt64.size then (mantissa, exponent)
      else shortenMantissa fuel (mantissa / 10) (exponent + 1)

/-- The largest power of ten in double precision. -/
def largestPower : Nat := 308

/-- Whether a numeral is finite in double precision: the mantissa times the power of ten, each
rounded on its own. -/
def Numeral.isFinite (numeral : Numeral) : Bool :=
  let digits := (Text.digitsOf numeral.mantissa).length
  let (mantissa, exponent) := shortenMantissa digits numeral.mantissa numeral.exponent
  if mantissa = 0 ∨ exponent < 0 then true
  else if (largestPower : Int) < exponent then false
  else
    roundToDouble (roundToDouble mantissa * roundToDouble (Nat.pow 10 exponent.toNat)) < doubleLimit

/-- The value of a tree, with at most `depth` containers nested in it. Strings with half a
surrogate pair and infinite numbers have none. -/
def Tree.value? : (depth : Nat) → Tree → Option Value
  | _, .null => some .null
  | _, .bool value => some (.bool value)
  | _, .number numeral =>
      match numeral.integer? with
      | some value => some (.integer value)
      | none => if numeral.isFinite then some (.fraction numeral) else none
  | _, .string text => text.map .string
  | 0, .array _ => none
  | 0, .object _ => none
  | depth + 1, .array items => (items.mapM (Tree.value? depth)).map .array
  | depth + 1, .object members => do
      let members ← members.mapM fun (key, tree) => do some (← key, ← Tree.value? depth tree)
      some (.object (Keyed.ofList members).pairs)

end LogSieve.Json
