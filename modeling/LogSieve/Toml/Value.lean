/-!
# TOML values

What a TOML document holds.
-/

namespace LogSieve.Toml

/-- A TOML value. Floats and moments are kept only as far as they are told apart. -/
inductive Value where
  | string (text : String)
  | integer (value : Int)
  /-- A float, and whether a double can hold it. -/
  | float (fits : Bool)
  | bool (value : Bool)
  | moment
  | array (items : List Value)
  | table (entries : List (String × Value))
deriving Inhabited

mutual

/-- Whether all numbers of a value fit: integers 128 bits, floats a double. -/
def Value.fits : Value → Bool
  | .integer value => -Int.ofNat (Nat.pow 2 127) ≤ value && value < Int.ofNat (Nat.pow 2 128)
  | .float fits => fits
  | .array items => itemsFit items
  | .table entries => entriesFit entries
  | _ => true

/-- Whether all numbers of some values fit. -/
def itemsFit : List Value → Bool
  | [] => true
  | value :: rest => value.fits && itemsFit rest

/-- Whether all numbers of some entries fit. -/
def entriesFit : List (String × Value) → Bool
  | [] => true
  | (_, value) :: rest => value.fits && entriesFit rest

end

end LogSieve.Toml
