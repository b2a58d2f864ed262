/-!
# Punycode

Names outside of ASCII written with letters, digits and hyphens: first what is ASCII, then, in the
order of the code points, the places of all other characters as numbers of variable length.
-/

namespace LogSieve.Url.Punycode

/-- The digit of a number below 36. -/
def digit (value : Nat) : Char :=
  if value < 26 then Char.ofNat ('a'.toNat + value) else Char.ofNat ('0'.toNat + value - 26)

/-- Divides by 35 until a number is at most 455; gives the number and how often, times 36. The fuel
bounds the number of divisions. -/
def shrink : (fuel : Nat) → (delta bias : Nat) → Nat × Nat
  | 0, delta, bias => (delta, bias)
  | fuel + 1, delta, bias =>
      if 455 < delta then shrink fuel (delta / 35) (bias + 36) else (delta, bias)

/-- The bias after a number. -/
def adapt (delta count : Nat) (isFirst : Bool) : Nat :=
  let halved := if isFirst then delta / 700 else delta / 2
  let (small, bias) := shrink 64 (halved + halved / count) 0
  bias + 36 * small / (small + 38)

/-- The threshold at a place of a number. -/
def threshold (place bias : Nat) : Nat :=
  if place ≤ bias then 1 else if bias + 26 ≤ place then 26 else place - bias

/-- A number of variable length. The fuel bounds the number of digits. -/
def number : (fuel : Nat) → (value place bias : Nat) → List Char
  | 0, _, _, _ => []
  | fuel + 1, value, place, bias =>
      let limit := threshold place bias
      if value < limit then [digit value]
      else
        digit (limit + (value - limit) % (36 - limit)) ::
          number fuel ((value - limit) / (36 - limit)) (place + 36) bias

/-- What is known between two characters. -/
structure State where
  delta : Nat
  bias : Nat
  handled : Nat
  output : List Char

/-- Writes the places of one code point. -/
def writePoint (point basic : Nat) (state : State) (code : Nat) : State :=
  if code < point then { state with delta := state.delta + 1 }
  else if code = point then
    { delta := 0
      bias := adapt state.delta (state.handled + 1) (state.handled == basic)
      handled := state.handled + 1
      output := state.output ++ number 64 state.delta 36 state.bias }
  else state

/-- Writes the code points from a place in their order on. -/
def writePoints (codes : List Nat) (basic : Nat) : (points : List Nat) → (next : Nat) → State →
    List Char
  | [], _, state => state.output
  | point :: points, next, state =>
      let state := { state with delta := state.delta + (point - next) * (state.handled + 1) }
      let state := codes.foldl (writePoint point basic) state
      writePoints codes basic points (point + 1) { state with delta := state.delta + 1 }

/-- A label in Punycode. -/
def encode (label : List Char) : List Char :=
  let basic := label.filter (·.toNat < 0x80)
  let codes := label.map Char.toNat
  let points := ((codes.filter (0x80 ≤ ·)).mergeSort).eraseDups
  let start := if basic.isEmpty then [] else basic ++ ['-']
  writePoints codes basic.length points 0x80 ⟨0, 72, basic.length, start⟩

/-- The value of a digit. -/
def digitValue? (char : Char) : Option Nat :=
  if 'a' ≤ char ∧ char ≤ 'z' then some (char.toNat - 'a'.toNat)
  else if '0' ≤ char ∧ char ≤ '9' then some (char.toNat - '0'.toNat + 26)
  else none

/-- What is known between two digits: the number so far, the weight and the place of its next digit,
what it was before its first digit, and the text so far with the last code point put into it. -/
structure Reading where
  value : Nat := 0
  weight : Nat := 1
  place : Nat := 36
  start : Nat := 0
  bias : Nat := 72
  code : Nat := 0x80
  text : List Nat

/-- Reads a digit. The last one of a number tells a code point and its place in the text. -/
def readDigit? (reading : Reading) (char : Char) : Option Reading := do
  let digit ← digitValue? char
  let value := reading.value + digit * reading.weight
  let limit := threshold reading.place reading.bias
  if limit ≤ digit then
    some { reading with
      value
      weight := reading.weight * (36 - limit)
      place := reading.place + 36 }
  else
    let count := reading.text.length + 1
    let code := reading.code + value / count
    let index := value % count
    if code.isValidChar then
      some {
        value := index + 1
        start := index + 1
        bias := adapt (value - reading.start) count (reading.start == 0)
        code
        text := reading.text.insertIdx index code }
    else none

/-- The label that a text in Punycode stands for. -/
def decode? (chars : List Char) : Option (List Char) := do
  let last := (chars.reverse.takeWhile (· != '-')).reverse
  let basic := (chars.take (chars.length - last.length)).dropLast
  let digits := if basic.isEmpty then chars else last
  let reading ← digits.foldlM readDigit? { text := basic.map Char.toNat }
  if reading.place = 36 then some (reading.text.map Char.ofNat) else none

end LogSieve.Url.Punycode
