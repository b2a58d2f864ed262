import LogSieve.Text.Decimal
import LogSieve.Url.Name
import LogSieve.Url.Percent

/-!
# Hosts

The written form of hosts: names in lower case, addresses of four bytes, addresses of eight pieces.
-/

namespace LogSieve.Url

open LogSieve.Text

/-- Characters that no host has. -/
def isForbidden (char : Char) : Bool :=
  ['\x00', '\t', '\n', '\r', ' ', '#', '/', ':', '<', '>', '?', '@', '[', '\\', ']', '^',
    '|'].contains char

/-- Characters that no domain name has. -/
def isForbiddenInName (char : Char) : Bool :=
  isForbidden char || char.toNat < 0x20 || char.toNat == 0x7F || char == '%'

/-- The number that a part of an address of four bytes stands for: hexadecimal after `0x`, octal
after `0`. -/
def addressNumber? (part : List Char) : Option Nat :=
  let read (base : Nat) (digits : List Char) : Option Nat :=
    digits.foldlM (fun value char => do
      let digit ← hexValue? char
      if digit < base then some (base * value + digit) else none) 0
  match part with
  | [] => none
  | '0' :: 'x' :: digits | '0' :: 'X' :: digits => read 16 digits
  | '0' :: digit :: digits => read 8 (digit :: digits)
  | digits => read 10 digits

/-- The parts of a name without an empty last one. -/
def nameParts (name : List Char) : List (List Char) :=
  let parts := splitAt '.' name
  if 1 < parts.length ∧ parts.getLast? = some [] then parts.dropLast else parts

/-- Whether a name has to be an address of four bytes: its last part is a number. -/
def endsInNumber (name : List Char) : Bool :=
  match (nameParts name).getLast? with
  | some part =>
      (!part.isEmpty && part.all Char.isDigit) || (addressNumber? part).isSome
  | none => false

/-- The number of an address given by up to four numbers: the last one fills all bytes left. -/
def addressValue? (numbers : List Nat) : Option Nat :=
  match numbers.reverse with
  | [] => none
  | last :: before =>
      let limit := Nat.pow 256 (4 - before.length)
      if 4 < numbers.length || before.any (255 < ·) || limit ≤ last then none
      else some (before.reverse.foldr (fun number (value, weight) =>
        (value + number * weight, weight * 256))
          (last, limit)).1

/-- An address of four bytes. -/
def fourBytes? (name : List Char) : Option (List Char) := do
  let numbers ← (nameParts name).mapM addressNumber?
  let value ← addressValue? numbers
  some (joinWith '.' ([3, 2, 1, 0].map fun place => digitsOf (value / Nat.pow 256 place % 256)))

/-- Reads a piece of up to four hexadecimal digits. -/
def piece? (digits : List Char) : Option Nat :=
  if digits.isEmpty || 4 < digits.length then none
  else digits.foldlM (fun value char => do some (16 * value + (← hexValue? char))) 0

/-- The two pieces of four bytes at the end of an address. -/
def bytePieces? (chars : List Char) : Option (List Nat) := do
  let numbers ← (splitAt '.' chars).mapM fun digits =>
    if digits.isEmpty || 3 < digits.length || !digits.all Char.isDigit ||
        (1 < digits.length && digits.head? == some '0') then none
    else some (valueOfDigits digits)
  match numbers with
  | [a, b, c, d] => if numbers.any (255 < ·) then none else some [256 * a + b, 256 * c + d]
  | _ => none

/-- The pieces of a part of an address. Four bytes may stand at the end of the whole. -/
def pieces? (mayEndInBytes : Bool) (chars : List Char) : Option (List Nat) :=
  if chars.isEmpty then some []
  else
    let parts := splitAt ':' chars
    match parts.getLast? with
    | some last =>
        if mayEndInBytes && last.contains '.' then do
          some ((← parts.dropLast.mapM piece?) ++ (← bytePieces? last))
        else parts.mapM piece?
    | none => some []

/-- Divides an address at its first double colon. -/
def splitDouble : List Char → Option (List Char × List Char)
  | ':' :: ':' :: rest => some ([], rest)
  | char :: rest => (splitDouble rest).map fun (before, after) => (char :: before, after)
  | [] => none

/-- The eight pieces of an address; a double colon stands for zeros. -/
def eightPieces? (chars : List Char) : Option (List Nat) := do
  match splitDouble chars with
  | some (before, after) =>
      let first ← pieces? false before
      let last ← pieces? true after
      let known := first.length + last.length
      if 7 < known then none else some (first ++ List.replicate (8 - known) 0 ++ last)
  | none =>
      let pieces ← pieces? true chars
      if pieces.length = 8 then some pieces else none

/-- How many zeros a list begins with. -/
def leadingZeros (pieces : List Nat) : Nat := (pieces.takeWhile (· == 0)).length

/-- The first longest run of at least two zeros: where it begins and how long it is. -/
def longestZeros (pieces : List Nat) : Option (Nat × Nat) :=
  (List.range pieces.length).foldl (fun best start =>
    let length := leadingZeros (pieces.drop start)
    if 2 ≤ length ∧ (best.map (·.2)).getD 1 < length then some (start, length) else best) none

/-- An address of eight pieces, with the longest run of zeros left out. -/
def showPieces (pieces : List Nat) : List Char :=
  let write (part : List Nat) := joinWith ':' (part.map fun piece => Nat.toDigits 16 piece)
  match longestZeros pieces with
  | some (start, length) =>
      write (pieces.take start) ++ "::".toList ++ write (pieces.drop (start + length))
  | none => write pieces

/-- An address in brackets. -/
def bracketed? (chars : List Char) : Option (List Char) :=
  match chars.getLast? with
  | some ']' => (eightPieces? chars.dropLast).map fun pieces => '[' :: showPieces pieces ++ [']']
  | _ => none

/-- The host of an address in the web. -/
def specialHost? (chars : List Char) : Option (List Char) :=
  match chars with
  | '[' :: rest => bracketed? rest
  | _ => do
      let text ← unescapedText? chars
      let name ← asciiName? text.toList
      if name.isEmpty || name.any isForbiddenInName then none
      else if endsInNumber name then fourBytes? name
      else some name

/-- The host of any other address. -/
def otherHost? (chars : List Char) : Option (List Char) :=
  match chars with
  | '[' :: rest => bracketed? rest
  | _ => if chars.any isForbidden then none else some (escape isControl chars)

end LogSieve.Url
