import LogSieve.Text.Decimal

/-!
# JSON tokens

Cuts a JSON text into tokens. Blanks are space, tab, line feed and carriage return; anything that
starts no token makes the whole text invalid.
-/

namespace LogSieve.Json

open LogSieve.Text

/-- A number as written: `mantissa * 10 ^ exponent`, negative if so marked. A plain numeral has
neither a fraction nor an exponent. -/
structure Numeral where
  negative : Bool
  mantissa : Nat
  exponent : Int
  plain : Bool
deriving DecidableEq

/-- The tokens of JSON. The text of a string is absent if one half of a surrogate pair stands alone
in it. -/
inductive Token where
  | openObject
  | closeObject
  | openArray
  | closeArray
  | colon
  | comma
  | null
  | bool (value : Bool)
  | number (numeral : Numeral)
  | string (text : Option String)
deriving DecidableEq

/-- The blanks of JSON. -/
def isBlank (char : Char) : Bool :=
  char == ' ' || char == '\t' || char == '\n' || char == '\r'

/-- One element of a string: a character, or a unit of UTF-16 given by an escape sequence. -/
inductive StringUnit where
  | char (char : Char)
  | unit (value : Nat)
deriving DecidableEq

/-- The value of a hexadecimal digit. -/
def hexDigit? (char : Char) : Option Nat :=
  if '0' ≤ char ∧ char ≤ '9' then some (char.toNat - '0'.toNat)
  else if 'a' ≤ char ∧ char ≤ 'f' then some (char.toNat - 'a'.toNat + 10)
  else if 'A' ≤ char ∧ char ≤ 'F' then some (char.toNat - 'A'.toNat + 10)
  else none

/-- The character that a one-letter escape sequence stands for. -/
def escapedChar? : Char → Option Char
  | '"' => some '"'
  | '\\' => some '\\'
  | '/' => some '/'
  | 'b' => some '\x08'
  | 'f' => some '\x0c'
  | 'n' => some '\n'
  | 'r' => some '\r'
  | 't' => some '\t'
  | _ => none

/-- Reads the elements of a string up to the closing quote. -/
def readUnits : List Char → Option (List StringUnit × List Char)
  | [] => none
  | '"' :: rest => some ([], rest)
  | '\\' :: 'u' :: first :: second :: third :: fourth :: rest => do
      let first ← hexDigit? first
      let second ← hexDigit? second
      let third ← hexDigit? third
      let fourth ← hexDigit? fourth
      let (units, after) ← readUnits rest
      some (.unit (((first * 16 + second) * 16 + third) * 16 + fourth) :: units, after)
  | '\\' :: char :: rest => do
      let char ← escapedChar? char
      let (units, after) ← readUnits rest
      some (.char char :: units, after)
  | char :: rest =>
      if char.toNat < 0x20 || char == '\\' then none
      else do
        let (units, after) ← readUnits rest
        some (.char char :: units, after)

/-- Whether a unit of UTF-16 is the first half of a pair. -/
def isHighSurrogate (value : Nat) : Bool := 0xD800 ≤ value && value < 0xDC00

/-- Whether a unit of UTF-16 is the second half of a pair. -/
def isLowSurrogate (value : Nat) : Bool := 0xDC00 ≤ value && value < 0xE000

/-- Joins surrogate pairs to characters; a half that stands alone is no text. -/
def assemble : List StringUnit → Option (List Char)
  | [] => some []
  | .char char :: rest => (assemble rest).map (char :: ·)
  | .unit high :: .unit low :: rest =>
      if isHighSurrogate high then
        if isLowSurrogate low then
          (assemble rest).map
            (Char.ofNat (0x10000 + (high - 0xD800) * 0x400 + (low - 0xDC00)) :: ·)
        else none
      else if isLowSurrogate high then none
      else (assemble (.unit low :: rest)).map (Char.ofNat high :: ·)
  | .unit value :: rest =>
      if isHighSurrogate value || isLowSurrogate value then none
      else (assemble rest).map (Char.ofNat value :: ·)

/-- Reads a string after its opening quote. -/
def readString (input : List Char) : Option (Token × List Char) := do
  let (units, after) ← readUnits input
  some (.string ((assemble units).map String.ofList), after)

/-- Reads the fraction of a number, if there is one: its digits. -/
def readFraction : List Char → Option (Option (List Char) × List Char)
  | '.' :: rest =>
      let digits := rest.takeWhile Char.isDigit
      if digits.isEmpty then none else some (some digits, rest.dropWhile Char.isDigit)
  | input => some (none, input)

/-- Reads the digits of an exponent. -/
def readExponentDigits (negative : Bool) (input : List Char) : Option (Option Int × List Char) :=
  let digits := input.takeWhile Char.isDigit
  if digits.isEmpty then none
  else
    let value : Int := valueOfDigits digits
    some (some (if negative then -value else value), input.dropWhile Char.isDigit)

/-- Reads the exponent of a number, if there is one. -/
def readExponent : List Char → Option (Option Int × List Char)
  | char :: rest =>
      if char = 'e' ∨ char = 'E' then
        match rest with
        | '+' :: rest => readExponentDigits false rest
        | '-' :: rest => readExponentDigits true rest
        | rest => readExponentDigits false rest
      else some (none, char :: rest)
  | [] => some (none, [])

/-- Reads a number. The first of several digits before the point is not a zero. -/
def readNumeral (input : List Char) : Option (Numeral × List Char) := do
  let (negative, input) := match input with
    | '-' :: rest => (true, rest)
    | _ => (false, input)
  let whole := input.takeWhile Char.isDigit
  if whole.isEmpty || (whole.head? == some '0' && 1 < whole.length) then none
  else
    let (fraction, rest) ← readFraction (input.dropWhile Char.isDigit)
    let (exponent, rest) ← readExponent rest
    let fractionDigits := fraction.getD []
    some ({ negative := negative
            mantissa := valueOfDigits (whole ++ fractionDigits)
            exponent := exponent.getD 0 - fractionDigits.length
            plain := fraction.isNone && exponent.isNone }, rest)

/-- Reads one token that starts with the given character. -/
def readToken (char : Char) (rest : List Char) : Option (Token × List Char) :=
  match char with
  | '{' => some (.openObject, rest)
  | '}' => some (.closeObject, rest)
  | '[' => some (.openArray, rest)
  | ']' => some (.closeArray, rest)
  | ':' => some (.colon, rest)
  | ',' => some (.comma, rest)
  | '"' => readString rest
  | 'n' => match rest with
      | 'u' :: 'l' :: 'l' :: rest => some (.null, rest)
      | _ => none
  | 't' => match rest with
      | 'r' :: 'u' :: 'e' :: rest => some (.bool true, rest)
      | _ => none
  | 'f' => match rest with
      | 'a' :: 'l' :: 's' :: 'e' :: rest => some (.bool false, rest)
      | _ => none
  | char => (readNumeral (char :: rest)).map fun (numeral, rest) => (.number numeral, rest)

/-- Cuts a text into tokens. The fuel bounds the number of tokens and blanks. -/
def scanLoop : (fuel : Nat) → List Char → Option (List Token)
  | 0, _ => none
  | _ + 1, [] => some []
  | fuel + 1, char :: rest =>
      if isBlank char then scanLoop fuel rest
      else do
        let (token, rest) ← readToken char rest
        let tokens ← scanLoop fuel rest
        some (token :: tokens)

/-- The tokens of a JSON text. -/
def scan? (text : List Char) : Option (List Token) := scanLoop (text.length + 1) text

end LogSieve.Json
