/-!
# TOML strings

Strings in double quotes have escape sequences, strings in single quotes have none. Three quotes
begin a string of several lines; a line break right after them does not count.
-/

namespace LogSieve.Toml

/-- Characters that stand for themselves in any string. -/
def isPlain (char : Char) : Bool :=
  char == '\t' || (0x20 ≤ char.toNat && char.toNat != 0x7F)

/-- The value of a hexadecimal digit. -/
def hexValue? (char : Char) : Option Nat :=
  if '0' ≤ char ∧ char ≤ '9' then some (char.toNat - '0'.toNat)
  else if 'a' ≤ char ∧ char ≤ 'f' then some (char.toNat - 'a'.toNat + 10)
  else if 'A' ≤ char ∧ char ≤ 'F' then some (char.toNat - 'A'.toNat + 10)
  else none

/-- The character with a code point given by hexadecimal digits. -/
def hexChar? (digits : List Char) : Option Char := do
  let code ← digits.foldlM (fun value char => do some (16 * value + (← hexValue? char))) 0
  if code.isValidChar then some (Char.ofNat code) else none

/-- The character with a code point of a number of digits, and what follows. -/
def hexEscape? (count : Nat) (rest : List Char) : Option (Char × List Char) := do
  let digits := rest.take count
  if digits.length < count then none else some (← hexChar? digits, rest.drop count)

/-- The character of an escape sequence without its backslash, and what follows. -/
def escape? : List Char → Option (Char × List Char)
  | 'b' :: rest => some ('\x08', rest)
  | 't' :: rest => some ('\t', rest)
  | 'n' :: rest => some ('\n', rest)
  | 'f' :: rest => some ('\x0c', rest)
  | 'r' :: rest => some ('\r', rest)
  | 'e' :: rest => some ('\x1b', rest)
  | '"' :: rest => some ('"', rest)
  | '\\' :: rest => some ('\\', rest)
  | 'x' :: rest => hexEscape? 2 rest
  | 'u' :: rest => hexEscape? 4 rest
  | 'U' :: rest => hexEscape? 8 rest
  | _ => none

/-- Reads a string in double quotes after the first of them. The fuel bounds its length. -/
def readBasic : (fuel : Nat) → List Char → Option (List Char × List Char)
  | 0, _ | _, [] => none
  | fuel + 1, char :: rest =>
      if char = '"' then some ([], rest)
      else if char = '\\' then do
        let (escaped, rest) ← escape? rest
        let (text, rest) ← readBasic fuel rest
        some (escaped :: text, rest)
      else if isPlain char then do
        let (text, rest) ← readBasic fuel rest
        some (char :: text, rest)
      else none

/-- Reads a string in single quotes after the first of them. -/
def readLiteral : List Char → Option (List Char × List Char)
  | [] => none
  | char :: rest =>
      if char = '\'' then some ([], rest)
      else if isPlain char then do
        let (text, rest) ← readLiteral rest
        some (char :: text, rest)
      else none

/-- Drops a line break at the beginning. -/
def dropBreak : List Char → List Char
  | '\n' :: rest => rest
  | '\r' :: '\n' :: rest => rest
  | chars => chars

/-- Drops blanks and line breaks after a backslash that ends a line; fails without a line break. -/
def foldLines (broken : Bool) : List Char → Option (List Char)
  | ' ' :: rest => foldLines broken rest
  | '\t' :: rest => foldLines broken rest
  | '\n' :: rest => foldLines true rest
  | '\r' :: '\n' :: rest => foldLines true rest
  | chars => if broken then some chars else none

/-- How many quotes of a kind a list begins with, at most five. -/
def quoteRun (quote : Char) (chars : List Char) : Nat :=
  ((chars.take 5).takeWhile (· == quote)).length

/-- Reads a string of several lines after its first three quotes. Up to two quotes may stand before
the last three. The fuel bounds its length. -/
def readLines (quote : Char) : (fuel : Nat) → List Char → Option (List Char × List Char)
  | 0, _ | _, [] => none
  | fuel + 1, char :: rest =>
      let run := quoteRun quote (char :: rest)
      if 3 ≤ run then some (List.replicate (run - 3) quote, (char :: rest).drop run)
      else if char = '\\' ∧ quote = '"' then
        match rest with
        | ' ' :: _ | '\t' :: _ | '\n' :: _ | '\r' :: _ => do
            readLines quote fuel (← foldLines false rest)
        | _ => do
            let (escaped, rest) ← escape? rest
            let (text, rest) ← readLines quote fuel rest
            some (escaped :: text, rest)
      else if char = '\r' then
        match rest with
        | '\n' :: rest => do
            let (text, rest) ← readLines quote fuel rest
            some ('\r' :: '\n' :: text, rest)
        | _ => none
      else if char = '\n' ∨ isPlain char then do
        let (text, rest) ← readLines quote fuel rest
        some (char :: text, rest)
      else none

/-- Reads a string on one line, if one begins here. -/
def readLineString? : List Char → Option (List Char × List Char)
  | '"' :: rest => readBasic (rest.length + 1) rest
  | '\'' :: rest => readLiteral rest
  | _ => none

/-- Reads a string, if one begins here. -/
def readString? : List Char → Option (List Char × List Char)
  | '"' :: '"' :: '"' :: rest => readLines '"' (rest.length + 1) (dropBreak rest)
  | '\'' :: '\'' :: '\'' :: rest => readLines '\'' (rest.length + 1) (dropBreak rest)
  | chars => readLineString? chars

end LogSieve.Toml
