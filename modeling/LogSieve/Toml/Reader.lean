import LogSieve.Toml.Scalar
import LogSieve.Toml.Table

/-!
# Reading TOML

A document is read line by line into statements. Arrays and tables in braces may go over several
lines and may not be nested too deeply.
-/

namespace LogSieve.Toml

/-- Drops blanks. -/
def dropBlanks (chars : List Char) : List Char :=
  chars.dropWhile fun char => char == ' ' || char == '\t'

/-- Drops a comment, if one begins here; fails on a control character in it. -/
def dropComment? : List Char → Option (List Char)
  | '#' :: rest =>
      let after := rest.dropWhile isPlain
      match after with
      | [] | '\n' :: _ | '\r' :: '\n' :: _ => some after
      | _ => none
  | chars => some chars

/-- Drops the rest of a line, which may hold a comment only. -/
def endLine? (chars : List Char) : Option (List Char) := do
  match ← dropComment? (dropBlanks chars) with
  | [] => some []
  | '\n' :: rest => some rest
  | '\r' :: '\n' :: rest => some rest
  | _ => none

/-- Drops blanks, comments and line breaks. The fuel bounds the number of lines. -/
def dropLines? : (fuel : Nat) → List Char → Option (List Char)
  | 0, chars => some chars
  | fuel + 1, chars => do
      match ← dropComment? (dropBlanks chars) with
      | '\n' :: rest => dropLines? fuel rest
      | '\r' :: '\n' :: rest => dropLines? fuel rest
      | rest => some rest

/-- Drops everything between two items. -/
def dropSpace? (chars : List Char) : Option (List Char) := dropLines? (chars.length + 1) chars

/-- Characters of keys without quotes. -/
def isKeyChar (char : Char) : Bool := char.isAlphanum || char == '_' || char == '-'

/-- Reads one key. -/
def readKey? (chars : List Char) : Option (String × List Char) :=
  match chars with
  | '"' :: _ | '\'' :: _ =>
      (readLineString? chars).map fun (text, rest) => (String.ofList text, rest)
  | _ =>
      let key := chars.takeWhile isKeyChar
      if key.isEmpty then none else some (String.ofList key, chars.dropWhile isKeyChar)

/-- Reads keys divided by dots; the last one stands apart. The fuel bounds their number. -/
def readKeys? : (fuel : Nat) → List Char → Option (List String × String × List Char)
  | 0, _ => none
  | fuel + 1, chars => do
      let (key, rest) ← readKey? (dropBlanks chars)
      match dropBlanks rest with
      | '.' :: rest => do
          let (path, last, rest) ← readKeys? fuel rest
          some (key :: path, last, rest)
      | rest => some ([], key, rest)

/-- Arrays and tables may be nested this deep, in braces and by keys. -/
def nestingLimit : Nat := 80

/-- Reads dotted keys. -/
def readPath? (chars : List Char) : Option (List String × String × List Char) := do
  let (path, key, rest) ← readKeys? (chars.length + 1) chars
  if path.length < nestingLimit then some (path, key, rest) else none

/-- Characters that end a value without quotes. -/
def endsScalar (char : Char) : Bool :=
  [' ', '\t', '\n', '\r', '#', ',', '=', '[', ']', '{', '}', '"', '\''].contains char

/-- Reads a value without quotes. A date may go on after a blank with a time. -/
def readScalar? (chars : List Char) : Option (Value × List Char) := do
  let word := chars.takeWhile (!endsScalar ·)
  let rest := chars.dropWhile (!endsScalar ·)
  match rest with
  | ' ' :: next :: more =>
      if isDate word && next.isDigit then
        let time := (next :: more).takeWhile (!endsScalar ·)
        some (← scalar? (word ++ ' ' :: time), (next :: more).dropWhile (!endsScalar ·))
      else some (← scalar? word, rest)
  | _ => some (← scalar? word, rest)

/-- How values are read inside of another one. -/
abbrev ValueReader := List Char → Option (Value × List Char)

/-- Reads the items of an array after its bracket. The fuel bounds their number. -/
def readItems (readValue : ValueReader) : (fuel : Nat) → List Char →
    Option (List Value × List Char)
  | 0, _ => none
  | fuel + 1, chars => do
      match ← dropSpace? chars with
      | ']' :: rest => some ([], rest)
      | chars => do
          let (value, rest) ← readValue chars
          match ← dropSpace? rest with
          | ',' :: rest => do
              let (values, rest) ← readItems readValue fuel rest
              some (value :: values, rest)
          | ']' :: rest => some ([value], rest)
          | _ => none

/-- Reads the entries of a table after its brace. The fuel bounds their number. -/
def readPairs (readValue : ValueReader) : (fuel : Nat) → List Char →
    Option (List (List String × String × Value) × List Char)
  | 0, _ => none
  | fuel + 1, chars => do
      match ← dropSpace? chars with
      | '}' :: rest => some ([], rest)
      | chars => do
          let (path, key, rest) ← readPath? chars
          let rest ← after? '=' rest
          let (value, rest) ← readValue (dropBlanks rest)
          match ← dropSpace? rest with
          | ',' :: rest => do
              let (pairs, rest) ← readPairs readValue fuel rest
              some ((path, key, value) :: pairs, rest)
          | '}' :: rest => some ([(path, key, value)], rest)
          | _ => none

/-- Reads a string or a value without quotes. -/
def readPlain : ValueReader
  | chars =>
      match chars with
      | '"' :: _ | '\'' :: _ =>
          (readString? chars).map fun (text, rest) => (.string (String.ofList text), rest)
      | _ => readScalar? chars

/-- Reads a value with at most `depth` arrays and tables nested in it. -/
def readValue : (depth : Nat) → ValueReader
  | 0, chars =>
      match chars with
      | '[' :: _ | '{' :: _ => none
      | _ => readPlain chars
  | depth + 1, chars =>
      match chars with
      | '[' :: rest => do
          let (items, rest) ← readItems (readValue depth) (rest.length + 1) rest
          some (.array items, rest)
      | '{' :: rest => do
          let (pairs, rest) ← readPairs (readValue depth) (rest.length + 1) rest
          some (← inlineTable? pairs, rest)
      | _ => readPlain chars

/-- Reads a statement at the beginning of a line. -/
def readStatement? (chars : List Char) : Option (Statement × List Char) :=
  match chars with
  | '[' :: '[' :: rest => do
      let (path, key, rest) ← readPath? rest
      some (.extend path key, ← after? ']' (← after? ']' rest))
  | '[' :: rest => do
      let (path, key, rest) ← readPath? rest
      some (.define path key, ← after? ']' rest)
  | _ => do
      let (path, key, rest) ← readPath? chars
      let (value, rest) ← readValue nestingLimit (dropBlanks (← after? '=' rest))
      some (.assign path key value, rest)

/-- Reads the statements of a document. The fuel bounds their number. -/
def readStatements? : (fuel : Nat) → List Char → Option (List Statement)
  | 0, _ => none
  | fuel + 1, chars => do
      match ← dropSpace? chars with
      | [] => some []
      | chars => do
          let (statement, rest) ← readStatement? chars
          let rest ← endLine? rest
          some (statement :: (← readStatements? fuel rest))

/-- Drops a mark of the order of bytes at the beginning. -/
def dropByteOrder : List Char → List Char
  | '\ufeff' :: rest => rest
  | chars => chars

/-- Reads a document. -/
def parse? (text : String) : Option (List (String × Value)) := do
  let chars := dropByteOrder text.toList
  documentOf? (← readStatements? (chars.length + 1) chars)

end LogSieve.Toml
