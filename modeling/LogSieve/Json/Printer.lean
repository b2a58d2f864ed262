import LogSieve.Json.Value

/-!
# Writing JSON

Writes a value on one line, or with one line a member and a chosen indentation.
-/

namespace LogSieve.Json

/-- The lower-case hexadecimal digit of a number below sixteen. -/
def hexChar (digit : Nat) : Char :=
  if digit < 10 then Char.ofNat ('0'.toNat + digit) else Char.ofNat ('a'.toNat + digit - 10)

/-- How a character is written in a string: quotes, backslashes and control characters are escaped,
nothing else is. -/
def escapeChar (char : Char) : List Char :=
  if char = '"' then ['\\', '"']
  else if char = '\\' then ['\\', '\\']
  else if char = '\x08' then ['\\', 'b']
  else if char = '\x0c' then ['\\', 'f']
  else if char = '\n' then ['\\', 'n']
  else if char = '\r' then ['\\', 'r']
  else if char = '\t' then ['\\', 't']
  else if char.toNat < 0x20 then
    ['\\', 'u', '0', '0', hexChar (char.toNat / 16), hexChar (char.toNat % 16)]
  else [char]

/-- A string with its quotes. -/
def quote (text : String) : List Char := '"' :: text.toList.flatMap escapeChar ++ ['"']

/-- The spelling of a truth value. -/
def boolChars : Bool → List Char
  | true => ['t', 'r', 'u', 'e']
  | false => ['f', 'a', 'l', 's', 'e']

/-- A number as mantissa and exponent. -/
def Numeral.chars (numeral : Numeral) : List Char :=
  (if numeral.negative then ['-'] else []) ++ Text.digitsOf numeral.mantissa ++
    (if numeral.plain then [] else 'e' :: Text.integerDigits numeral.exponent)

mutual

/-- A value on one line, without blanks. -/
def Value.compact : Value → List Char
  | .null => ['n', 'u', 'l', 'l']
  | .bool value => boolChars value
  | .integer value => Text.integerDigits value
  | .fraction numeral => numeral.chars
  | .string text => quote text
  | .array items => '[' :: compactItems items ++ [']']
  | .object members => '{' :: compactMembers members ++ ['}']

/-- Items divided by commas. -/
def compactItems : List Value → List Char
  | [] => []
  | [value] => value.compact
  | value :: rest => value.compact ++ ',' :: compactItems rest

/-- Members divided by commas. -/
def compactMembers : List (String × Value) → List Char
  | [] => []
  | [(key, value)] => quote key ++ ':' :: value.compact
  | (key, value) :: rest => quote key ++ ':' :: value.compact ++ ',' :: compactMembers rest

end

/-- A line break and the indentation of a level. -/
def newLine (indent : List Char) (level : Nat) : List Char :=
  '\n' :: (List.replicate level indent).flatten

mutual

/-- A value with one line an item or member, from a level of indentation on. Empty containers stay
on their line. -/
def Value.indented (indent : List Char) (level : Nat) : Value → List Char
  | .null => ['n', 'u', 'l', 'l']
  | .bool value => boolChars value
  | .integer value => Text.integerDigits value
  | .fraction numeral => numeral.chars
  | .string text => quote text
  | .array [] => ['[', ']']
  | .array items =>
      '[' :: indentedItems indent (level + 1) items ++ newLine indent level ++ [']']
  | .object [] => ['{', '}']
  | .object members =>
      '{' :: indentedMembers indent (level + 1) members ++ newLine indent level ++ ['}']

/-- Items, each on a line of its own, with commas between them. -/
def indentedItems (indent : List Char) (level : Nat) : List Value → List Char
  | [] => []
  | [value] => newLine indent level ++ value.indented indent level
  | value :: rest =>
      newLine indent level ++ value.indented indent level ++ ',' :: indentedItems indent level rest

/-- Members, each on a line of its own, with commas between them. -/
def indentedMembers (indent : List Char) (level : Nat) : List (String × Value) → List Char
  | [] => []
  | [(key, value)] =>
      newLine indent level ++ quote key ++ ':' :: ' ' :: value.indented indent level
  | (key, value) :: rest =>
      newLine indent level ++ quote key ++ ':' :: ' ' :: value.indented indent level ++
        ',' :: indentedMembers indent level rest

end

/-- A value on one line. -/
def Value.toLine (value : Value) : String := String.ofList value.compact

/-- A value with one line a member, indented by a number of blanks a level. -/
def Value.toLines (width : Nat) (value : Value) : String :=
  String.ofList (value.indented (List.replicate width ' ') 0)

end LogSieve.Json
