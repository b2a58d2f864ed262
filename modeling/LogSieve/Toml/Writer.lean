import LogSieve.Text.Decimal

/-!
# Writing TOML

Texts are written in the first of these forms that shows them without escapes: double quotes, single
quotes, three double quotes, three single quotes. A text that needs escapes is written in double
quotes, or in three of them if it has line breaks.
-/

namespace LogSieve.Toml

/-- Characters that can only be written as escapes: control characters but tab and line break. -/
def needsEscape (char : Char) : Bool :=
  char != '\t' && char != '\n' && (char.toNat < 0x20 || char.toNat == 0x7F)

/-- The longest run of a character; `run` is the length of the one at the beginning so far. -/
def longestRun (mark : Char) (run : Nat) : List Char → Nat
  | [] => run
  | char :: rest =>
      if char = mark then longestRun mark (run + 1) rest else max run (longestRun mark 0 rest)

/-- The upper-case hexadecimal digits of a code point, four at least. -/
def codeDigits (code : Nat) : List Char :=
  let digits := (Nat.toDigits 16 code).map Char.toUpper
  List.replicate (4 - digits.length) '0' ++ digits

/-- How a character is written in double quotes. -/
def escapeChar (char : Char) : List Char :=
  if char = '\x08' then ['\\', 'b']
  else if char = '\t' then ['\\', 't']
  else if char = '\n' then ['\\', 'n']
  else if char = '\x0c' then ['\\', 'f']
  else if char = '\r' then ['\\', 'r']
  else if char = '"' then ['\\', '"']
  else if char = '\\' then ['\\', '\\']
  else if char.toNat < 0x20 ∨ char.toNat = 0x7F then '\\' :: 'u' :: codeDigits char.toNat
  else [char]

/-- How a text is written in three double quotes; `run` is the number of quotes right before, and
every third one is escaped. -/
def escapeLines (run : Nat) : List Char → List Char
  | [] => []
  | char :: rest =>
      if char = '"' then
        if run = 2 then '\\' :: '"' :: escapeLines 0 rest else '"' :: escapeLines (run + 1) rest
      else if char = '\n' then '\n' :: escapeLines 0 rest
      else escapeChar char ++ escapeLines 0 rest

/-- A text in quotes. -/
def quoteText (text : String) : List Char :=
  let chars := text.toList
  let escapes := chars.any needsEscape
  let breaks := chars.contains '\n'
  let slashes := chars.contains '\\'
  let doubles := longestRun '"' 0 chars
  let singles := longestRun '\'' 0 chars
  let start := if breaks then ['\n'] else []
  let plain := '"' :: chars.flatMap escapeChar ++ ['"']
  let lines := ['"', '"', '"'] ++ start ++ escapeLines 0 chars ++ ['"', '"', '"']
  if !escapes && !slashes && doubles = 0 && !breaks then plain
  else if !escapes && singles = 0 && !breaks then '\'' :: chars ++ ['\'']
  else if !escapes && !slashes && doubles ≤ 2 then lines
  else if !escapes && singles ≤ 2 then
    ['\'', '\'', '\''] ++ start ++ chars ++ ['\'', '\'', '\'']
  else if breaks then lines
  else plain

/-- A list of texts: on one line if there is one at most, else one text a line. -/
def quoteList (texts : List String) : List Char :=
  match texts with
  | [] => ['[', ']']
  | [text] => '[' :: quoteText text ++ [']']
  | _ =>
      ['[', '\n'] ++ texts.flatMap (fun text => "    ".toList ++ quoteText text ++ [',', '\n']) ++
        [']']

/-- A setting on a line of its own. -/
def settingLine (key : String) (value : List Char) : List Char :=
  key.toList ++ [' ', '=', ' '] ++ value ++ ['\n']

/-- The header of a table. -/
def headerLine (name : String) : List Char := '[' :: name.toList ++ [']', '\n']

end LogSieve.Toml
